import GuestHarness.Proofs.Yaml.Records
import GuestHarness.Yaml.Content

/-!
Data of several kinds. A mapping that tells its kind in one of its entries is taken apart before its
fields are read: what the other entries hold becomes content, and the fields of the kind are read
from that. Where the nodes hold data, their content is a matter of the data alone, and so is what is
read from it.
-/

namespace GuestHarness.Yaml

/-! ### The content of data -/

namespace Value

mutual
/-- Data as content. -/
def content : Value → Content
  | .null => .null
  | .bool b => .bool b
  | .integer n => .integer n
  | .text s => .text s
  | .list items => .list (contents items)
  | .record fields => .mapping (entryContents fields)
  | .tagged _ v => v.content

/-- The items of a list as content. -/
def contents : List Value → List Content
  | [] => []
  | v :: vs => v.content :: contents vs

/-- The fields of a record as content. -/
def entryContents : List (String × Value) → List (Content × Content)
  | [] => []
  | (name, v) :: fields => (.text name, v.content) :: entryContents fields
end

/-- The data can be kept as content: without tags, with numbers of 64 bits, and with collections
nested at most so deep. -/
def fits : Nat → Value → Bool
  | depth + 1, .list items => items.all (fits depth)
  | depth + 1, .record fields => fields.all fun f => fits depth f.2
  | _, .integer n => Content.isKept n
  | _, .null => true
  | _, .bool _ => true
  | _, .text _ => true
  | _, _ => false

variable {v : Value} {x : ScalarValue}

@[simp] lemma fits_null (depth : Nat) : fits depth .null = true := by cases depth <;> rfl

@[simp] lemma fits_text (depth : Nat) (s : String) : fits depth (.text s) = true := by
  cases depth <;> rfl

@[simp] lemma fits_integer (depth : Nat) (i : Int) :
    fits depth (.integer i) = Content.isKept i := by
  cases depth <;> rfl

lemma content_of_scalar (h : v.scalar? = some x) : v.content = x.content := by
  cases v <;> simp only [scalar?, Option.some.injEq, reduceCtorEq] at h
  all_goals
    subst h
    simp [content, ScalarValue.content]

lemma isKept_of_fits {depth : Nat} {i : Int} (h : v.scalar? = some (.integer i))
    (hfits : v.fits depth = true) : Content.isKept i = true := by
  cases v <;> simp only [scalar?, Option.some.injEq, ScalarValue.integer.injEq, reduceCtorEq] at h
  subst h
  rwa [fits_integer] at hfits

end Value

namespace Content

/-- The value of an entry stands one step below the mapping. -/
lemma depthOf_entryPath (p : Place) (key : Node) :
    depthOf (p.entryPath key) = depthOf p.path + 1 := by
  cases key <;> rfl

variable {d : Document} {budget : Nat} {read : Path → Node → Budgeted Content}

lemma run_bind_ok {α β : Type} {x : Budgeted α} {a : α} {n m : Nat} (h : x.run n = .ok (a, m))
    (f : α → Budgeted β) : (x >>= f).run n = (f a).run m := by
  rw [StateT.run_bind, h]
  rfl

/-- No alias holds data, so none has to be followed. -/
lemma run_follow {v : Value} {n : Node} (d : Document) (h : v.isAt n = true) :
    (follow d n).run budget = .ok (n, budget) := by
  cases n with
  | «alias» number =>
    rw [Value.isAt_alias] at h
    cases h
  | _ => rfl

lemma ofItems_of_itemsAt {vs : List Value} {ns : List Node} (path : Path) (i : Nat)
    (h : Value.itemsAt vs ns = true)
    (hread : ∀ v ∈ vs, ∀ path n, v.isAt n = true →
      (read path n).run budget = .ok (v.content, budget)) :
    (ofItems read path i ns).run budget = .ok (Value.contents vs, budget) := by
  induction vs generalizing i ns with
  | nil =>
    cases ns with
    | nil => rfl
    | cons n ns => cases h
  | cons v vs ih =>
    cases ns with
    | nil => cases h
    | cons n ns =>
      obtain ⟨hv, hvs⟩ : _ ∧ _ := by simpa [Value.itemsAt] using h
      rw [ofItems, run_bind_ok (hread v (by simp) _ _ hv),
        run_bind_ok (ih (i + 1) hvs fun w hw => hread w (by simp [hw]))]
      rfl

lemma ofEntries_of_fieldsAt {fs : List (String × Value)} {entries : List (Node × Node)} (p : Place)
    (h : Value.fieldsAt fs entries = true)
    (hkey : ∀ name path n, n.isText name = true →
      (read path n).run budget = .ok (.text name, budget))
    (hread : ∀ f ∈ fs, ∀ path n, f.2.isAt n = true →
      (read path n).run budget = .ok (f.2.content, budget)) :
    (ofEntries read p entries).run budget = .ok (Value.entryContents fs, budget) := by
  induction fs generalizing entries with
  | nil =>
    cases entries with
    | nil => rfl
    | cons e entries => cases h
  | cons f fs ih =>
    obtain ⟨name, v⟩ := f
    cases entries with
    | nil => cases h
    | cons e entries =>
      obtain ⟨k, n⟩ := e
      obtain ⟨⟨hk, hv⟩, hrest⟩ : (_ ∧ _) ∧ _ := by simpa [Value.fieldsAt] using h
      rw [ofEntries, run_bind_ok (hkey name _ _ hk),
        run_bind_ok (hread (name, v) (by simp) _ _ hv),
        run_bind_ok (ih hrest fun g hg => hread g (by simp [hg]))]
      rfl

/-- A scalar without a tag is kept as what it stands for. -/
lemma ofNodeWith_scalar {s : Scalar} {x : ScalarValue}
    {inner : Option (Path → Node → Budgeted Content)} (path : Path) (h : s.isOf x = true)
    (hkept : ∀ n, x = .integer n → isKept n = true) :
    (ofNodeWith d inner path (.scalar s)).run budget = .ok (x.content, budget) := by
  have htag : s.tag = none := (Scalar.isOf_iff.1 h).1
  have hvalue : s.value = .ok x := by
    simp only [Scalar.isOf, Bool.and_eq_true, decide_eq_true_eq] at h
    exact toOption_eq_some_iff.1 h.2
  unfold ofNodeWith
  rw [run_bind_ok (rfl : (follow d (.scalar s)).run budget = .ok (.scalar s, budget))]
  simp only [Node.tag?, htag, localTag?, Option.isSome_none, Bool.false_eq_true, if_false, hvalue]
  cases x with
  | integer n =>
    simp only [hkept n rfl, if_true]
    rfl
  | _ => rfl

lemma ofNode_scalar {v : Value} {x : ScalarValue} {n : Node} {depth : Nat} (path : Path)
    (hx : v.scalar? = some x) (h : v.isAt n = true) (hfits : v.fits depth = true) :
    (ofNode d depth path n).run budget = .ok (v.content, budget) := by
  obtain ⟨s, rfl, hs⟩ := Value.exists_scalar_of_isAt hx h
  have hkept : ∀ i, x = .integer i → isKept i = true := by
    rintro i rfl
    exact Value.isKept_of_fits hx hfits
  rw [Value.content_of_scalar hx]
  cases depth <;> exact ofNodeWith_scalar path hs hkept

lemma ofNode_of_isText {k : Node} {name : String} {depth : Nat} (path : Path)
    (h : k.isText name = true) :
    (ofNode d depth path k).run budget = .ok (.text name, budget) := by
  cases k with
  | scalar s =>
    have hs : s.isOf (.text name) = true := h
    cases depth <;> exact ofNodeWith_scalar path hs (by simp)
  | _ => cases h

/-- **A node that holds data is kept as the content of the data.** -/
lemma ofNode_of_isAt {v : Value} {n : Node} {depth : Nat} (path : Path) (h : v.isAt n = true)
    (hfits : v.fits depth = true) :
    (ofNode d depth path n).run budget = .ok (v.content, budget) := by
  induction depth generalizing v n path with
  | zero =>
    cases hx : v.scalar? with
    | some x => exact ofNode_scalar path hx h hfits
    | none => cases v <;> simp_all [Value.scalar?, Value.fits]
  | succ depth ih =>
    cases hx : v.scalar? with
    | some x => exact ofNode_scalar path hx h hfits
    | none =>
      cases v with
      | list items =>
        obtain ⟨ns, rfl, hns⟩ := Value.exists_of_isAt_list h
        have hitems : ∀ v ∈ items, v.fits depth = true := List.all_eq_true.1 hfits
        have hread := ofItems_of_itemsAt path 0 hns fun v hv path n hn => ih path hn (hitems v hv)
        rw [ofNode, ofNodeWith, run_bind_ok (run_follow d h), Value.content]
        exact run_bind_ok hread _
      | record fs =>
        obtain ⟨entries, rfl, hentries⟩ := Value.exists_of_isAt_record h
        have hfields : ∀ f ∈ fs, f.2.fits depth = true := List.all_eq_true.1 hfits
        have hread := ofEntries_of_fieldsAt ⟨d, path, .mapping none entries⟩ hentries
          (fun name path n => ofNode_of_isText path)
          fun f hf path n hn => ih path hn (hfields f hf)
        rw [ofNode, ofNodeWith, run_bind_ok (run_follow d h), Value.content]
        exact run_bind_ok hread _
      | _ => simp_all [Value.scalar?, Value.fits]

/-! ### Records as content -/

section Record

variable {α : Type} {F : Fields Content α} {fs : List (String × Value)} {a : α}

/-- The entries of content that is a record are all found. -/
lemma listEntries_entryContents {names : List String} (n : Nat)
    (known : List (String × Nat × Content)) (hnames : ∀ f ∈ fs, f.1 ∈ names)
    (hnodup : (fs.map Prod.fst).Nodup) (hfresh : ∀ g ∈ known, g.1 ∉ fs.map Prod.fst) :
    ∃ found, listEntries names n known (Value.entryContents fs) =
        ⟨known.reverse ++ found, n + fs.length, none⟩ ∧
      Lists (fun v c => c = v.content) fs found := by
  induction fs generalizing n known with
  | nil => exact ⟨[], by simp [listEntries, Value.entryContents], .nil⟩
  | cons f fs ih =>
    obtain ⟨name, v⟩ := f
    rw [List.map_cons, List.nodup_cons] at hnodup
    have hname : names.contains name = true := by simpa using hnames (name, v) (by simp)
    have hnew : known.any (·.1 = name) = false :=
      List.any_eq_false.2 fun g hg hname => hfresh g hg (by simp [of_decide_eq_true hname])
    obtain ⟨found, hfound, hlists⟩ := ih (n + 1) ((name, n, v.content) :: known)
      (fun f hf => hnames f (by simp [hf])) hnodup.2 (fun g hg => by
        obtain rfl | hg := List.mem_cons.1 hg
        · exact hnodup.1
        · exact fun hmem => hfresh g hg (by simp [hmem]))
    refine ⟨(name, n, v.content) :: found, ?_, .cons ⟨rfl, rfl⟩ hlists⟩
    rw [Value.entryContents, listEntries]
    simp only [Option.filter_some, hname, hnew, if_true, Bool.false_eq_true, if_false, hfound]
    simp [Nat.add_assoc, Nat.add_comm 1]

/-- **Content that is a record is read field by field.** -/
lemma record_content (expected : String) (hnames : (fs.map Prod.fst).Sublist F.names)
    (hnodup : F.names.Nodup) (h : F.Gives (fun v c => c = v.content) fs a) :
    record expected F (Value.record fs).content = .ok a := by
  have hknown : ∀ f ∈ fs, f.1 ∈ F.names := fun f hf => hnames.subset (List.mem_map_of_mem hf)
  obtain ⟨found, hfound, hlists⟩ := listEntries_entryContents 0 [] hknown (hnodup.sublist hnames)
    (by simp)
  have hbuild := h ⟨found, 0 + fs.length, none⟩ hlists
  rw [List.reverse_nil, List.nil_append] at hfound
  simp only [Value.content, record, hfound, hbuild]
  rfl

end Record
end Content

/-! ### Kinds -/

section Kinds

variable {α : Type} {kinds : List (String × α)} {name : String} {fs : List (String × Value)}

lemma readKind_of_isAt {p : Place} {a : α} (h : (Value.text name).isAt p.node = true)
    (hkind : variant kinds name = .ok a) : readKind kinds p = .ok a := by
  have hname : p.textAs "variant identifier" = .ok name := reads_textAs _ name p h
  simp only [readKind, hname, bind, Except.bind, hkind]
  rfl

/-- The entries that do not tell the kind are kept as content. -/
lemma takeKind_of_fieldsAt {p : Place} {depth budget : Nat} {entries : List (Node × Node)}
    (kind : Option α) (found : List (Content × Content)) (h : Value.fieldsAt fs entries = true)
    (hother : kindKey ∉ fs.map Prod.fst) (hfits : ∀ f ∈ fs, f.2.fits depth = true) :
    (takeKind kinds p depth kind found entries).run budget =
      .ok ((kind, found.reverse ++ Value.entryContents fs), budget) := by
  induction fs generalizing entries found with
  | nil =>
    cases entries with
    | nil => simp [takeKind, Value.entryContents]; rfl
    | cons e entries => cases h
  | cons f fs ih =>
    obtain ⟨name, v⟩ := f
    cases entries with
    | nil => cases h
    | cons e entries =>
      obtain ⟨k, n⟩ := e
      obtain ⟨⟨hk, hv⟩, hrest⟩ : (_ ∧ _) ∧ _ := by simpa [Value.fieldsAt] using h
      rw [List.map_cons, List.mem_cons, not_or] at hother
      rw [takeKind, Content.run_bind_ok (Content.ofNode_of_isText p.path hk)]
      simp only [Ne.symm hother.1, if_false]
      rw [Content.run_bind_ok (Content.ofNode_of_isAt _ hv (hfits (name, v) (by simp))),
        ih _ hrest hother.2 fun g hg => hfits g (by simp [hg])]
      simp [Value.entryContents]

/-- **A mapping whose first entry tells the kind is read as the fields of that kind.** -/
theorem byKind_of_isAt {kinds : List (String × (Content → Read α))} {read : Content → Read α}
    {a : α} {p : Place} (expected : String)
    (h : (Value.record ((kindKey, .text name) :: fs)).isAt p.node = true)
    (hkind : variant kinds name = .ok read) (hother : kindKey ∉ fs.map Prod.fst)
    (hfits : ∀ f ∈ fs, f.2.fits (Content.depthLimit - Content.depthOf p.path - 1) = true)
    (hread : read (Value.record fs).content = .ok a) : p.byKind expected kinds = .ok a := by
  obtain ⟨entries, hp, hentries⟩ := Value.exists_of_isAt_record h
  cases entries with
  | nil => cases hentries
  | cons e entries =>
    obtain ⟨k, n⟩ := e
    obtain ⟨⟨hk, hv⟩, hrest⟩ : (_ ∧ _) ∧ _ := by simpa [Value.fieldsAt] using hentries
    have hname : readKind kinds (p.inner (p.entryPath k) n) = .ok read :=
      readKind_of_isAt (isAt_inner hv p _) hkind
    have htake : (takeKind kinds p (Content.depthLimit - Content.depthOf p.path - 1) none []
        ((k, n) :: entries)).run (Content.repetitionLimit * p.document.size) =
          .ok ((some read, Value.entryContents fs), Content.repetitionLimit * p.document.size) := by
      rw [takeKind, Content.run_bind_ok (Content.ofNode_of_isText p.path hk)]
      simp only [if_true, Option.isSome_none, Bool.false_eq_true, if_false, hname]
      rw [Content.run_bind_ok rfl, takeKind_of_fieldsAt (some read) [] hrest hother hfits]
      rfl
    unfold Place.byKind
    simp only [hp, Node.tag?, localTag?, Option.isSome_none, Bool.false_eq_true, if_false, htake,
      bind, Except.bind]
    exact hread

end Kinds
end GuestHarness.Yaml
