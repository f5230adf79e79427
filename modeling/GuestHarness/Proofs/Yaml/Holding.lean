import GuestHarness.Proofs.Clock
import GuestHarness.Yaml.Record
import GuestHarness.Yaml.Value
import Mathlib.Data.List.Forall2

/-!
Nodes that hold data. The text of some data is read into nodes, and the nodes are read as what the
data stand for; where the text layer has done its work, the two halves meet at nodes that hold the
data, however their scalars are quoted. Reading such a node is then a matter of the data alone.
-/

namespace GuestHarness.Yaml

/-! ### Nodes and data -/

/-- The scalar has no tag and stands for a value. -/
def Scalar.isOf (s : Scalar) (x : ScalarValue) : Bool :=
  s.tag = none && s.value.toOption = some x

namespace Node

/-- The node is a text. -/
def isText (t : String) : Node → Bool
  | .scalar s => s.isOf (.text t)
  | _ => false

/-- The node is a zero with a minus sign, as nothing is written. -/
def isMinusZero : Node → Bool
  | .scalar s => s.style = .plain && s.content.head? = some '-' && integer? s.content = some 0
  | _ => false

/-- The value of an entry is a zero with a minus sign. -/
def hasMinusZero : Node → Bool
  | .mapping _ entries => entries.any fun e => e.2.isMinusZero
  | _ => false

/-- The node without its tag. -/
def untagged : Node → Node
  | .scalar s => .scalar { s with tag := none }
  | .sequence _ items => .sequence none items
  | .mapping _ entries => .mapping none entries
  | n => n

end Node

namespace Value

mutual
/-- The node holds the data. -/
def isAt : Value → Node → Bool
  | .null, .scalar s => s.isOf .null
  | .bool b, .scalar s => s.isOf (.bool b)
  | .integer n, .scalar s => s.isOf (.integer n)
  | .text t, .scalar s => s.isOf (.text t)
  | .list items, .sequence none ns => itemsAt items ns
  | .record fields, .mapping none entries => fieldsAt fields entries
  | .tagged tag v, n => n.tag? = some ('!' :: tag.toList) && v.isAt n.untagged
  | _, _ => false

/-- The nodes hold the items, one each. -/
def itemsAt : List Value → List Node → Bool
  | [], [] => true
  | v :: vs, n :: ns => v.isAt n && itemsAt vs ns
  | _, _ => false

/-- The pairs of nodes hold the fields, one each. -/
def fieldsAt : List (String × Value) → List (Node × Node) → Bool
  | [], [] => true
  | (name, v) :: fields, (k, n) :: entries => k.isText name && v.isAt n && fieldsAt fields entries
  | _, _ => false
end

/-- The text layer gives back the data that it wrote. -/
def ReadsBack (v : Value) : Prop :=
  (Document.ofText v.render).whole = true ∧ v.isAt (Document.ofText v.render).root = true

instance (v : Value) : Decidable v.ReadsBack := inferInstanceAs (Decidable (_ ∧ _))

variable {v : Value} {n : Node}

/-- No alias holds data. -/
lemma isAt_alias (v : Value) (number : Nat) : v.isAt (.alias number) = false := by
  cases v <;> rfl

lemma resolve_of_isAt (d : Document) (h : v.isAt n = true) : d.resolve n = n := by
  cases n with
  | «alias» number =>
    rw [isAt_alias] at h
    cases h
  | _ => rfl

lemma exists_of_isAt_list {items : List Value} (h : (Value.list items).isAt n = true) :
    ∃ ns, n = .sequence none ns ∧ itemsAt items ns = true := by
  cases n with
  | sequence tag ns =>
    cases tag with
    | none => exact ⟨ns, rfl, h⟩
    | some t => cases h
  | _ => cases h

lemma exists_of_isAt_record {fields : List (String × Value)}
    (h : (Value.record fields).isAt n = true) :
    ∃ entries, n = .mapping none entries ∧ fieldsAt fields entries = true := by
  cases n with
  | mapping tag entries =>
    cases tag with
    | none => exact ⟨entries, rfl, h⟩
    | some t => cases h
  | _ => cases h

/-- What data stands for that is written as a scalar. -/
def scalar? : Value → Option ScalarValue
  | .null => some .null
  | .bool b => some (.bool b)
  | .integer n => some (.integer n)
  | .text s => some (.text s)
  | _ => none

lemma exists_scalar_of_isAt {x : ScalarValue} (hx : v.scalar? = some x) (h : v.isAt n = true) :
    ∃ s, n = .scalar s ∧ s.isOf x = true := by
  cases n with
  | scalar s =>
    refine ⟨s, rfl, ?_⟩
    cases v <;> cases hx <;> exact h
  | _ => cases v <;> cases hx <;> cases h

/-- Data that something that may be left out is taken for. -/
def isPresent : Value → Bool
  | .null => false
  | .tagged .. => false
  | _ => true

lemma ne_null_of_isPresent {x : ScalarValue} (hx : v.scalar? = some x) (h : v.isPresent = true) :
    x ≠ .null := by
  rintro rfl
  cases v <;> cases hx
  cases h

end Value

/-! ### Scalars -/

namespace ScalarValue

variable {cs : List Char}

lemma eq_of_ofPlain_text {t : String} (h : ofPlain cs = .text t) : String.ofList cs = t := by
  unfold ofPlain at h
  grind

lemma ofPlain_ne_null (h : ofPlain cs ≠ .null) : (cs = [] || isNull cs) = false := by
  unfold ofPlain at h
  grind

lemma null_of_ofPlain (h : ofPlain cs = .null) : (cs = [] || isNull cs) = true := by
  unfold ofPlain at h
  grind

lemma bool?_of_ofPlain {b : Bool} (h : ofPlain cs = .bool b) : bool? cs = some b := by
  unfold ofPlain at h
  grind

lemma integer?_of_ofPlain {n : Int} (h : ofPlain cs = .integer n) : integer? cs = some n := by
  have hfilter : (integer? cs).filter isWide = some n := by
    unfold ofPlain at h
    grind
  exact (Option.filter_eq_some_iff.1 hfilter).1

end ScalarValue

namespace Scalar

variable {s : Scalar} {x : ScalarValue}

/-- What a scalar without a tag stands for. -/
lemma isOf_iff : s.isOf x = true ↔ s.tag = none ∧
    (if s.style = .plain then .ofPlain s.content else .text (String.ofList s.content)) = x := by
  simp only [isOf, Bool.and_eq_true, decide_eq_true_eq]
  refine and_congr_right fun htag => ?_
  have hcore : ∀ name, s.hasCoreTag name = false := fun name => by simp [hasCoreTag, htag]
  rw [value]
  simp only [hcore, Bool.false_eq_true, if_false, htag, Option.all_none, Bool.and_true,
    decide_eq_true_eq]
  split <;> simp [Except.toOption]

/-- Only a plain scalar stands for something other than a text. -/
lemma plain_of_isOf (h : s.isOf x = true) (hx : ∀ t, x ≠ .text t) :
    s.style = .plain ∧ .ofPlain s.content = x := by
  obtain ⟨-, h⟩ := isOf_iff.1 h
  split at h
  · next hs => exact ⟨hs, h⟩
  · exact absurd h.symm (hx _)

lemma content_of_isOf_text {t : String} (h : s.isOf (.text t) = true) :
    String.ofList s.content = t := by
  obtain ⟨-, h⟩ := isOf_iff.1 h
  split at h
  · exact ScalarValue.eq_of_ofPlain_text h
  · exact ScalarValue.text.inj h

end Scalar

/-! ### Reading nodes that hold data -/

/-- Every node that holds the data is read as the result. -/
def Reads {α : Type} (read : Place → Read α) (v : Value) (a : α) : Prop :=
  ∀ p : Place, v.isAt p.node = true → read p = .ok a

section Reads

variable {α : Type} {read : Place → Read α} {v : Value} {a : α}

lemma isAt_inner {n : Node} (h : v.isAt n = true) (p : Place) (path : Path) :
    v.isAt (p.inner path n).node = true := by
  rw [Place.inner, Value.resolve_of_isAt _ h]
  exact h

lemma reads_textAs (expected t : String) : Reads (Place.textAs expected) (.text t) t := by
  rintro ⟨d, path, n⟩ h
  obtain ⟨s, rfl, hs⟩ := Value.exists_scalar_of_isAt rfl h
  simp only [Place.textAs]
  rw [Scalar.content_of_isOf_text hs]

lemma textAs_of_isText {k : Node} {t : String} (h : k.isText t = true) (p : Place) (path : Path)
    (expected : String) : (p.inner path k).textAs expected = .ok t := by
  refine reads_textAs expected t _ (isAt_inner ?_ p path)
  cases k with
  | scalar s => exact h
  | _ => cases h

lemma reads_text (t : String) : Reads Place.text (.text t) t := reads_textAs _ t

lemma reads_filePath (t : String) : Reads Place.filePath (.text t) t := reads_textAs _ t

lemma reads_flag (b : Bool) : Reads Place.flag (.bool b) b := by
  rintro ⟨d, path, n⟩ h
  obtain ⟨s, rfl, hs⟩ := Value.exists_scalar_of_isAt rfl h
  obtain ⟨hplain, hb⟩ := Scalar.plain_of_isOf hs (by simp)
  simp [Place.flag, Scalar.isBare, hplain, ScalarValue.bool?_of_ofPlain hb]

/-- Only zero may be written with a minus sign, which no natural number is read with. -/
lemma natural_of_isAt {limit n : Nat} {p : Place} (kind : String)
    (h : (Value.integer n).isAt p.node = true) (hzero : p.node.isMinusZero = false)
    (hlt : n < limit) (hwide : limit ≤ 0x10000000000000000) : p.natural limit kind = .ok n := by
  obtain ⟨d, path, node⟩ := p
  obtain ⟨s, rfl, hs⟩ := Value.exists_scalar_of_isAt rfl h
  obtain ⟨hplain, hn⟩ := Scalar.plain_of_isOf hs (by simp)
  have hint := ScalarValue.integer?_of_ofPlain hn
  have hsign : s.content.head? ≠ some '-' := by
    intro hc
    have hnonzero : n ≠ 0 := by
      rintro rfl
      simp [Node.isMinusZero, hplain, hc, hint] at hzero
    -- a number with a minus sign is not positive
    obtain ⟨rest, hrest⟩ := List.head?_eq_some_iff.1 hc
    rw [hrest, integer?] at hint
    split at hint
    · cases hint
    · obtain ⟨m, hm, hneg⟩ := Option.map_eq_some_iff.1 hint
      obtain ⟨k, -, hk⟩ := Option.bind_eq_some_iff.1 hm
      obtain rfl : (k : Int) = m := Option.some.inj hk
      omega
  have hsmall : ¬ (0x10000000000000000 : Int) ≤ n := by omega
  simp [Place.natural, Scalar.isBare, hplain, hsign, hint, hsmall, hlt]

lemma reads_natural {limit n : Nat} (kind : String) (hpos : 0 < n) (hlt : n < limit)
    (hwide : limit ≤ 0x10000000000000000) : Reads (Place.natural limit kind) (.integer n) n := by
  intro p h
  refine natural_of_isAt kind h ?_ hlt hwide
  obtain ⟨s, hp, hs⟩ := Value.exists_scalar_of_isAt rfl h
  have hint := ScalarValue.integer?_of_ofPlain (Scalar.plain_of_isOf hs (by simp)).2
  have hnonzero : n ≠ 0 := by omega
  simp [hp, Node.isMinusZero, hint, hnonzero]

lemma optional_of_isAt {p : Place} (hp : v.isAt p.node = true) (hv : v.isPresent = true)
    (h : read p = .ok a) : p.optional read = .ok (some a) := by
  have hread : some <$> read p = .ok (some a) := by rw [h]; rfl
  obtain ⟨d, path, n⟩ := p
  cases hx : v.scalar? with
  | some x =>
    obtain ⟨s, rfl, hs⟩ := Value.exists_scalar_of_isAt hx hp
    obtain ⟨htag, hs⟩ := Scalar.isOf_iff.1 hs
    simp only [Place.optional, Scalar.hasCoreTag, htag, hread]
    by_cases hstyle : s.style = .plain
    · rw [if_pos hstyle] at hs
      have hcontent := ScalarValue.ofPlain_ne_null (hs ▸ Value.ne_null_of_isPresent hx hv)
      simp only [Bool.or_eq_false_iff, decide_eq_false_iff_not] at hcontent
      simp [hstyle, hcontent]
    · simp [hstyle]
  | none =>
    cases v with
    | list items =>
      obtain ⟨ns, rfl, -⟩ := Value.exists_of_isAt_list hp
      exact hread
    | record fields =>
      obtain ⟨entries, rfl, -⟩ := Value.exists_of_isAt_record hp
      exact hread
    | tagged tag v => cases hv
    | _ => cases hx

lemma reads_optional (h : Reads read v a) (hv : v.isPresent = true) :
    Reads (Place.optional read) v (some a) :=
  fun p hp => optional_of_isAt hp hv (h p hp)

/-- Null is written for nothing. -/
lemma reads_optional_null : Reads (Place.optional read) .null none := by
  rintro ⟨d, path, n⟩ h
  obtain ⟨s, rfl, hs⟩ := Value.exists_scalar_of_isAt rfl h
  have htag : s.tag = none := (Scalar.isOf_iff.1 hs).1
  obtain ⟨hplain, hnull⟩ := Scalar.plain_of_isOf hs (by simp)
  have hempty := ScalarValue.null_of_ofPlain hnull
  simp only [Bool.or_eq_true, decide_eq_true_eq] at hempty
  simp [Place.optional, Scalar.hasCoreTag, hplain, htag, hempty]

lemma mapM_eq_ok_iff {ε β γ : Type} {f : β → Except ε γ} {xs : List β} {ys : List γ} :
    xs.mapM f = .ok ys ↔ List.Forall₂ (fun x y => f x = .ok y) xs ys := by
  induction xs generalizing ys with
  | nil => cases ys <;> simp [pure, Except.pure]
  | cons x xs ih =>
    rw [List.mapM_cons, List.forall₂_cons_left_iff, bind_eq_ok_iff]
    refine exists_congr fun y => ?_
    simp only [bind_eq_ok_iff, ih, pure, Except.pure, Except.ok.injEq, eq_comm (b := ys),
      exists_and_left]

/-- Reading the places of nodes that hold items. -/
lemma mapM_itemsFrom {vs : List Value} {as : List α} (h : List.Forall₂ (Reads read) vs as)
    (p : Place) (i : Nat) {ns : List Node} (hn : Value.itemsAt vs ns = true) :
    (p.itemsFrom i ns).mapM read = .ok as := by
  refine mapM_eq_ok_iff.2 ?_
  induction h generalizing i ns with
  | nil =>
    cases ns with
    | nil => exact .nil
    | cons n ns => cases hn
  | cons hread _ ih =>
    cases ns with
    | nil => cases hn
    | cons n ns =>
      obtain ⟨hv, hvs⟩ : _ ∧ _ := by simpa [Value.itemsAt] using hn
      exact .cons (hread _ (isAt_inner hv p _)) (ih (i + 1) hvs)

lemma reads_sequence {vs : List Value} {as : List α} (h : List.Forall₂ (Reads read) vs as) :
    Reads (Place.sequence read) (.list vs) as := by
  rintro ⟨d, path, n⟩ hn
  obtain ⟨ns, rfl, hns⟩ := Value.exists_of_isAt_list hn
  simp only [Place.sequence, Place.items]
  change ((Place.itemsFrom ⟨d, path, .sequence none ns⟩ 0 ns).mapM read).mapError _ = _
  rw [mapM_itemsFrom h _ 0 hns]
  rfl

lemma reads_sequence_map {data : α → Value} {as : List α} (h : ∀ a ∈ as, Reads read (data a) a) :
    Reads (Place.sequence read) (.list (as.map data)) as :=
  reads_sequence (List.forall₂_map_left_iff.2 (List.forall₂_same.2 h))

end Reads

/-- **Data that the text layer gives back are read from their text.** -/
theorem Reads.readText_render {α : Type} {read : Place → Read α} {v : Value} {a : α}
    (h : Reads read v a) (htext : v.ReadsBack) : readText read v.render = .ok a := by
  obtain ⟨hwhole, hroot⟩ := htext
  rw [readText]
  generalize Document.ofText v.render = d at hwhole hroot ⊢
  have hplace : v.isAt d.place.node = true := by
    rw [Document.place, Value.resolve_of_isAt d hroot]
    exact hroot
  simp only [h d.place hplace, hwhole, bind, Except.bind, if_true]
  rfl

/-! ### What has been read -/

/-- Whatever is read is so. -/
def Ensures {α : Type} (read : Place → Read α) (P : α → Prop) : Prop := ∀ p a, read p = .ok a → P a

section Ensures

variable {α : Type} {read : Place → Read α} {P : α → Prop}

lemma ensures_optional (h : Ensures read P) :
    Ensures (Place.optional read) fun o => ∀ a, o = some a → P a := by
  rintro ⟨d, path, n⟩ o ho a rfl
  have hsome : some <$> read ⟨d, path, n⟩ = .ok (some a) → P a := fun hread => by
    obtain ⟨b, hb, hba⟩ := map_eq_ok_iff.1 hread
    obtain rfl := Option.some.inj hba
    exact h _ _ hb
  cases n with
  | scalar s =>
    simp only [Place.optional] at ho
    split at ho
    · exact hsome ho
    · split at ho
      · split at ho <;> cases ho
      · split at ho
        · cases ho
        · exact hsome ho
  | absent => cases ho
  | _ => exact hsome ho

lemma ensures_sequence (h : Ensures read P) :
    Ensures (Place.sequence read) fun as => ∀ a ∈ as, P a := by
  intro p as has
  obtain ⟨ps, -, hmap⟩ := bind_eq_ok_iff.1 has
  have hall := mapM_eq_ok_iff.1 (mapError_eq_ok_iff.1 hmap)
  clear has hmap
  induction hall with
  | nil => simp
  | cons hread _ ih =>
    intro a ha
    obtain rfl | ha := List.mem_cons.1 ha
    · exact h _ _ hread
    · exact ih a ha

/-- A mismatch is no result. -/
lemma mismatch_ne_ok (p : Place) (expected : String) (a : α) : p.mismatch expected ≠ .ok a := by
  unfold Place.mismatch
  split
  · split <;> simp [Place.fail]
  all_goals simp [Place.fail]

lemma ensures_natural (limit : Nat) (kind : String) :
    Ensures (Place.natural limit kind) (· < limit) := by
  rintro ⟨d, path, n⟩ a ha
  cases n with
  | scalar s =>
    simp only [Place.natural] at ha
    split at ha
    · split at ha
      · exact absurd ha (mismatch_ne_ok _ _ _)
      · split at ha
        · next hlt =>
          cases ha
          exact hlt
        · cases ha
    · exact absurd ha (mismatch_ne_ok _ _ _)
  | _ => cases ha

end Ensures
end GuestHarness.Yaml
