import GuestHarness.Proofs.Yaml.Holding

/-!
Records that hold data. The entries of a mapping that holds a record are found under their names, so
each field of the reader gets the node that holds its own data, or takes its default where the
record has no such field. Conversely, what a reader of a record returns was built from what the
readers of its fields returned.
-/

namespace GuestHarness.Yaml

/-! ### Entries of a record -/

/-- The place holds the data. -/
def Place.Holds (v : Value) (p : Place) : Prop := v.isAt p.node = true

/-- The fields that were found hold the data of the record, one each, in the sense of `R`. -/
def Lists {β : Type} (R : Value → β → Prop) (fs : List (String × Value))
    (known : List (String × Nat × β)) : Prop :=
  List.Forall₂ (fun f g => g.1 = f.1 ∧ R f.2 g.2.2) fs known

section Lists

variable {β : Type} {R : Value → β → Prop} {fs : List (String × Value)}
  {known : List (String × Nat × β)} {name : String}

lemma Lists.lookup_none (h : Lists R fs known) (hf : fs.lookup name = none) :
    known.lookup name = none := by
  induction h with
  | nil => rfl
  | @cons f g fs gs hfg _ ih =>
    obtain ⟨fname, v⟩ := f
    obtain ⟨gname, found⟩ := g
    obtain rfl : gname = fname := hfg.1
    cases hc : name == gname with
    | true => simp [List.lookup_cons, hc] at hf
    | false =>
      rw [List.lookup_cons, hc] at hf ⊢
      exact ih hf

lemma Lists.lookup_some (h : Lists R fs known) {v : Value} (hf : fs.lookup name = some v) :
    ∃ position b, known.lookup name = some (position, b) ∧ R v b := by
  induction h with
  | nil => cases hf
  | @cons f g fs gs hfg _ ih =>
    obtain ⟨fname, w⟩ := f
    obtain ⟨gname, position, p⟩ := g
    obtain ⟨rfl, hp⟩ := hfg
    cases hc : name == gname with
    | true =>
      rw [List.lookup_cons, hc] at hf ⊢
      obtain rfl : w = v := Option.some.inj hf
      exact ⟨position, p, rfl, hp⟩
    | false =>
      rw [List.lookup_cons, hc] at hf ⊢
      exact ih hf

/-- The entries of a mapping that holds a record are all found. -/
lemma listEntries_of_fieldsAt {R : Value → Place → Prop} {names : List String}
    {entries : List (Node × Node)} (p : Place) (n : Nat) (known : List (String × Nat × Place))
    (h : Value.fieldsAt fs entries = true)
    (hheld : ∀ e ∈ entries, ∀ v : Value, v.isAt e.2 = true → R v (p.inner (p.entryPath e.1) e.2))
    (hnames : ∀ f ∈ fs, f.1 ∈ names) (hnodup : (fs.map Prod.fst).Nodup)
    (hfresh : ∀ g ∈ known, g.1 ∉ fs.map Prod.fst) :
    ∃ found, listEntries names p.path n known
        (entries.map fun e => (p.inner p.path e.1, p.inner (p.entryPath e.1) e.2, e.2)) =
      ⟨known.reverse ++ found, n + fs.length, none⟩ ∧ Lists R fs found := by
  induction fs generalizing n known entries with
  | nil =>
    cases entries with
    | nil => exact ⟨[], by simp [listEntries], .nil⟩
    | cons e entries => cases h
  | cons f fs ih =>
    obtain ⟨name, v⟩ := f
    cases entries with
    | nil => cases h
    | cons e entries =>
      obtain ⟨k, node⟩ := e
      obtain ⟨⟨hk, hv⟩, hrest⟩ : (_ ∧ _) ∧ _ := by simpa [Value.fieldsAt] using h
      rw [List.map_cons, List.nodup_cons] at hnodup
      have hkey := textAs_of_isText hk p p.path "field identifier"
      have hnew : known.any (·.1 = name) = false :=
        List.any_eq_false.2 fun g hg hname => hfresh g hg (by simp [of_decide_eq_true hname])
      have hplace := hheld (k, node) (by simp) v hv
      obtain ⟨found, hfound, hlists⟩ := ih (n + 1)
        ((name, n, p.inner (p.entryPath k) node) :: known) hrest
        (fun e he => hheld e (by simp [he])) (fun f hf => hnames f (by simp [hf])) hnodup.2
        (fun g hg => by
          obtain rfl | hg := List.mem_cons.1 hg
          · exact hnodup.1
          · exact fun hmem => hfresh g hg (by simp [hmem]))
      refine ⟨(name, n, p.inner (p.entryPath k) node) :: found, ?_, .cons ⟨rfl, hplace⟩ hlists⟩
      have hname : names.contains name = true := by simpa using hnames (name, v) (by simp)
      rw [List.map_cons, listEntries]
      simp only [hkey, hname, hnew, if_true, Bool.false_eq_true, if_false, hfound]
      simp [Nat.add_assoc, Nat.add_comm 1]

end Lists

/-! ### Fields of a record -/

namespace Fields

variable {α β γ : Type} {R : Value → γ → Prop} {name : String} {read : γ → Read α}
  {fs : List (String × Value)} {a : α}

/-- Where the data of a record are found, the fields build the result. -/
def Gives (R : Value → γ → Prop) (F : Fields γ α) (fs : List (String × Value)) (a : α) : Prop :=
  ∀ l : Listing γ, Lists R fs l.known → F.build l = .ok a

lemma build_map (f : α → β) (F : Fields γ α) (l : Listing γ) :
    (f <$> F).build l = (Outcome.ok f).apply (F.build l) := rfl

lemma build_seq (F : Fields γ (α → β)) (G : Fields γ α) (l : Listing γ) :
    (F <*> G).build l = (F.build l).apply (G.build l) := rfl

lemma build_required (l : Listing γ) :
    (required name read).build l = l.read name read (.error (.missingField name)) := rfl

lemma build_withDefault (value : α) (l : Listing γ) :
    (withDefault name read value).build l = l.read name read (.ok value) := rfl

lemma Gives.map {F : Fields γ α} (h : F.Gives R fs a) (f : α → β) : (f <$> F).Gives R fs (f a) :=
  fun l hl => by rw [build_map, h l hl]; rfl

lemma Gives.seq {F : Fields γ (α → β)} {G : Fields γ α} {f : α → β} (hF : F.Gives R fs f)
    (hG : G.Gives R fs a) : (F <*> G).Gives R fs (f a) :=
  fun l hl => by rw [build_seq, hF l hl, hG l hl]; rfl

variable {v : Value}

lemma read_of_lookup {l : Listing γ} (hl : Lists R fs l.known) (hf : fs.lookup name = some v)
    (h : ∀ b, R v b → read b = .ok a) (absent : Except Problem α) :
    l.read name read absent = .ok a := by
  obtain ⟨position, b, hb, hv⟩ := hl.lookup_some hf
  simp only [Listing.read, hb, h b hv]

lemma Gives.required (hf : fs.lookup name = some v) (h : ∀ b, R v b → read b = .ok a) :
    (required name read).Gives R fs a :=
  fun l hl => (build_required l).trans (read_of_lookup hl hf h _)

lemma Gives.withDefault {value : α} (hf : fs.lookup name = some v)
    (h : ∀ b, R v b → read b = .ok a) : (withDefault name read value).Gives R fs a :=
  fun l hl => (build_withDefault value l).trans (read_of_lookup hl hf h _)

/-- A field that was left out takes its default. -/
lemma Gives.leftOut {value : α} (hf : fs.lookup name = none) :
    (Fields.withDefault name read value).Gives R fs value := by
  intro l hl
  have hnone : l.known.lookup name = none := hl.lookup_none hf
  simp only [build_withDefault, Listing.read, hnone]

section Places

variable {read : Place → Read α}

lemma gives_required (hf : fs.lookup name = some v) (h : Reads read v a) :
    (required name read).Gives Place.Holds fs a :=
  Gives.required hf h

lemma gives_withDefault (hf : fs.lookup name = some v) (h : Reads read v a) (value : α) :
    (withDefault name read value).Gives Place.Holds fs a :=
  Gives.withDefault hf h

/-- A field that was left out because there is nothing in it is taken for nothing. -/
lemma gives_optional {o : Option α} (data : α → Value) (hf : fs.lookup name = o.map data)
    (hpresent : ∀ a, (data a).isPresent = true) (h : ∀ a, o = some a → Reads read (data a) a) :
    (withDefault name (Place.optional read) none).Gives Place.Holds fs o := by
  cases o with
  | some a => exact gives_withDefault hf (reads_optional (h a rfl) (hpresent a)) none
  | none => exact Gives.leftOut hf

end Places

/-! What was built was built from what was read. -/

section Built

variable {F : Fields Place α} {l : Listing Place} {read : Place → Read α} {b : β} {P : α → Prop}

lemma build_map_eq_ok {f : α → β} :
    (f <$> F).build l = .ok b ↔ ∃ a, F.build l = .ok a ∧ f a = b := by
  rw [build_map]
  cases F.build l <;> simp [Outcome.apply]

lemma build_seq_eq_ok {F : Fields Place (α → β)} {G : Fields Place α} :
    (F <*> G).build l = .ok b ↔ ∃ f, F.build l = .ok f ∧ ∃ a, G.build l = .ok a ∧ f a = b := by
  rw [build_seq]
  cases F.build l with
  | ok f => cases G.build l <;> simp [Outcome.apply]
  | fails n e =>
    cases G.build l with
    | ok a => simp [Outcome.apply]
    | fails m e' => simp only [Outcome.apply]; split <;> simp

lemma of_read {absent : Except Problem α} (h : l.read name read absent = .ok a)
    (hread : Ensures read P) (habsent : ∀ a, absent = .ok a → P a) : P a := by
  unfold Listing.read at h
  split at h
  · split at h
    · next hr =>
      cases h
      exact hread _ _ hr
    · cases h
  · split at h
    · cases h
      exact habsent _ rfl
    · cases h

lemma of_required (h : (required name read).build l = .ok a) (hread : Ensures read P) : P a :=
  of_read ((build_required l).symm.trans h) hread fun _ he => by cases he

lemma of_withDefault {value : α} (h : (withDefault name read value).build l = .ok a)
    (hread : Ensures read P) (hvalue : P value) : P a :=
  of_read ((build_withDefault value l).symm.trans h) hread fun _ he => by cases he; exact hvalue

end Built

end Fields

section Record

variable {α : Type} {F : Fields Place α} {fs : List (String × Value)} {a : α}

/-- What is known of each entry of a mapping is known where its fields are read. -/
lemma record_of_fieldsAt {R : Value → Place → Prop} {p : Place} {entries : List (Node × Node)}
    (expected : String) (hp : p.node = .mapping none entries)
    (hentries : Value.fieldsAt fs entries = true)
    (hheld : ∀ e ∈ entries, ∀ v : Value, v.isAt e.2 = true → R v (p.inner (p.entryPath e.1) e.2))
    (hnames : (fs.map Prod.fst).Sublist F.names) (hnodup : F.names.Nodup) (h : F.Gives R fs a) :
    Place.record expected F p = .ok a := by
  have hknown : ∀ f ∈ fs, f.1 ∈ F.names := fun f hf => hnames.subset (List.mem_map_of_mem hf)
  obtain ⟨found, hfound, hlists⟩ := listEntries_of_fieldsAt p 0 [] hentries hheld hknown
    (hnodup.sublist hnames) (by simp)
  have hbuild := h ⟨found, 0 + fs.length, none⟩ hlists
  simp only [Place.record, Place.entries, hp]
  change ((F.build (listEntries F.names p.path 0 [] _)).settle _).mapError _ = _
  rw [List.reverse_nil, List.nil_append] at hfound
  rw [hfound, hbuild]
  rfl

/-- **A mapping that holds a record is read field by field**, where the reader knows the fields and
each of them by one name. -/
theorem reads_record (expected : String) (hnames : (fs.map Prod.fst).Sublist F.names)
    (hnodup : F.names.Nodup) (h : F.Gives Place.Holds fs a) :
    Reads (Place.record expected F) (.record fs) a := by
  intro p hp
  obtain ⟨entries, hnode, hentries⟩ := Value.exists_of_isAt_record hp
  refine record_of_fieldsAt expected hnode hentries ?_ hnames hnodup h
  intro e _ v hv
  exact isAt_inner hv p _

end Record

lemma build_of_record {α : Type} {F : Fields Place α} {expected : String} {p : Place} {a : α}
    (h : Place.record expected F p = .ok a) : ∃ l, F.build l = .ok a := by
  obtain ⟨entries, -, h⟩ := bind_eq_ok_iff.1 h
  refine ⟨listEntries F.names p.path 0 [] entries, ?_⟩
  dsimp only at h
  cases hb : F.build (listEntries F.names p.path 0 [] entries) with
  | ok b =>
    rw [hb] at h
    cases hs : (listEntries F.names p.path 0 [] entries).stop with
    | none => rw [hs] at h; cases h; rfl
    | some stop => rw [hs] at h; cases h
  | fails n e =>
    rw [hb] at h
    cases hs : (listEntries F.names p.path 0 [] entries).stop with
    | none => rw [hs] at h; cases h
    | some stop => rw [hs] at h; cases h

lemma mapM_textPair (p : Place) {env : List (String × String)} {entries : List (Node × Node)}
    (h : Value.fieldsAt (env.map fun kv => (kv.1, .text kv.2)) entries = true) :
    (entries.map fun e => (p.inner p.path e.1, p.inner (p.entryPath e.1) e.2, e.2)).mapM textPair =
      .ok env := by
  refine mapM_eq_ok_iff.2 ?_
  induction env generalizing entries with
  | nil =>
    cases entries with
    | nil => exact .nil
    | cons e entries => cases h
  | cons kv env ih =>
    cases entries with
    | nil => cases h
    | cons e entries =>
      obtain ⟨⟨hk, hv⟩, hrest⟩ : (_ ∧ _) ∧ _ := by simpa [Value.fieldsAt] using h
      refine .cons ?_ (ih hrest)
      simp only [textPair, Place.text, textAs_of_isText hk,
        reads_textAs _ kv.2 _ (isAt_inner hv p (p.entryPath e.1))]
      rfl

/-- Reading a mapping from texts to texts. -/
lemma reads_texts (env : List (String × String)) :
    Reads Place.texts (.record (env.map fun kv => (kv.1, .text kv.2))) env := by
  intro p hp
  obtain ⟨d, path, n⟩ := p
  obtain ⟨entries, rfl, hentries⟩ := Value.exists_of_isAt_record hp
  have hpairs := mapM_textPair ⟨d, path, .mapping none entries⟩ hentries
  simp only [Place.texts, Place.entries]
  change (List.mapM textPair _).mapError _ = _
  rw [hpairs]
  rfl

end GuestHarness.Yaml
