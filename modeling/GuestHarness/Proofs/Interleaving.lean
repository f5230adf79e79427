import Mathlib.Tactic.Common

/-!
Sequences that are interleaved. The entries of a list that is marked fall into one sequence for each
mark, and the list without its marks is these sequences run together in some order. They are what is
done by parties who work side by side, of whom one moves at a time.
-/

namespace GuestHarness

/-! ### Marked lists -/

section Marked

variable {α β : Type}

/-- The entries of a marked list that bear a mark. -/
def part (i : Nat) (l : List (Nat × α)) : List α :=
  l.filterMap fun p => if p.1 = i then some p.2 else none

/-- What becomes of the entries of a marked list, each under its mark. -/
def pick (f : α → Option β) (l : List (Nat × α)) : List (Nat × β) :=
  l.filterMap fun p => (f p.2).map fun b => (p.1, b)

/-- The sequences, each in its order, make up the whole. -/
def Interleaved (parts : Nat → List α) (whole : List α) : Prop :=
  ∃ marked : List (Nat × α), marked.map Prod.snd = whole ∧ ∀ i, part i marked = parts i

variable (i : Nat) (l l' : List (Nat × α))

@[simp] lemma part_nil : part i ([] : List (Nat × α)) = [] := rfl

@[simp] lemma part_append : part i (l ++ l') = part i l ++ part i l' := List.filterMap_append

lemma part_cons (p : Nat × α) : part i (p :: l) = (if p.1 = i then [p.2] else []) ++ part i l := by
  unfold part
  rw [List.filterMap_cons]
  split <;> simp_all

@[simp] lemma part_cons_self (a : α) : part i ((i, a) :: l) = a :: part i l := by simp [part_cons]

lemma part_cons_ne {i j : Nat} (h : j ≠ i) (a : α) : part i ((j, a) :: l) = part i l := by
  simp [part_cons, h]

lemma mem_part {i : Nat} {l : List (Nat × α)} {a : α} : a ∈ part i l ↔ (i, a) ∈ l := by
  simp only [part, List.mem_filterMap, Option.ite_none_right_eq_some, Option.some.injEq]
  constructor
  · rintro ⟨⟨j, b⟩, hm, rfl, rfl⟩
    exact hm
  · intro hm
    exact ⟨(i, a), hm, rfl, rfl⟩

/-- A sequence that stands under one mark is all of its part, and nothing of any other. -/
lemma part_map_mk (i j : Nat) (as : List α) :
    part i (as.map fun a => (j, a)) = if j = i then as else [] := by
  induction as with
  | nil => simp
  | cons a as ih =>
    rw [List.map_cons, part_cons, ih]
    by_cases h : j = i <;> simp [h]

@[simp] lemma pick_append (f : α → Option β) : pick f (l ++ l') = pick f l ++ pick f l' :=
  List.filterMap_append

lemma pick_cons_none {f : α → Option β} {a : α} (h : f a = none) :
    pick f ((i, a) :: l) = pick f l := by
  simp [pick, h]

lemma pick_cons_some {f : α → Option β} {a : α} {b : β} (h : f a = some b) :
    pick f ((i, a) :: l) = (i, b) :: pick f l := by
  simp [pick, h]

/-- An entry that was picked comes from one that stands between those before it and after it. -/
lemma exists_of_pick_eq {f : α → Option β} {l : List (Nat × α)} {xs ys : List (Nat × β)} {i : Nat}
    {b : β} (h : pick f l = xs ++ (i, b) :: ys) :
    ∃ pre a post, l = pre ++ (i, a) :: post ∧ f a = some b ∧ pick f pre = xs ∧
      pick f post = ys := by
  obtain ⟨pre, rest, rfl, hpre, hrest⟩ := List.filterMap_eq_append_iff.1 h
  obtain ⟨skipped, ⟨j, a⟩, post, rfl, hskipped, ha, hpost⟩ := List.filterMap_eq_cons_iff.1 hrest
  obtain ⟨b', hb, hp⟩ := Option.map_eq_some_iff.1 ha
  obtain ⟨rfl, rfl⟩ := Prod.mk.inj hp
  have hnone : pick f skipped = [] := List.filterMap_eq_nil_iff.2 hskipped
  refine ⟨pre ++ skipped, a, post, by simp, hb, ?_, hpost⟩
  rw [pick_append, hnone, List.append_nil]
  exact hpre

lemma part_pick (f : α → Option β) : part i (pick f l) = (part i l).filterMap f := by
  induction l with
  | nil => rfl
  | cons p l ih =>
    obtain ⟨j, a⟩ := p
    have hp : pick f ((j, a) :: l) = pick f [(j, a)] ++ pick f l := pick_append [(j, a)] l f
    rw [hp, part_append, ih, part_cons, List.filterMap_append]
    congr 1
    cases hf : f a with
    | none => by_cases hj : j = i <;> simp [pick, hf, hj, part]
    | some b => by_cases hj : j = i <;> simp [pick, hf, hj, part]

lemma map_snd_pick (f : α → Option β) :
    (pick f l).map Prod.snd = (l.map Prod.snd).filterMap f := by
  simp only [pick, List.map_filterMap, List.filterMap_map, Option.map_map]
  congr 1
  funext p
  simp [Function.comp_def]

end Marked

/-- Interleaved pieces are interleaved as the sequences that they consist of. -/
lemma interleaved_flatten {α : Type} (l : List (Nat × List α)) :
    Interleaved (fun i => (part i l).flatten) (l.map Prod.snd).flatten := by
  refine ⟨l.flatMap fun p => p.2.map fun a => (p.1, a), ?_, fun i => ?_⟩
  · simp [List.flatMap_def, Function.comp_def]
  · dsimp only
    induction l with
    | nil => rfl
    | cons p l ih =>
      obtain ⟨j, as⟩ := p
      rw [List.flatMap_cons, part_append, ih, part_map_mk, part_cons]
      by_cases hj : j = i <;> simp [hj]

lemma interleaved_pick {α β : Type} (f : α → Option β) (l : List (Nat × α)) :
    Interleaved (fun i => (part i l).filterMap f) ((l.map Prod.snd).filterMap f) :=
  ⟨pick f l, map_snd_pick l f, fun i => part_pick i l f⟩

/-- When one of several parties moves, the number of those with a property changes with it alone. -/
lemma countP_set_add {α : Type} {p : α → Bool} {l : List α} {i : Nat} {a : α} (h : l[i]? = some a)
    (b : α) :
    (l.set i b).countP p + (if p a then 1 else 0) = l.countP p + (if p b then 1 else 0) := by
  obtain ⟨hi, rfl⟩ := List.getElem?_eq_some_iff.1 h
  have hpos : p l[i] → 0 < l.countP p := fun ha => List.countP_pos_iff.2 ⟨_, List.getElem_mem hi, ha⟩
  rw [List.countP_set hi]
  split <;> split <;> simp_all

end GuestHarness
