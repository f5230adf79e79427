import GuestHarness.FileTree
import GuestHarness.Proofs.Clock
import Mathlib.Tactic.Common

/-!
What changes to a tree of files leave as it was. A change at a place is a change there and nowhere
else, and making directories changes nothing that stands already.
-/

namespace GuestHarness
namespace FileTree


variable {t t' t'' : FileTree} {path : String} {place other : List String} {content : Bytes}
  {executable : Bool}

/-! ### What stands at a place -/

lemma entryAt_of_ne_nil (h : place ≠ []) : t.entryAt place = t.entries.lookup place := if_neg h

lemma ne_nil_of_file (h : t.entryAt place = some (.file content executable)) : place ≠ [] := by
  rintro rfl
  cases h

lemma lookup_replace_self {entries : List (List String × FileEntry)} {entry : FileEntry}
    (h : entries.any (·.1 = place)) :
    (entries.map fun e => if e.1 = place then (place, entry) else e).lookup place =
      some entry := by
  induction entries with
  | nil => cases h
  | cons e rest ih =>
    by_cases he : e.1 = place
    · simp [he]
    · have hne : (place == e.1) = false := beq_false_of_ne (Ne.symm he)
      simp only [List.any_cons, he, decide_false, Bool.false_or] at h
      rw [List.map_cons, if_neg he, List.lookup_cons, hne]
      exact ih h

lemma lookup_replace_of_ne (entries : List (List String × FileEntry)) (entry : FileEntry)
    (h : other ≠ place) :
    (entries.map fun e => if e.1 = place then (place, entry) else e).lookup other =
      entries.lookup other := by
  induction entries with
  | nil => rfl
  | cons e rest ih =>
    rw [List.map_cons, List.lookup_cons, List.lookup_cons, ih]
    by_cases he : e.1 = place
    · rw [if_pos he, he, beq_false_of_ne h]
    · rw [if_neg he]

lemma entryAt_insert_self (entry : FileEntry) (h : place ≠ []) :
    (t.insert place entry).entryAt place = some entry := by
  rw [entryAt_of_ne_nil h, insert]
  split
  · next hany => exact lookup_replace_self hany
  · next hany =>
    have hnone : t.entries.lookup place = none := List.lookup_eq_none_iff.2 fun e he => by
      simp only [List.any_eq_true, decide_eq_true_eq, not_exists, not_and] at hany
      simpa using Ne.symm (hany e he)
    rw [List.lookup_append, hnone]
    simp

lemma entryAt_insert_of_ne (entry : FileEntry) (h : other ≠ place) :
    (t.insert place entry).entryAt other = t.entryAt other := by
  by_cases hnil : other = []
  · rw [hnil]
    rfl
  · rw [entryAt_of_ne_nil hnil, entryAt_of_ne_nil hnil, insert]
    split
    · exact lookup_replace_of_ne t.entries entry h
    · rw [List.lookup_append, List.lookup_cons, beq_false_of_ne h]
      simp

lemma entryAt_append_self (more : Bytes)
    (h : t.entryAt place = some (.file content executable)) :
    (t.append place more).entryAt place = some (.file (content ++ more) executable) := by
  rw [append, h]
  exact entryAt_insert_self _ (ne_nil_of_file h)

lemma entryAt_append_of_ne (more : Bytes) (h : other ≠ place) :
    (t.append place more).entryAt other = t.entryAt other := by
  unfold append
  split
  · exact entryAt_insert_of_ne _ h
  · rfl

/-! ### Directories -/

/-- Nothing that stands in the first tree is changed in the second, which has more directories. -/
def HasMoreDirectories (t t' : FileTree) : Prop :=
  ∀ place, t'.entryAt place = t.entryAt place ∨
    t.entryAt place = none ∧ t'.entryAt place = some .directory

namespace HasMoreDirectories

lemma refl (t : FileTree) : t.HasMoreDirectories t := fun _ => .inl rfl

lemma trans (h : t.HasMoreDirectories t') (h' : t'.HasMoreDirectories t'') :
    t.HasMoreDirectories t'' := by
  intro place
  obtain hsame | ⟨hnone, hdir⟩ := h place
  · rw [← hsame]
    exact h' place
  · obtain hsame' | ⟨hnone', -⟩ := h' place
    · exact .inr ⟨hnone, hsame'.trans hdir⟩
    · rw [hdir] at hnone'
      cases hnone'

lemma of_makeDirectory (h : t.makeDirectory path = .ok t') : t.HasMoreDirectories t' := by
  obtain ⟨place, -, h⟩ := bind_eq_ok_iff.1 h
  split at h
  · cases h
  · next hnone =>
    cases h
    intro other
    by_cases ho : other = place
    · have hnil : place ≠ [] := by
        rintro rfl
        cases hnone
      rw [ho]
      exact .inr ⟨hnone, entryAt_insert_self _ hnil⟩
    · exact .inl (entryAt_insert_of_ne _ ho)

lemma of_makeDirectories (h : t.makeDirectories path = .ok t') : t.HasMoreDirectories t' := by
  -- a directory that stands there already is as good as one that is made
  have hstands : ∀ {e : IoError} {u t' : FileTree} {path : String},
      (if u.isDirectory path then Except.ok u else .error e) = .ok t' → u.HasMoreDirectories t' :=
    fun hu => by
      split at hu
      · cases hu
        exact refl _
      · cases hu
  unfold makeDirectories at h
  generalize (pathNames path).length = depth at h
  induction depth generalizing path t' with
  | zero =>
    unfold makeDirectories.go at h
    split at h
    · cases h
      exact refl _
    · exact of_makeDirectory h
  | succ depth ih =>
    unfold makeDirectories.go at h
    split at h
    · next made hmade =>
      cases h
      exact of_makeDirectory hmade
    · split at h
      · split at h
        · cases h
        · cases h
        · split at h
          · cases h
          · next u habove =>
            refine (ih habove).trans ?_
            split at h
            · next made hmade =>
              cases h
              exact of_makeDirectory hmade
            · exact hstands h
      · exact hstands h

end HasMoreDirectories

/-! ### Opening -/

/-- The bytes of the file at a place; none where there is no file. -/
def contentAt (t : FileTree) (place : List String) : Bytes :=
  match t.entryAt place with
  | some (.file content _) => content
  | _ => []

/-- A file that can be opened is there, or there is room for it. -/
lemma openForWriting_cases (h : t.openForWriting path = .ok (place, content)) :
    (∃ executable, t.entryAt place = some (.file content executable)) ∨
      t.entryAt place = none ∧ content = [] := by
  obtain ⟨place', -, h⟩ := bind_eq_ok_iff.1 h
  split at h
  · next content' executable hfile =>
    split at h
    · cases h
    · cases h
      exact .inl ⟨executable, hfile⟩
  · cases h
  · next hnone =>
    dsimp only at h
    by_cases hslash : endsInSlash path
    · rw [if_pos hslash] at h
      cases h
    · rw [if_neg hslash] at h
      split at h
      · cases h
        exact .inr ⟨hnone, rfl⟩
      · cases h
      · cases h

end FileTree
end GuestHarness
