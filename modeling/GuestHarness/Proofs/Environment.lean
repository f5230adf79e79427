import GuestHarness.Launch
import Mathlib.Data.String.Basic

/-!
Environments stand in the order of their names. Settings become an environment by being inserted one
after the other; and settings that are in order already stay as they are.
-/

namespace GuestHarness.Environment

/-- The variables stand in the order of their names, each once. -/
def IsOrdered (env : Environment) : Prop := env.Pairwise fun v w => v.1 < w.1

variable {env : Environment}

lemma fst_mem_insert {key value : String} {v : String × String}
    (h : v ∈ insert key value env) : v.1 = key ∨ ∃ w ∈ env, w.1 = v.1 := by
  induction env with
  | nil => obtain rfl := List.mem_singleton.1 h; exact .inl rfl
  | cons w env ih =>
    unfold insert at h
    split at h
    · obtain rfl | h := List.mem_cons.1 h
      · exact .inl rfl
      · exact .inr ⟨v, h, rfl⟩
    · split at h
      · obtain rfl | h := List.mem_cons.1 h
        · exact .inl rfl
        · exact .inr ⟨v, List.mem_cons_of_mem _ h, rfl⟩
      · obtain rfl | h := List.mem_cons.1 h
        · exact .inr ⟨_, List.mem_cons_self, rfl⟩
        · exact (ih h).imp id fun ⟨x, hx, hv⟩ => ⟨x, List.mem_cons_of_mem _ hx, hv⟩

lemma IsOrdered.insert (h : env.IsOrdered) (key value : String) :
    IsOrdered (insert key value env) := by
  induction env with
  | nil => exact List.pairwise_singleton _ _
  | cons v env ih =>
    obtain ⟨hv, henv⟩ := List.pairwise_cons.1 h
    unfold Environment.insert
    split
    · next hlt =>
      exact List.pairwise_cons.2 ⟨fun w hw => by
        obtain rfl | hw := List.mem_cons.1 hw
        · exact hlt
        · exact hlt.trans (hv w hw), h⟩
    · next hge =>
      split
      · next heq => exact List.pairwise_cons.2 ⟨fun w hw => heq ▸ hv w hw, henv⟩
      · next hne =>
        refine List.pairwise_cons.2 ⟨fun w hw => ?_, ih henv⟩
        obtain hw | ⟨x, hx, hxw⟩ := fst_mem_insert hw
        · rw [hw]
          exact lt_of_le_of_ne (not_lt.1 hge) (Ne.symm hne)
        · exact hxw ▸ hv x hx

lemma isOrdered_ofList (settings : List (String × String)) : IsOrdered (ofList settings) := by
  have hfold : ∀ (settings : List (String × String)) (env : Environment), env.IsOrdered →
      IsOrdered (settings.foldl (fun env kv => Environment.insert kv.1 kv.2 env) env) :=
    fun settings => by
      induction settings with
      | nil => exact fun _ h => h
      | cons kv settings ih => exact fun _ h => ih _ (h.insert kv.1 kv.2)
  exact hfold settings [] .nil

lemma insert_last {key : String} (value : String) (h : ∀ v ∈ env, v.1 < key) :
    insert key value env = env ++ [(key, value)] := by
  induction env with
  | nil => rfl
  | cons v env ih =>
    have hv := h v (by simp)
    rw [insert, if_neg hv.asymm, if_neg hv.ne', ih fun w hw => h w (by simp [hw])]
    rfl

/-- Settings in the order of their names are an environment as they are. -/
lemma IsOrdered.ofList_eq (h : env.IsOrdered) : ofList env = env := by
  have hfold : ∀ (rest env : Environment), IsOrdered (env ++ rest) →
      rest.foldl (fun env kv => Environment.insert kv.1 kv.2 env) env = env ++ rest :=
    fun rest => by
      induction rest with
      | nil => exact fun env _ => (List.append_nil env).symm
      | cons kv rest ih =>
        intro env h
        have hlast : ∀ v ∈ env, v.1 < kv.1 := fun v hv =>
          (List.pairwise_append.1 h).2.2 v hv kv List.mem_cons_self
        rw [List.foldl_cons, insert_last kv.2 hlast, ih _ (by simpa using h)]
        simp
  exact hfold env [] h

end GuestHarness.Environment
