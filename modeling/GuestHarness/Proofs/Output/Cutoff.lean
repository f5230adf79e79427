import GuestHarness.Proofs.Output.Finish
import GuestHarness.Proofs.Output.Turns

/-!
Readers that are cut off. A reader that is cancelled, by others or because the time to drain its stream
is over, has done by then what it does if it is left alone, and nothing after that; the first of several
cancellations counts. It is cancelled exactly if it has not come to the end of its stream before, and
whatever its stream would do from then on makes no difference.
-/

namespace GuestHarness.Output

/-- The trace of a reader that may have been cancelled by others. -/
def stopAt : Option Instant → Trace → Trace
  | none, t => t
  | some moment, t => cancelAt moment t

/-- The moment from which on a reader does nothing more: the deadline, or an earlier cancellation. -/
def cutoff (cancel : Option Instant) (deadline : Instant) : Instant :=
  cancel.elim deadline (min deadline)

/-- The events come one after the other, and only the last of them ends the reader. -/
def Trace.InOrder (t : Trace) : Prop :=
  t.Pairwise fun e later => e.1 ≤ later.1 ∧ e.2.isFinal = false

/-- The reader comes to the end of its stream before the moment. -/
def Trace.EndsBefore (m : Instant) (t : Trace) : Prop := ∃ moment < m, (moment, .ended) ∈ t

section Traces

variable {m d now : Instant} {t rest : Trace} {e : Instant × ReadEvent} {script : StreamScript}

lemma cancelAt_of_le (h : m ≤ e.1) : cancelAt m (e :: rest) = [(m, .cancelled)] := by
  rw [cancelAt, if_neg (Nat.not_lt.2 h)]

lemma cancelAt_of_final (h : e.1 < m) (he : e.2.isFinal) : cancelAt m (e :: rest) = [e] := by
  rw [cancelAt, if_pos h, if_pos he]

lemma cancelAt_of_lt (h : e.1 < m) (he : e.2.isFinal = false) :
    cancelAt m (e :: rest) = e :: cancelAt m rest := by
  rw [cancelAt, if_pos h, he]
  rfl

lemma exists_cancelAt_eq_cons (rest : Trace) (h : e.1 < m) :
    ∃ more, cancelAt m (e :: rest) = e :: more := by
  cases he : e.2.isFinal with
  | true => exact ⟨[], cancelAt_of_final h he⟩
  | false => exact ⟨_, cancelAt_of_lt h he⟩

/-- Of two cancellations the first one counts. -/
lemma cancelAt_cancelAt (d m : Instant) (t : Trace) :
    cancelAt d (cancelAt m t) = cancelAt (min d m) t := by
  have hlast : cancelAt d [(m, .cancelled)] = [(min d m, .cancelled)] := by
    by_cases h : m < d
    · rw [cancelAt_of_final h rfl, Nat.min_eq_right (Nat.le_of_lt h)]
    · rw [cancelAt_of_le (Nat.le_of_not_lt h), Nat.min_eq_left (Nat.le_of_not_lt h)]
  induction t with
  | nil => exact hlast
  | cons e rest ih =>
    by_cases hm : e.1 < m
    · by_cases hd : e.1 < d
      · have hmin : e.1 < min d m := Nat.lt_min.2 ⟨hd, hm⟩
        cases he : e.2.isFinal with
        | true => rw [cancelAt_of_final hm he, cancelAt_of_final hd he, cancelAt_of_final hmin he]
        | false => rw [cancelAt_of_lt hm he, cancelAt_of_lt hd he, cancelAt_of_lt hmin he, ih]
      · have hle : d ≤ e.1 := Nat.le_of_not_lt hd
        have hmin : min d m = d := Nat.min_eq_left (Nat.le_trans hle (Nat.le_of_lt hm))
        obtain ⟨more, hmore⟩ := exists_cancelAt_eq_cons rest hm
        rw [hmore, hmin, cancelAt_of_le hle, cancelAt_of_le hle]
    · have hle : m ≤ e.1 := Nat.le_of_not_lt hm
      rw [cancelAt_of_le hle, hlast, cancelAt_of_le (Nat.le_trans (Nat.min_le_right d m) hle)]

lemma cancelAt_stopAt (cancel : Option Instant) (d : Instant) (t : Trace) :
    cancelAt d (stopAt cancel t) = cancelAt (cutoff cancel d) t := by
  cases cancel with
  | none => rfl
  | some c => exact cancelAt_cancelAt d c t

/-- What a reader would do from the cancellation on does not count. -/
lemma cancelAt_takeWhile (m : Instant) (t : Trace) :
    cancelAt m (t.takeWhile (·.1 < m)) = cancelAt m t := by
  induction t with
  | nil => rfl
  | cons e rest ih =>
    by_cases hm : e.1 < m
    · rw [List.takeWhile_cons_of_pos (by simpa using hm)]
      cases he : e.2.isFinal with
      | true => rw [cancelAt_of_final hm he, cancelAt_of_final hm he]
      | false => rw [cancelAt_of_lt hm he, cancelAt_of_lt hm he, ih]
    · rw [List.takeWhile_cons_of_neg (by simpa using hm), cancelAt_of_le (Nat.le_of_not_lt hm)]
      rfl

/-- A reader that is left alone does everything later, and is not cancelled. -/
lemma mem_trace (h : e ∈ trace now script) : now ≤ e.1 ∧ e.2 ≠ .cancelled := by
  induction script generalizing now with
  | nil => obtain rfl := List.mem_singleton.1 h; exact ⟨Nat.le_refl now, by simp⟩
  | cons item rest ih =>
    have hlater : ∀ nanos, e ∈ trace (now + nanos) rest → now ≤ e.1 ∧ e.2 ≠ .cancelled :=
      fun nanos h => ⟨Nat.le_trans (Nat.le_add_right _ _) (ih h).1, (ih h).2⟩
    cases item with
    | data bs =>
      obtain h | h := List.mem_append.1 h
      · obtain ⟨c, -, rfl⟩ := List.mem_map.1 h
        exact ⟨Nat.le_refl now, by simp⟩
      · exact ih h
    | failure err =>
      rw [trace_failure] at h
      split at h
      · exact ih h
      · obtain rfl | h := List.mem_cons.1 h
        · exact ⟨Nat.le_refl now, by simp⟩
        · exact hlater _ h
    | wait nanos => exact hlater _ h
    | hang => cases h
    | eof => obtain rfl := List.mem_singleton.1 h; exact ⟨Nat.le_refl now, by simp⟩
    | crash text => obtain rfl := List.mem_singleton.1 h; exact ⟨Nat.le_refl now, by simp⟩

/-- The time that a stream takes for what it does, if it does all of it. -/
def span : StreamScript → Nat
  | [] => 0
  | .failure e :: rest => (if e.isInterrupted then 0 else readErrorBackoff) + span rest
  | .wait nanos :: rest => nanos + span rest
  | _ :: rest => span rest

/-- What a stream does after a moment cannot be seen before it. -/
lemma takeWhile_trace_append {before : StreamScript} (h : m ≤ now + span before)
    (script script' : StreamScript) :
    (trace now (before ++ script)).takeWhile (·.1 < m) =
      (trace now (before ++ script')).takeWhile (·.1 < m) := by
  induction before generalizing now with
  | nil =>
    have hlate : ∀ script, (trace now script).takeWhile (·.1 < m) = [] := fun script => by
      cases ht : trace now script with
      | nil => rfl
      | cons e t =>
        have hfirst : now ≤ e.1 := (mem_trace (ht ▸ List.mem_cons_self)).1
        exact List.takeWhile_cons_of_neg (by simpa using Nat.le_trans h hfirst)
    exact (hlate script).trans (hlate script').symm
  | cons item rest ih =>
    cases item with
    | data bs =>
      simp only [List.cons_append, trace_data, List.takeWhile_append]
      rw [ih h]
    | failure e =>
      rw [span, ← Nat.add_assoc] at h
      simp only [List.cons_append, trace_failure]
      split
      · next he => exact ih (by simpa [he] using h)
      · next he => rw [List.takeWhile_cons, List.takeWhile_cons, ih (by simpa [he] using h)]
    | wait nanos => exact ih (by rwa [span, ← Nat.add_assoc] at h)
    | hang => rfl
    | eof => rfl
    | crash text => rfl

lemma inOrder_trace (now : Instant) (script : StreamScript) : (trace now script).InOrder := by
  unfold Trace.InOrder
  induction script generalizing now with
  | nil => exact List.pairwise_singleton _ _
  | cons item rest ih =>
    cases item with
    | data bs =>
      rw [trace_data]
      refine List.pairwise_append.2 ⟨?_, ih now, fun e he later hlater => ?_⟩
      · exact List.pairwise_map.2 (List.pairwise_of_forall fun _ _ => ⟨Nat.le_refl now, rfl⟩)
      · obtain ⟨c, -, rfl⟩ := List.mem_map.1 he
        exact ⟨(mem_trace hlater).1, rfl⟩
    | failure err =>
      rw [trace_failure]
      split
      · exact ih now
      · refine List.pairwise_cons.2 ⟨fun later hlater => ⟨?_, rfl⟩, ih _⟩
        exact Nat.le_trans (Nat.le_add_right _ _) (mem_trace hlater).1
    | wait nanos => exact ih _
    | hang => exact List.Pairwise.nil
    | eof => exact List.pairwise_singleton _ _
    | crash text => exact List.pairwise_singleton _ _

/-- **A reader is cancelled exactly if it does not come to the end of its stream in time.** -/
lemma cancelled_mem_cancelAt (ht : Trace.InOrder t) (hnone : ∀ e ∈ t, e.2 ≠ .cancelled)
    (hcrash : ∀ e ∈ t, ∀ text, e.2 ≠ .crashed text) :
    (∃ e ∈ cancelAt m t, e.2 = .cancelled) ↔ ¬ Trace.EndsBefore m t := by
  induction t with
  | nil => simp [cancelAt, Trace.EndsBefore]
  | cons e rest ih =>
    obtain ⟨hfirst, hrest⟩ := List.pairwise_cons.1 ht
    by_cases hm : e.1 < m
    · obtain ⟨moment, event⟩ := e
      cases he : event.isFinal with
      | true =>
        -- only the end of the stream is left as the last event
        obtain rfl : event = .ended := by
          cases event with
          | ended => rfl
          | cancelled => exact absurd rfl (hnone _ List.mem_cons_self)
          | crashed text => exact absurd rfl (hcrash _ List.mem_cons_self text)
          | _ => cases he
        rw [cancelAt_of_final hm he]
        simp only [List.mem_singleton, exists_eq_left, reduceCtorEq, false_iff, not_not]
        exact ⟨moment, hm, List.mem_cons_self⟩
      | false =>
        have hrest := ih hrest (fun e he => hnone e (List.mem_cons_of_mem _ he))
          fun e he => hcrash e (List.mem_cons_of_mem _ he)
        have hne : event ≠ .ended := by rintro rfl; cases he
        have hne' : event ≠ .cancelled := by rintro rfl; cases he
        rw [cancelAt_of_lt hm he]
        simpa [Trace.EndsBefore, hne, hne', eq_comm] using hrest
    · have hle : m ≤ e.1 := Nat.le_of_not_lt hm
      rw [cancelAt_of_le hle]
      simp only [List.mem_singleton, exists_eq_left, true_iff]
      rintro ⟨moment, hlt, hmem⟩
      obtain rfl | hmem := List.mem_cons.1 hmem
      · exact hm hlt
      · exact hm (Nat.lt_of_le_of_lt (hfirst _ hmem).1 hlt)

/-- A reader of a stream is cancelled exactly if it does not come to its end in time. -/
lemma cancelled_mem_cancelAt_trace (hcrash : ∀ e ∈ trace now script, ∀ text, e.2 ≠ .crashed text) :
    (∃ e ∈ cancelAt m (trace now script), e.2 = .cancelled) ↔
      ¬ Trace.EndsBefore m (trace now script) :=
  cancelled_mem_cancelAt (inOrder_trace now script) (fun _ he => (mem_trace he).2) hcrash

end Traces

end GuestHarness.Output
