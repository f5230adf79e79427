import GuestHarness.Proofs.Target.Recorded

/-!
What a run of a script comes to. A property that each call of a run keeps is kept by the run; the
clock therefore never passes the moment at which the run is dropped, and a run that was cut has
reached it. What the stream accepted is what the completed steps send, followed by a part of what
the next step sends.
-/

namespace GuestHarness.Sequencer

variable {σ : Type}

/-! ### One step and the rest -/

section Cons

variable [InputStream σ]

/-- What a step sends, without its delay. -/
def send (limit : Option Instant) (step : CommandStep) (s : σ) : Reply Unit × σ :=
  if step.isPause then (.done (), s) else writePayload limit step.payload s

lemma runFrom_cons (limit : Option Instant) (index completed : Nat) (step : CommandStep)
    (rest : List CommandStep) (s : σ) :
    runFrom limit index completed (step :: rest) s =
      match send limit step s with
      | (.failed e, s) => (.failed index e (InputStream.captured s), completed, s)
      | (.cut, s) => (.cut, completed, s)
      | (.done (), s) =>
        match settle limit step.settle s with
        | (.done (), s) => runFrom limit (index + 1) (index + 1) rest s
        | (_, s) => (.cut, completed, s) := rfl

end Cons

/-! ### What a run keeps -/

section Keeps

variable [InputStream σ]

/-- Every call that a run with the given limit can make keeps a property. -/
structure Keeps (limit : Option Instant) (P : σ → Prop) : Prop where
  write : ∀ bs s, P s → P (InputStream.write limit bs s).2
  flush : ∀ s, P s → P (InputStream.flush limit s).2
  sleep : ∀ m s, (∀ l ∈ limit, m ≤ l) → P s → P (InputStream.sleep m s)

variable {limit : Option Instant} {P : σ → Prop}

lemma Keeps.writePayload (h : Keeps limit P) (payload : Bytes) (s : σ) (hs : P s) :
    P (writePayload limit payload s).2 := by
  fun_induction Sequencer.writePayload limit payload s with
  | case1 s => exact h.flush s hs
  | case2 payload s _ s' hw | case5 payload s _ e s' hw _ | case6 payload s _ s' hw =>
    have := h.write payload s hs
    rwa [hw] at this
  | case3 payload s _ n s' hw ih | case4 payload s _ e s' hw _ ih =>
    have := h.write payload s hs
    rw [hw] at this
    exact ih this

lemma Keeps.send (h : Keeps limit P) (step : CommandStep) (s : σ) (hs : P s) :
    P (send limit step s).2 := by
  unfold Sequencer.send
  split
  · exact hs
  · exact h.writePayload step.payload s hs

lemma Keeps.settle (h : Keeps limit P) (d : Duration) (s : σ) (hs : P s) :
    P (settle limit d s).2 := by
  unfold Sequencer.settle
  split
  · exact hs
  · cases limit with
    | none => exact h.sleep _ s (by simp) hs
    | some l =>
      dsimp only
      split
      · exact h.sleep l s (by simp) hs
      · next hl => exact h.sleep _ s (by simpa using hl) hs

lemma Keeps.runFrom (h : Keeps limit P) (steps : List CommandStep) :
    ∀ (index completed : Nat) (s : σ), P s → P (runFrom limit index completed steps s).2.2 := by
  induction steps with
  | nil => exact fun _ _ _ hs => hs
  | cons step rest ih =>
    intro index completed s hs
    have hw := h.send step s hs
    rw [runFrom_cons]
    split
    · next hr => rwa [hr] at hw
    · next hr => rwa [hr] at hw
    · next s' hr =>
      rw [hr] at hw
      have hd := h.settle step.settle s' hw
      split
      · next hr' =>
        rw [hr'] at hd
        exact ih _ _ _ hd
      · next hr' => rwa [hr'] at hd

/-- **A run keeps what its calls keep.** -/
theorem Keeps.run (h : Keeps limit P) (q : Sequencer) (steps : List CommandStep) (s : σ)
    (hs : P s) : P (q.run limit steps s).2.2 :=
  h.runFrom steps 0 q.completed s hs

end Keeps

/-! ### The clock -/

section Clock

variable [InputStream σ] [TimedInput σ] {m t : Instant}

lemma keeps_now_le (h : t ≤ m) : Keeps (some t) (fun s : σ => InputStream.now s ≤ m) where
  write bs s hs := by
    have := (TimedInput.write bs).now_le t s
    grind
  flush s hs := by
    have := TimedInput.flush.now_le t s
    grind
  sleep u s hu hs := by
    have := hu t rfl
    rw [TimedInput.now_sleep]
    grind

lemma le_now_of_writePayload (payload : Bytes) (s : σ)
    (h : (writePayload (some m) payload s).1 = .cut) :
    m ≤ InputStream.now (writePayload (some m) payload s).2 := by
  fun_induction writePayload (some m) payload s with
  | case1 s => exact TimedInput.flush.le_now_of_cut m s h
  | case2 | case5 => simp at h
  | case3 payload s _ n s' hw ih => exact ih h
  | case4 payload s _ e s' hw _ ih => exact ih h
  | case6 payload s _ s' hw =>
    have := (TimedInput.write payload).le_now_of_cut m s (by rw [hw])
    rwa [hw] at this

lemma le_now_of_send (step : CommandStep) (s : σ) (h : (send (some m) step s).1 = .cut) :
    m ≤ InputStream.now (send (some m) step s).2 := by
  unfold send at h ⊢
  split at h
  · simp at h
  · next hp =>
    rw [if_neg hp]
    exact le_now_of_writePayload step.payload s h

lemma le_now_of_settle (d : Duration) (s : σ) (h : (settle (some m) d s).1 ≠ .done ()) :
    m ≤ InputStream.now (settle (some m) d s).2 := by
  unfold settle at h ⊢
  split at h
  · simp at h
  · next hd =>
    rw [if_neg hd]
    dsimp only at h ⊢
    split at h
    · next hm =>
      rw [if_pos hm, TimedInput.now_sleep]
      exact Nat.le_max_right _ m
    · simp at h

/-- A run that was cut has reached the moment at which it was to be dropped. -/
theorem le_now_of_runFrom (steps : List CommandStep) :
    ∀ (index completed : Nat) (s : σ), (runFrom (some m) index completed steps s).1 = .cut →
      m ≤ InputStream.now (runFrom (some m) index completed steps s).2.2 := by
  induction steps with
  | nil => simp [runFrom]
  | cons step rest ih =>
    intro index completed s
    have hw := le_now_of_send (m := m) step s
    rw [runFrom_cons]
    split
    · simp
    · next hr => simpa [hr] using hw
    · next s' hr =>
      have hd := le_now_of_settle (m := m) step.settle s'
      split
      · exact ih _ _ _
      · next reply s'' hne hr' =>
        rw [hr'] at hd
        exact fun _ => hd hne

end Clock

/-! ### The bytes and the count -/

section Progress

variable [InputStream σ]

/-- Of a payload the stream accepts all if the write succeeds, and a part from its front at any
rate. -/
lemma accepted_writePayload (limit : Option Instant) (payload : Bytes) (r : Recorded σ) :
    ∃ part rest, payload = part ++ rest ∧
      (writePayload limit payload r).2.accepted = r.accepted ++ part ∧
      ((writePayload limit payload r).1 = .done () → rest = []) := by
  fun_induction writePayload limit payload r with
  | case1 r =>
    exact ⟨[], [], rfl, by rw [Recorded.accepted_flush, List.append_nil], fun _ => rfl⟩
  | case2 payload r _ r' hw | case5 payload r _ e r' hw _ | case6 payload r _ r' hw =>
    exact ⟨[], payload, rfl, by simp [Recorded.accepted_of_write hw], by simp⟩
  | case3 payload r _ n r' hw ih =>
    obtain ⟨part, rest, hp, ha, hd⟩ := ih
    refine ⟨payload.take (n + 1) ++ part, rest, ?_, ?_, hd⟩
    · rw [List.append_assoc, ← hp, List.take_append_drop]
    · simp [ha, Recorded.accepted_of_write hw]
  | case4 payload r _ e r' hw _ ih =>
    obtain ⟨part, rest, hp, ha, hd⟩ := ih
    exact ⟨part, rest, hp, by simp [ha, Recorded.accepted_of_write hw], hd⟩

lemma accepted_send (limit : Option Instant) (step : CommandStep) (r : Recorded σ) :
    ∃ part rest, step.payload = part ++ rest ∧
      (send limit step r).2.accepted = r.accepted ++ part ∧
      ((send limit step r).1 = .done () → rest = []) := by
  unfold send
  split
  · next hp =>
    refine ⟨[], [], List.isEmpty_iff.1 hp, by simp, fun _ => rfl⟩
  · exact accepted_writePayload limit step.payload r

lemma accepted_settle (limit : Option Instant) (d : Duration) (r : Recorded σ) :
    (settle limit d r).2.accepted = r.accepted := by
  unfold settle
  split
  · rfl
  · cases limit with
    | none => rfl
    | some l =>
      dsimp only
      split <;> rfl

/-- What a run comes to that began with the steps given: so many of them were completed, and a
part of the next step was accepted. -/
structure Progress (index completed : Nat) (steps : List CommandStep) (r : Recorded σ)
    (result : Outcome × Nat × Recorded σ) (done : Nat) (part : Bytes) : Prop where
  done_le : done ≤ steps.length
  completed_eq : result.2.1 = if done = 0 then completed else index + done
  accepted_eq : result.2.2.accepted =
    r.accepted ++ (steps.take done).flatMap CommandStep.payload ++ part
  part_prefix : part <+: ((steps[done]?).map CommandStep.payload).getD []
  of_ok : ∀ n, result.1 = .ok n → done = steps.length ∧ n = result.2.1
  of_failed : ∀ i e out, result.1 = .failed i e out → done < steps.length ∧ i = index + done
  of_cut : result.1 = .cut → done < steps.length

/-- **The progress of a run**, whatever the stream does. -/
theorem runFrom_progress (limit : Option Instant) (steps : List CommandStep) :
    ∀ (index completed : Nat) (r : Recorded σ), ∃ done part,
      Progress index completed steps r (runFrom limit index completed steps r) done part := by
  induction steps with
  | nil =>
    intro index completed r
    exact ⟨0, [], by simp, rfl, by simp [runFrom], by simp, by simp [runFrom], by simp [runFrom],
      by simp [runFrom]⟩
  | cons step rest ih =>
    intro index completed r
    -- of this step a part is accepted; it is all of the step if the rest is run at all
    obtain ⟨part, left, hp, ha, hd⟩ := accepted_send limit step r
    rw [runFrom_cons]
    split
    · next e r' hr =>
      rw [hr] at ha
      exact ⟨0, part, by simp, rfl, by simp [ha], ⟨left, by simp [hp]⟩, by simp, by simp, by simp⟩
    · next r' hr =>
      rw [hr] at ha
      exact ⟨0, part, by simp, rfl, by simp [ha], ⟨left, by simp [hp]⟩, by simp, by simp, by simp⟩
    · next r' hr =>
      rw [hr] at ha hd
      have hs := accepted_settle limit step.settle r'
      split
      · next r'' hr' =>
        rw [hr'] at hs
        obtain ⟨done, tail, h⟩ := ih (index + 1) (index + 1) r''
        refine ⟨done + 1, tail, ?_, ?_, ?_, h.part_prefix, ?_, ?_, ?_⟩
        · exact Nat.succ_le_succ h.done_le
        · rw [h.completed_eq, if_neg (Nat.succ_ne_zero done)]
          split <;> omega
        · have hpart : step.payload = part := by rw [hp, hd rfl, List.append_nil]
          rw [h.accepted_eq, hs, ha]
          simp [hpart]
        · intro n hn
          obtain ⟨rfl, rfl⟩ := h.of_ok n hn
          exact ⟨rfl, rfl⟩
        · intro i e out hf
          obtain ⟨hlt, rfl⟩ := h.of_failed i e out hf
          exact ⟨Nat.succ_lt_succ hlt, by omega⟩
        · exact fun hc => Nat.succ_lt_succ (h.of_cut hc)
      · next reply r'' hne hr' =>
        rw [hr'] at hs
        exact ⟨0, part, by simp, rfl, by simp [hs, ha], ⟨left, by simp [hp]⟩, by simp, by simp,
          by simp⟩

end Progress
end GuestHarness.Sequencer
