import GuestHarness.Proofs.Sequencing

/-!
Scripts that are carried out. What it is for a script to be written to a stream in full and to settle
in time can be said without the run that does it: each payload is taken by one write after the other
and flushed, and each delay is over by the moment at which the run would be dropped. A run ends with
its last step exactly if that is so.
-/

namespace GuestHarness.Sequencer

variable {σ : Type} [InputStream σ] {limit : Option Instant} {bs : Bytes} {s s' : σ}
  {step : CommandStep} {steps : List CommandStep}

/-- Some bytes are written in full: each write takes some of those that are left or is interrupted,
and when none are left, the stream is flushed. -/
inductive WrittenInFull (limit : Option Instant) : Bytes → σ → σ → Prop
  | flushed {s s' : σ} (h : InputStream.flush limit s = (.done (), s')) :
    WrittenInFull limit [] s s'
  | taken {bs : Bytes} {n : Nat} {s t s' : σ} (hbs : bs ≠ [])
      (h : InputStream.write limit bs s = (.done (n + 1), t))
      (rest : WrittenInFull limit (bs.drop (n + 1)) t s') : WrittenInFull limit bs s s'
  | again {bs : Bytes} {e : IoError} {s t s' : σ} (hbs : bs ≠ [])
      (h : InputStream.write limit bs s = (.failed e, t)) (he : e.isInterrupted)
      (rest : WrittenInFull limit bs t s') : WrittenInFull limit bs s s'

/-- A step is carried out: its payload is written in full, unless it is a pause, and its delay is over
by the moment at which the run would be dropped. -/
def StepDone (limit : Option Instant) (step : CommandStep) (s s' : σ) : Prop :=
  ∃ t, (if step.isPause then t = s else WrittenInFull limit step.payload s t) ∧
    (step.settle.nanos = 0 ∧ s' = t ∨
      step.settle.nanos ≠ 0 ∧ (∀ m ∈ limit, Clock.wake (InputStream.now t) step.settle ≤ m) ∧
        s' = InputStream.sleep (Clock.wake (InputStream.now t) step.settle) t)

/-- All steps of a script are carried out, one after the other. -/
inductive CarriedOut (limit : Option Instant) : List CommandStep → σ → σ → Prop
  | nil (s : σ) : CarriedOut limit [] s s
  | cons {step : CommandStep} {steps : List CommandStep} {s t s' : σ}
      (h : StepDone limit step s t) (rest : CarriedOut limit steps t s') :
      CarriedOut limit (step :: steps) s s'

lemma writePayload_eq_done_iff :
    writePayload limit bs s = (.done (), s') ↔ WrittenInFull limit bs s s' := by
  constructor
  · intro h
    fun_induction writePayload limit bs s with
    | case1 s => exact .flushed h
    | case2 bs s _ t hw => cases h
    | case3 bs s hbs n t hw ih => exact .taken hbs hw (ih h)
    | case4 bs s hbs e t hw he ih => exact .again hbs hw he (ih h)
    | case5 bs s _ e t hw _ => cases h
    | case6 bs s _ t hw => cases h
  · intro h
    induction h with
    | flushed h => rw [writePayload, if_pos rfl, h]
    | taken hbs h rest ih => rw [writePayload, if_neg hbs, h]; exact ih
    | again hbs h he rest ih => rw [writePayload, if_neg hbs, h]; simpa [he] using ih

lemma send_eq_done_iff : send limit step s = (.done (), s') ↔
    if step.isPause then s' = s else WrittenInFull limit step.payload s s' := by
  unfold send
  split
  · simp [eq_comm]
  · exact writePayload_eq_done_iff

lemma settle_eq_done_iff {d : Duration} : settle limit d s = (.done (), s') ↔
    d.nanos = 0 ∧ s' = s ∨ d.nanos ≠ 0 ∧
      (∀ m ∈ limit, Clock.wake (InputStream.now s) d ≤ m) ∧
        s' = InputStream.sleep (Clock.wake (InputStream.now s) d) s := by
  unfold settle
  by_cases hd : d.nanos = 0
  · simp [hd, eq_comm]
  · cases limit with
    | none => simp [hd, eq_comm]
    | some m =>
      by_cases hm : m < Clock.wake (InputStream.now s) d
      · simp [hd, hm, Nat.not_le.2 hm]
      · simp [hd, hm, Nat.not_lt.1 hm, eq_comm]

/-- **A run ends with its last step exactly if the script is carried out.** -/
theorem runFrom_eq_ok_iff (index completed : Nat) :
    (∃ n m, runFrom limit index completed steps s = (.ok n, m, s')) ↔
      CarriedOut limit steps s s' := by
  induction steps generalizing index completed s with
  | nil =>
    constructor
    · rintro ⟨n, m, h⟩
      cases h
      exact .nil _
    · intro h
      cases h
      exact ⟨_, _, rfl⟩
  | cons step steps ih =>
    rw [runFrom_cons]
    constructor
    · rintro ⟨n, m, h⟩
      split at h
      · cases h
      · cases h
      · next t hsend =>
        split at h
        · next u hsettle =>
          exact .cons ⟨t, send_eq_done_iff.1 hsend, settle_eq_done_iff.1 hsettle⟩
            ((ih _ _).1 ⟨n, m, h⟩)
        · cases h
    · rintro (_ | ⟨⟨t, hsend, hsettle⟩, rest⟩)
      rw [send_eq_done_iff.2 hsend]
      dsimp only
      rw [settle_eq_done_iff.2 hsettle]
      exact (ih _ _).2 rest

end GuestHarness.Sequencer
