import GuestHarness.Proofs.Completion
import GuestHarness.Proofs.Observation
import GuestHarness.Proofs.Target.Scripted
import Mathlib.Data.List.Permutation

/-!
The pace of a script. The delay of a step begins when its flush has succeeded, or when the delay of
the step before ends if nothing is sent, so the moments at which flushes succeed decide when all
delays end. A stream may take its time over a write and take only a part, and take its time over a
flush, but whatever is offered to it is offered after the delays of all steps before have ended, and a
run that is dropped, be it in a write, a flush or a delay, has counted the steps whose delays were
over by then.
-/

namespace GuestHarness

/-! ### Delays -/

/-- The end of a delay that begins at a moment. An empty one is over at once. -/
def delayEnd (t : Instant) (d : Duration) : Instant :=
  if d.nanos = 0 then t else Clock.wake t d

lemma le_delayEnd (t : Instant) (d : Duration) : t ≤ delayEnd t d := by
  unfold delayEnd Clock.wake
  split
  · exact Nat.le_refl t
  · split <;> exact Nat.le_add_right t _

/-- The moments at which the delays of steps end, from the moment at which the first step can be
sent and the moments at which flushes succeeded, as far as these reach. -/
def delayEnds (t : Instant) : List CommandStep → List Instant → List Instant
  | [], _ => []
  | step :: steps, flushes =>
    if step.isPause then delayEnd t step.settle :: delayEnds (delayEnd t step.settle) steps flushes
    else
      match flushes with
      | [] => []
      | f :: flushes =>
        delayEnd f step.settle :: delayEnds (delayEnd f step.settle) steps flushes

section DelayEnds

variable {t f m : Instant} {step : CommandStep} {steps : List CommandStep} {flushes : List Instant}

lemma delayEnds_pause (hp : step.isPause) : delayEnds t (step :: steps) flushes =
    delayEnd t step.settle :: delayEnds (delayEnd t step.settle) steps flushes := by
  cases flushes <;> rw [delayEnds, if_pos hp]

lemma delayEnds_unsent (hp : ¬ step.isPause) : delayEnds t (step :: steps) [] = [] := by
  rw [delayEnds, if_neg hp]

lemma delayEnds_sent (hp : ¬ step.isPause) : delayEnds t (step :: steps) (f :: flushes) =
    delayEnd f step.settle :: delayEnds (delayEnd f step.settle) steps flushes := by
  rw [delayEnds, if_neg hp]

/-- Without a flush only pauses come to an end, one after the other. -/
lemma le_of_mem_delayEnds {x : Instant} (h : x ∈ delayEnds t steps []) : t ≤ x := by
  induction steps generalizing t with
  | nil => cases h
  | cons step steps ih =>
    by_cases hp : step.isPause
    · rw [delayEnds_pause hp] at h
      obtain rfl | h := List.mem_cons.1 h
      · exact le_delayEnd t step.settle
      · exact Nat.le_trans (le_delayEnd t step.settle) (ih h)
    · rw [delayEnds_unsent hp] at h
      cases h

/-- Delays that follow one that is not over are not over. -/
lemma filter_delayEnds (h : m < t) : (delayEnds t steps []).filter (· ≤ m) = [] := by
  refine List.filter_eq_nil_iff.2 fun x hx => ?_
  have := le_of_mem_delayEnds hx
  simp
  exact Nat.lt_of_lt_of_le h this

end DelayEnds

/-! ### Logs -/

/-- The moments at which flushes succeeded in a log. -/
def flushesOf (log : List (Instant × Deed)) : List Instant := log.filterMap fun d => d.2.flushed?

/-- The bytes that were accepted in a log. -/
def acceptedOf (log : List (Instant × Deed)) : Bytes := log.flatMap fun d => d.2.accepted

/-- What a deed does for a payload of which a part was accepted: it offers the rest, or flushes if
there is none. -/
def Deed.Serves (payload part : Bytes) : Deed → Prop
  | offered bs _ => part ++ bs = payload
  | flushed _ _ => part = payload
  | _ => False

/-- The deeds serve a payload, from a moment on, and nothing is done after a flush that succeeded. -/
def Sends (t : Instant) (payload : Bytes) (deeds : List (Instant × Deed)) : Prop :=
  ∀ pre u d post, deeds = pre ++ (u, d) :: post →
    t ≤ u ∧ flushesOf pre = [] ∧ d.Serves payload (acceptedOf pre)

section Logs

variable {t t' : Instant} {payload part rest bs : Bytes} {d : Deed} {reply : Reply Nat}
  {deeds log log' : List (Instant × Deed)}

@[simp] lemma flushesOf_append : flushesOf (log ++ log') = flushesOf log ++ flushesOf log' :=
  List.filterMap_append

@[simp] lemma flushesOf_offered :
    flushesOf ((t, .offered bs reply) :: log) = flushesOf log := rfl

@[simp] lemma flushesOf_done :
    flushesOf ((t, .flushed (.done ()) t') :: log) = t' :: flushesOf log := rfl

@[simp] lemma flushesOf_cut : flushesOf ((t, .flushed .cut t') :: log) = flushesOf log := rfl

@[simp] lemma acceptedOf_append : acceptedOf (log ++ log') = acceptedOf log ++ acceptedOf log' :=
  List.flatMap_append

@[simp] lemma acceptedOf_cons : acceptedOf ((t, d) :: log) = d.accepted ++ acceptedOf log := rfl

lemma Deed.Serves.append (h : d.Serves rest part) (hbs : bs ++ rest = payload) :
    d.Serves payload (bs ++ part) := by
  subst hbs
  cases d with
  | offered offered reply =>
    obtain rfl : part ++ offered = rest := h
    exact List.append_assoc bs part offered
  | flushed reply replied =>
    obtain rfl : part = rest := h
    rfl
  | signalled n => exact h
  | closedInput => exact h

lemma Sends.flushed (t : Instant) (reply : Reply Unit) (replied : Instant) :
    Sends t [] [(t, .flushed reply replied)] := by
  rintro (_ | ⟨_, pre⟩) u d post h
  · obtain ⟨rfl, rfl⟩ := Prod.mk.inj (List.cons.inj h).1
    exact ⟨Nat.le_refl t, rfl, rfl⟩
  · simp at h

lemma Sends.offered (t : Instant) (payload : Bytes) (reply : Reply Nat) :
    Sends t payload [(t, .offered payload reply)] := by
  rintro (_ | ⟨_, pre⟩) u d post h
  · obtain ⟨rfl, rfl⟩ := Prod.mk.inj (List.cons.inj h).1
    exact ⟨Nat.le_refl t, rfl, rfl⟩
  · simp at h

/-- After an offer the rest of the payload is served. -/
lemma Sends.cons (h : Sends t' rest deeds) (ht : t ≤ t')
    (hrest : (Deed.offered payload reply).accepted ++ rest = payload) :
    Sends t payload ((t, .offered payload reply) :: deeds) := by
  rintro (_ | ⟨_, pre⟩) u d post heq
  · obtain ⟨rfl, rfl⟩ := Prod.mk.inj (List.cons.inj heq).1
    exact ⟨Nat.le_refl t, rfl, rfl⟩
  · obtain ⟨rfl, hdeeds⟩ := List.cons.inj heq
    obtain ⟨hu, hf, hd⟩ := h pre u d post hdeeds
    exact ⟨Nat.le_trans ht hu, by rw [flushesOf_offered, hf], hd.append hrest⟩

end Logs

/-! ### The course of a run -/

/-- A step is sent from a moment on: a pause at once and without a deed, and another one when its
payload was accepted and flushed. -/
inductive SentBy (t : Instant) (step : CommandStep) : List (Instant × Deed) → Instant → Prop
  | pause (hp : step.isPause) : SentBy t step [] t
  | flushed {deeds : List (Instant × Deed)} {f : Instant} (hp : ¬ step.isPause)
      (hs : Sends t step.payload deeds) (hf : flushesOf deeds = [f]) (htf : t ≤ f)
      (ha : acceptedOf deeds = step.payload) : SentBy t step deeds f

/-- How a run goes that is dropped at the moment `m` if it is not over by then: the moment from
which the first of some steps can be sent, the steps, what is done from then on, and the number of
steps that are completed. -/
inductive Paced (m : Instant) : Instant → List CommandStep → List (Instant × Deed) → Nat → Prop
  | finished (t : Instant) : Paced m t [] [] 0
  | settled {t f : Instant} {step : CommandStep} {steps : List CommandStep}
      {deeds log : List (Instant × Deed)} {done : Nat} (h : SentBy t step deeds f)
      (hm : delayEnd f step.settle ≤ m) (rest : Paced m (delayEnd f step.settle) steps log done) :
      Paced m t (step :: steps) (deeds ++ log) (done + 1)
  | settling {t f : Instant} {step : CommandStep} (steps : List CommandStep)
      {deeds : List (Instant × Deed)} (h : SentBy t step deeds f)
      (hm : m < delayEnd f step.settle) : Paced m t (step :: steps) deeds 0
  | sending {t : Instant} {step : CommandStep} (steps : List CommandStep)
      {deeds : List (Instant × Deed)} (hp : ¬ step.isPause) (hs : Sends t step.payload deeds)
      (hf : flushesOf deeds = []) : Paced m t (step :: steps) deeds 0

/-- Something is done in its turn, given what was done before it: the delays of all steps before
have ended, and it offers what is left of the next step, which is no pause, or flushes it. -/
structure InTurn (t : Instant) (steps : List CommandStep) (before : List (Instant × Deed))
    (u : Instant) (d : Deed) : Prop where
  le : t ≤ u
  rested : ∀ e ∈ delayEnds t steps (flushesOf before), e ≤ u
  serves : ∃ step part, steps[(delayEnds t steps (flushesOf before)).length]? = some step ∧
    ¬ step.isPause ∧
    acceptedOf before = (steps.take (delayEnds t steps (flushesOf before)).length).flatMap
      CommandStep.payload ++ part ∧ d.Serves step.payload part

section Paced

variable {m t f : Instant} {step : CommandStep} {steps : List CommandStep}
  {deeds log pre post : List (Instant × Deed)} {done : Nat} {flushes : List Instant}
  {u : Instant} {d : Deed}

lemma SentBy.le (h : SentBy t step deeds f) : t ≤ f := by
  cases h with
  | pause => exact Nat.le_refl t
  | flushed _ _ _ htf => exact htf

lemma SentBy.accepted (h : SentBy t step deeds f) : acceptedOf deeds = step.payload := by
  cases h with
  | pause hp => exact (List.isEmpty_iff.1 hp).symm
  | flushed _ _ _ _ ha => exact ha

lemma SentBy.delayEnds (h : SentBy t step deeds f) (steps : List CommandStep)
    (flushes : List Instant) :
    delayEnds t (step :: steps) (flushesOf deeds ++ flushes) =
      delayEnd f step.settle :: GuestHarness.delayEnds (delayEnd f step.settle) steps flushes := by
  cases h with
  | pause hp => exact delayEnds_pause hp
  | flushed hp _ hf =>
    rw [hf]
    exact delayEnds_sent hp

/-- The steps whose delays are over by the moment of the drop are the steps that are completed. -/
lemma Paced.done_eq (h : Paced m t steps log done) :
    done = ((delayEnds t steps (flushesOf log)).filter (· ≤ m)).length := by
  induction h with
  | finished t => rfl
  | settled h hm rest ih => simp [h.delayEnds, hm, ih]
  | settling steps h hm =>
    have hends := h.delayEnds steps []
    rw [List.append_nil] at hends
    rw [hends, List.filter_cons_of_neg (by simpa using hm), filter_delayEnds hm]
    rfl
  | sending steps hp hs hf =>
    rw [hf, delayEnds_unsent hp]
    rfl

lemma Sends.inTurn (hs : Sends t step.payload deeds) (hp : ¬ step.isPause)
    (hd : deeds = pre ++ (u, d) :: post) : InTurn t (step :: steps) pre u d := by
  obtain ⟨hu, hf, hserves⟩ := hs pre u d post hd
  have hends : delayEnds t (step :: steps) (flushesOf pre) = [] := by rw [hf, delayEnds_unsent hp]
  refine ⟨hu, by simp [hends], step, acceptedOf pre, ?_, hp, ?_, hserves⟩
  · rw [hends]
    rfl
  · rw [hends]
    rfl

lemma SentBy.inTurn (h : SentBy t step deeds f) (hd : deeds = pre ++ (u, d) :: post) :
    InTurn t (step :: steps) pre u d := by
  cases h with
  | pause => simp at hd
  | flushed hp hs => exact hs.inTurn hp hd

/-- A deed that is in turn for the steps after one that was sent is in turn for all. -/
lemma InTurn.after (h : InTurn (delayEnd f step.settle) steps pre u d)
    (hs : SentBy t step deeds f) : InTurn t (step :: steps) (deeds ++ pre) u d := by
  have hends := hs.delayEnds steps (flushesOf pre)
  rw [← flushesOf_append] at hends
  obtain ⟨next, part, hnext, hp, ha, hserves⟩ := h.serves
  refine ⟨?_, ?_, next, part, ?_, hp, ?_, hserves⟩
  · exact Nat.le_trans (Nat.le_trans hs.le (le_delayEnd f step.settle)) h.le
  · rw [hends]
    exact List.forall_mem_cons.2 ⟨h.le, h.rested⟩
  · rw [hends, List.length_cons, List.getElem?_cons_succ]
    exact hnext
  · rw [hends, List.length_cons, List.take_succ_cons, List.flatMap_cons, acceptedOf_append,
      hs.accepted, ha, List.append_assoc]

/-- **Whatever is done is done in its turn.** -/
lemma Paced.inTurn (h : Paced m t steps log done) (hd : log = pre ++ (u, d) :: post) :
    InTurn t steps pre u d := by
  induction h generalizing pre with
  | finished t => simp at hd
  | @settled t f step steps deeds log done hs hm rest ih =>
    obtain ⟨mid, rfl, hlog⟩ | ⟨_ | ⟨_, mid⟩, rfl, hlog⟩ := List.append_eq_append_iff.1 hd
    · exact (ih hlog).after hs
    · have hlog' : log = [] ++ (u, d) :: post := hlog.symm
      rw [List.append_nil] at hs
      simpa using (ih hlog').after hs
    · obtain ⟨rfl, -⟩ := List.cons.inj hlog
      exact hs.inTurn rfl
  | settling steps hs hm => exact hs.inTurn hd
  | sending steps hp hs hf => exact hs.inTurn hp hd

end Paced

namespace Sequencer

variable {σ : Type} [InputStream σ] {P : σ → Prop} {m : Instant}

/-- Streams that never fail, as long as they are in some states that their calls do not leave: a
write takes some of what it is offered or is interrupted, and a flush succeeds. -/
structure NeverFails (limit : Option Instant) (P : σ → Prop) : Prop extends Keeps limit P where
  takes_some : ∀ bs s s', P s → bs ≠ [] → InputStream.write limit bs s ≠ (.done 0, s')
  interrupted : ∀ bs s e s', P s → InputStream.write limit bs s = (.failed e, s') → e.isInterrupted
  flushes : ∀ s e s', P s → InputStream.flush limit s ≠ (.failed e, s')

section Notes

variable {r r' : Recorded σ}

/-- What a write on a recorded stream comes to, and what is noted of it. -/
lemma of_write {limit : Option Instant} {bs : Bytes} {reply : Reply Nat}
    (h : InputStream.write limit bs r = (reply, r')) :
    InputStream.write limit bs r.inner = (reply, r'.inner) ∧
      r'.log = r.log ++ [(InputStream.now r, .offered bs reply)] := by
  cases h
  exact ⟨rfl, rfl⟩

lemma of_flush {limit : Option Instant} {reply : Reply Unit}
    (h : InputStream.flush limit r = (reply, r')) :
    InputStream.flush limit r.inner = (reply, r'.inner) ∧
      r'.log = r.log ++ [(InputStream.now r, .flushed reply (InputStream.now r'))] := by
  cases h
  exact ⟨rfl, rfl⟩

end Notes

variable [TimedInput σ]

/-- To write a payload to a stream that never fails: either it is flushed, and nothing of it is
left, or the run is dropped before that. -/
lemma writePayload_paced (h : NeverFails (some m) P) (payload : Bytes) (r : Recorded σ)
    (hr : P r.inner) (hm : InputStream.now r ≤ m) :
    ∃ deeds reply r', writePayload (some m) payload r = (reply, r') ∧ r'.log = r.log ++ deeds ∧
      Sends (InputStream.now r) payload deeds ∧
      (reply = .done () ∧ flushesOf deeds = [InputStream.now r'] ∧ acceptedOf deeds = payload ∧
          InputStream.now r ≤ InputStream.now r' ∧ InputStream.now r' ≤ m ∧ P r'.inner ∨
        reply = .cut ∧ flushesOf deeds = []) := by
  have hstays : ∀ {t t' : Instant}, t' ≤ max t m → t ≤ m → t' ≤ m := fun hle ht =>
    Nat.le_trans hle (Nat.max_le.2 ⟨ht, Nat.le_refl m⟩)
  fun_induction writePayload (some m) payload r with
  | case1 r =>
    obtain ⟨reply, r', hf⟩ : ∃ reply r', InputStream.flush (some m) r = (reply, r') := ⟨_, _, rfl⟩
    obtain ⟨hflush, hlog⟩ := of_flush hf
    have hP := h.flush r.inner hr
    have hle := TimedInput.flush.le_now (some m) r.inner
    have hend := TimedInput.flush.now_le m r.inner
    rw [hflush] at hP hle hend
    refine ⟨_, reply, r', hf, hlog, .flushed _ _ _, ?_⟩
    cases reply with
    | done _ => exact .inl ⟨rfl, flushesOf_done, rfl, hle, hstays hend hm, hP⟩
    | failed e => exact absurd hflush (h.flushes r.inner e r'.inner hr)
    | cut => exact .inr ⟨rfl, flushesOf_cut⟩
  | case2 payload r hp r' hw => exact absurd (of_write hw).1 (h.takes_some payload _ _ hr hp)
  | case3 payload r hp _ r' hw ih | case4 payload r hp _ r' hw _ ih =>
    obtain ⟨hwrite, hlog⟩ := of_write hw
    have hP := h.write payload r.inner hr
    have hle := (TimedInput.write payload).le_now (some m) r.inner
    have hend := (TimedInput.write payload).now_le m r.inner
    rw [hwrite] at hP hle hend
    obtain ⟨deeds, reply, r'', hrun, hlog', hsends, hway⟩ := ih hP (hstays hend hm)
    rw [hlog, List.append_assoc] at hlog'
    refine ⟨_, reply, r'', hrun, hlog', hsends.cons hle (by simp), ?_⟩
    obtain ⟨hd, hf, ha, hge, hend, hP'⟩ | ⟨hc, hf⟩ := hway
    · refine .inl ⟨hd, by simpa using hf, by simp [ha], Nat.le_trans hle hge, hend, hP'⟩
    · exact .inr ⟨hc, by simpa using hf⟩
  | case5 payload r hp e r' hw hi =>
    exact absurd (h.interrupted payload _ _ _ hr (of_write hw).1) hi
  | case6 payload r hp r' hw =>
    obtain ⟨-, hlog⟩ := of_write hw
    exact ⟨_, _, r', rfl, hlog, .offered _ _ _, .inr ⟨rfl, rfl⟩⟩

lemma send_paced (h : NeverFails (some m) P) (step : CommandStep) {r : Recorded σ} (hr : P r.inner)
    (hm : InputStream.now r ≤ m) :
    ∃ deeds reply r', send (some m) step r = (reply, r') ∧ r'.log = r.log ++ deeds ∧
      (reply = .done () ∧ SentBy (InputStream.now r) step deeds (InputStream.now r') ∧
          InputStream.now r' ≤ m ∧ P r'.inner ∨
        reply = .cut ∧ ¬ step.isPause ∧ Sends (InputStream.now r) step.payload deeds ∧
          flushesOf deeds = []) := by
  unfold send
  by_cases hp : step.isPause
  · rw [if_pos hp]
    exact ⟨[], _, r, rfl, (List.append_nil _).symm, .inl ⟨rfl, .pause hp, hm, hr⟩⟩
  · rw [if_neg hp]
    obtain ⟨deeds, reply, r', hrun, hlog, hs, hway⟩ := writePayload_paced h step.payload r hr hm
    refine ⟨deeds, reply, r', hrun, hlog, hway.imp ?_ ?_⟩
    · rintro ⟨hd, hf, ha, hle, hend, hP⟩
      exact ⟨hd, .flushed hp hs hf hle ha, hend, hP⟩
    · rintro ⟨hc, hf⟩
      exact ⟨hc, hp, hs, hf⟩

lemma settle_paced (h : NeverFails (some m) P) (d : Duration) {r : Recorded σ} (hr : P r.inner)
    (hm : InputStream.now r ≤ m) :
    ∃ reply r', settle (some m) d r = (reply, r') ∧ r'.log = r.log ∧
      (reply = .done () ∧ InputStream.now r' = delayEnd (InputStream.now r) d ∧
          delayEnd (InputStream.now r) d ≤ m ∧ P r'.inner ∨
        reply = .cut ∧ m < delayEnd (InputStream.now r) d) := by
  unfold settle
  by_cases hd : d.nanos = 0
  · rw [if_pos hd, delayEnd, if_pos hd]
    exact ⟨_, r, rfl, rfl, .inl ⟨rfl, rfl, hm, hr⟩⟩
  · have hend : delayEnd (InputStream.now r) d = Clock.wake (InputStream.now r) d := if_neg hd
    rw [if_neg hd, hend]
    dsimp only
    by_cases hw : m < Clock.wake (InputStream.now r) d
    · rw [if_pos hw]
      exact ⟨_, _, rfl, rfl, .inr ⟨rfl, hw⟩⟩
    · rw [if_neg hw]
      refine ⟨_, _, rfl, rfl, .inl ⟨rfl, ?_, Nat.le_of_not_lt hw, ?_⟩⟩
      · rw [TimedInput.now_sleep]
        exact Nat.max_eq_right (hend ▸ le_delayEnd _ d)
      · exact h.sleep _ _ (by simpa using hw) hr

/-- How a run goes on a stream that never fails. -/
lemma runFrom_paced (h : NeverFails (some m) P) (steps : List CommandStep) :
    ∀ (n : Nat) (r : Recorded σ), P r.inner → InputStream.now r ≤ m →
      ∃ outcome done r' log, runFrom (some m) n n steps r = (outcome, n + done, r') ∧
        r'.log = r.log ++ log ∧ Paced m (InputStream.now r) steps log done ∧
        (outcome = .ok (n + done) ∧ done = steps.length ∨
          outcome = .cut ∧ done < steps.length) := by
  induction steps with
  | nil => exact fun n r _ _ => ⟨_, 0, r, [], rfl, by simp, .finished _, .inl ⟨rfl, rfl⟩⟩
  | cons step rest ih =>
    intro n r hr hm
    rw [runFrom_cons]
    obtain ⟨deeds, reply, r₁, hsend, hlog₁, ⟨rfl, hsent, hm₁, hP₁⟩ | ⟨rfl, hp, hs, hf⟩⟩ :=
      send_paced h step hr hm
    · rw [hsend]
      dsimp only
      obtain ⟨reply, r₂, hsettle, hlog₂, ⟨rfl, hnow, hend, hP₂⟩ | ⟨rfl, hend⟩⟩ :=
        settle_paced h step.settle hP₁ hm₁
      · rw [hsettle]
        obtain ⟨outcome, done, r', log, hrun, hlog, hpaced, hway⟩ :=
          ih (n + 1) r₂ hP₂ (hnow ▸ hend)
        rw [hnow] at hpaced
        rw [Nat.add_right_comm, Nat.add_assoc] at hrun hway
        refine ⟨outcome, done + 1, r', deeds ++ log, hrun, ?_, .settled hsent hend hpaced, ?_⟩
        · rw [hlog, hlog₂, hlog₁, List.append_assoc]
        · exact hway.imp (fun ⟨ho, hd⟩ => ⟨ho, congrArg (· + 1) hd⟩)
            (fun ⟨ho, hd⟩ => ⟨ho, Nat.succ_lt_succ hd⟩)
      · rw [hsettle]
        exact ⟨_, 0, r₂, deeds, rfl, by rw [hlog₂, hlog₁], .settling rest hsent hend,
          .inr ⟨rfl, Nat.succ_pos _⟩⟩
    · rw [hsend]
      exact ⟨_, 0, r₁, deeds, rfl, hlog₁, .sending rest hp hs hf, .inr ⟨rfl, Nat.succ_pos _⟩⟩

/-- **The pace of a script** on a stream that never fails, but may take its time over a write or a
flush, take any part of what it is offered and interrupt a write. A run that is dropped at a moment
comes to its end or to that moment, wherever it is then, and to record it does not change it. Whatever
was offered by then was offered in its turn, after the delays of all steps before it had ended, and so
every flush was begun, when all of a payload was accepted. The count is the number of steps whose
flush had succeeded, unless they are pauses, and whose delays are over by that moment, and what was
accepted is what these steps send and an initial part of what the next one sends, which may be all of
it. -/
theorem script_paced (h : NeverFails (some m) P) (steps : List CommandStep) (s : σ) (hs : P s)
    (hm : InputStream.now s ≤ m) :
    ∃ (outcome : Outcome) (completed : Nat) (r : Recorded σ),
      ({} : Sequencer).run (some m) steps (⟨s, []⟩ : Recorded σ) = (outcome, ⟨completed⟩, r) ∧
      ({} : Sequencer).run (some m) steps s = (outcome, ⟨completed⟩, r.inner) ∧
      (outcome = .ok steps.length ∧ completed = steps.length ∨
        outcome = .cut ∧ completed < steps.length ∧ InputStream.now r = m) ∧
      (∀ before u d after, r.log = before ++ (u, d) :: after →
        InTurn (InputStream.now s) steps before u d) ∧
      completed = ((delayEnds (InputStream.now s) steps (flushesOf r.log)).filter (· ≤ m)).length ∧
      ∃ part, r.accepted = (steps.take completed).flatMap CommandStep.payload ++ part ∧
        part <+: ((steps[completed]?).map CommandStep.payload).getD [] := by
  have hplain := erase_run Recorded.isErasure_stream {} (some m) steps (⟨s, []⟩ : Recorded σ)
  have hnow := (keeps_now_le (σ := Recorded σ) (Nat.le_refl m)).runFrom steps 0 0 ⟨s, []⟩ hm
  have hcut := le_now_of_runFrom (m := m) steps 0 0 (⟨s, []⟩ : Recorded σ)
  obtain ⟨done, part, hprogress⟩ := runFrom_progress (some m) steps 0 0 (⟨s, []⟩ : Recorded σ)
  obtain ⟨outcome, completed, r, log, hrun, hlog, hpaced, hway⟩ :=
    runFrom_paced h steps 0 (⟨s, []⟩ : Recorded σ) hs hm
  rw [Nat.zero_add] at hrun hway
  rw [hrun] at hnow hcut hprogress
  obtain rfl : log = r.log := by rw [hlog, List.nil_append]
  have hq : ({} : Sequencer).run (some m) steps (⟨s, []⟩ : Recorded σ) =
      (outcome, ⟨completed⟩, r) := by
    unfold Sequencer.run
    rw [hrun]
  rw [hq] at hplain
  have hdone : done = completed := by
    have hcount := hprogress.completed_eq
    dsimp only at hcount
    split at hcount <;> omega
  subst hdone
  refine ⟨outcome, done, r, hq, hplain.symm, ?_, fun _ _ _ _ hd => hpaced.inTurn hd,
    hpaced.done_eq, part, hprogress.accepted_eq, hprogress.part_prefix⟩
  obtain ⟨ho, hd⟩ | ⟨ho, hd⟩ := hway
  · exact .inl ⟨by rw [ho, hd], hd⟩
  · exact .inr ⟨ho, hd, Nat.le_antisymm hnow (hcut ho)⟩

end Sequencer

/-! ### A stream whose replies are given -/

namespace ScriptedInput

/-- No reply that is left is a failure, unless it is an interruption, and none takes nothing. -/
structure IsPatient (s : ScriptedInput) : Prop where
  takes : .accept 0 ∉ s.replies
  fails : ∀ e, .fail e ∈ s.replies → e.isInterrupted
  flushes : ∀ e, some e ∉ s.flushReplies

variable {s s' : ScriptedInput} {limit : Option Instant} {bs : Bytes} {answer : Reply Nat}

lemma afterWaits_subset (t : Instant) (rs : List WriteReply) : (afterWaits t rs).2 ⊆ rs := by
  fun_induction afterWaits t rs with
  | case1 t nanos rest ih => exact List.Subset.trans ih (List.subset_cons_self _ _)
  | case2 => exact List.Subset.refl _

lemma ready_subset (s : ScriptedInput) : s.ready.2 ⊆ s.replies := by
  unfold ready
  split
  · exact List.Subset.refl _
  · exact afterWaits_subset _ _

lemma IsPatient.of_subset (h : s.IsPatient) (hr : s'.replies ⊆ s.replies)
    (hf : s'.flushReplies ⊆ s.flushReplies) : s'.IsPatient :=
  ⟨fun hmem => h.takes (hr hmem), fun e hmem => h.fails e (hr hmem),
    fun e hmem => h.flushes e (hf hmem)⟩

lemma IsPatient.reply (h : s.IsPatient) (hw : ScriptedInput.reply bs s = (answer, s')) :
    s'.IsPatient ∧ (bs ≠ [] → answer ≠ .done 0) ∧ ∀ e, answer = .failed e → e.isInterrupted := by
  unfold ScriptedInput.reply at hw
  split at hw
  · next most rest hr =>
    cases hw
    have hmost : most ≠ 0 := by
      rintro rfl
      exact h.takes (by simp [hr])
    refine ⟨h.of_subset (by simp [hr, take]) (List.Subset.refl _), fun hbs => ?_, by simp⟩
    simp [hmost, hbs]
  · next e rest hr =>
    cases hw
    exact ⟨h.of_subset (by simp [hr]) (List.Subset.refl _), by simp,
      fun e' he => by cases he; exact h.fails e (by simp [hr])⟩
  · next rest _ _ hr =>
    cases hw
    exact ⟨h.of_subset (by simp [hr, take]) (List.Subset.refl _), by simp, by simp⟩
  · cases hw
    exact ⟨h.of_subset (List.Subset.refl _) (List.Subset.refl _), by simp, by simp⟩

lemma IsPatient.write (h : s.IsPatient) (hw : ScriptedInput.write limit bs s = (answer, s')) :
    s'.IsPatient ∧ (bs ≠ [] → answer ≠ .done 0) ∧ ∀ e, answer = .failed e → e.isInterrupted := by
  unfold ScriptedInput.write at hw
  split at hw
  · cases hw
    exact ⟨h.of_subset s.ready_subset (List.Subset.refl _), by simp, by simp⟩
  · have hbegin : s.begin.IsPatient := h.of_subset s.ready_subset (List.Subset.refl _)
    exact hbegin.reply hw

lemma IsPatient.flush (h : s.IsPatient) (limit : Option Instant) :
    (s.flush limit).2.IsPatient ∧ ∀ e, (s.flush limit).1 ≠ .failed e := by
  unfold ScriptedInput.flush
  split
  · exact ⟨h.of_subset (List.Subset.refl _) (List.Subset.refl _), by simp⟩
  · unfold replyToFlush
    split
    · next e rest hf => exact absurd (by simpa using hf ▸ List.mem_cons_self) (h.flushes e)
    · next rest hf =>
      have hrest : rest ⊆ s.flushReplies := by
        change s.flushReplies = none :: rest at hf
        simp [hf]
      exact ⟨h.of_subset (List.Subset.refl _) hrest, by simp⟩
    · exact ⟨h.of_subset (List.Subset.refl _) (List.Subset.refl _), by simp⟩

lemma neverFails_isPatient (limit : Option Instant) : Sequencer.NeverFails limit IsPatient where
  write _ _ hs := (hs.write (Prod.ext rfl rfl)).1
  flush _ hs := (hs.flush limit).1
  sleep _ _ _ hs := hs.of_subset (List.Subset.refl _) (List.Subset.refl _)
  takes_some _ _ _ hs hbs hw := (hs.write hw).2.1 hbs rfl
  interrupted _ _ e _ hs hw := (hs.write hw).2.2 e rfl
  flushes _ e _ hs hf := (hs.flush limit).2 e (congrArg Prod.fst hf)

end ScriptedInput

namespace Sequencer

/-- A run that is dropped while a slow stream flushes its third step. The flush of the first one began
at 2 and succeeded at 4, and the step settled until 7; the pause ended at 11, and only then the next
bytes were offered, all of which were taken by the end. -/
theorem script_paced_in_flush :
    let steps : List CommandStep := [.send [0x61, 0x62] ⟨3, by decide⟩, .pause ⟨4, by decide⟩,
      .send [0x63, 0x64] .zero]
    let s : ScriptedInput :=
      { replies := [.accept 1, .wait 2, .fail (.plain .interrupted), .acceptAll, .accept 1,
          .wait 1]
        flushTimes := [2, 9] }
    NeverFails (some 15) ScriptedInput.IsPatient ∧ s.IsPatient ∧ InputStream.now s ≤ 15 ∧
    ∃ r : Recorded ScriptedInput,
      ({} : Sequencer).run (some 15) steps s = (.cut, ⟨2⟩, r.inner) ∧
      flushesOf r.log = [4] ∧ r.accepted = [0x61, 0x62, 0x63, 0x64] ∧
      delayEnds (InputStream.now s) steps [4] = [7, 11] ∧
      (r.log.map Prod.fst).getLast? = some 12 ∧
      ∀ before u d after, r.log = before ++ (u, d) :: after →
        InTurn (InputStream.now s) steps before u d := by
  intro steps s
  have hnever := ScriptedInput.neverFails_isPatient (some 15)
  have hs : s.IsPatient := ⟨by simp [s], by simp [s, IoError.isInterrupted], by simp [s]⟩
  have hm : InputStream.now s ≤ 15 := Nat.zero_le 15
  refine ⟨hnever, hs, hm, ?_⟩
  obtain ⟨outcome, completed, r, hrun, hplain, -, hturn, -⟩ := script_paced hnever steps s hs hm
  have hcomes : (fun x : Outcome × Sequencer × Recorded ScriptedInput =>
      (x.1, x.2.1, flushesOf x.2.2.log, x.2.2.accepted, (x.2.2.log.map Prod.fst).getLast?))
        (({} : Sequencer).run (some 15) steps (⟨s, []⟩ : Recorded ScriptedInput)) =
      (.cut, ⟨2⟩, [4], [0x61, 0x62, 0x63, 0x64], some 12) := by cbv
  rw [hrun] at hcomes
  simp only [Prod.mk.injEq] at hcomes
  obtain ⟨rfl, hq, hflushes, haccepted, hlast⟩ := hcomes
  refine ⟨r, ?_, hflushes, haccepted, by decide, hlast, hturn⟩
  rw [hplain, hq]

/-- A stream that takes everything takes a byte at once. -/
lemma writtenInFull_byte (b : UInt8) {now m : Instant} (h : now ≤ m)
    (accepted : List (Instant × Bytes)) (flushes : Nat) (log : List (Instant × Deed)) :
    WrittenInFull (some m) [b]
      (⟨{ now := now, accepted := accepted, flushes := flushes }, log⟩ : Recorded ScriptedInput)
      ⟨{ now := now, accepted := accepted ++ [(now, [b])], flushes := flushes + 1 },
        log ++ [(now, .offered [b] (.done 1))] ++ [(now, .flushed (.done ()) now)]⟩ := by
  let s : ScriptedInput := { now := now, accepted := accepted, flushes := flushes }
  have hready : s.ready.1 = now := rfl
  have hbegin : s.begin = s := by
    simp [ScriptedInput.begin, ScriptedInput.advance, ScriptedInput.ready,
      ScriptedInput.afterWaits, s]
  have hwrite : InputStream.write (some m) [b] s = (.done 1, s.take [b]) := by
    change ScriptedInput.write (some m) [b] s = _
    rw [ScriptedInput.write, if_neg (by simpa [hready] using h), hbegin]
    rfl
  have hend : (s.take [b]).flushEnd = now := rfl
  have hflush : InputStream.flush (some m) (s.take [b]) =
      (.done (), { s.take [b] with flushes := flushes + 1 }) := by
    change ScriptedInput.flush (some m) (s.take [b]) = _
    rw [ScriptedInput.flush, if_neg (by simpa [hend] using h)]
    simp [ScriptedInput.replyToFlush, ScriptedInput.advance, ScriptedInput.flushEnd,
      ScriptedInput.take, s]
  exact .taken (List.cons_ne_nil b []) (Recorded.write_of hwrite) (.flushed (Recorded.flush_of hflush))

/-- A stream that takes everything takes one byte before a delay and one after it. -/
lemma run_spaced (a b : UInt8) {d : Duration} {late m : Instant} (hd : d.nanos ≠ 0)
    (hlate : Clock.wake 0 d = late) (hm : late ≤ m) :
    ∃ (n : Nat) (q : Sequencer) (r : Recorded ScriptedInput),
      ({} : Sequencer).run (some m) [.send [a] d, .send [b] .zero]
        (⟨{}, []⟩ : Recorded ScriptedInput) = (.ok n, q, r) ∧
      r.log = [(0, .offered [a] (.done 1)), (0, .flushed (.done ()) 0),
        (late, .offered [b] (.done 1)), (late, .flushed (.done ()) late)] := by
  let r : Recorded ScriptedInput :=
    ⟨{ accepted := [(0, [a])], flushes := 1 },
      [(0, .offered [a] (.done 1)), (0, .flushed (.done ()) 0)]⟩
  have hwake : Clock.wake (InputStream.now r) d = late := hlate
  have hsleep : InputStream.sleep late r =
      ⟨{ now := late, accepted := [(0, [a])], flushes := 1 }, r.log⟩ := by
    change (⟨ScriptedInput.advance _ late, _⟩ : Recorded ScriptedInput) = _
    simp [ScriptedInput.advance, r]
  have hfirst : StepDone (some m) (.send [a] d) (⟨{}, []⟩ : Recorded ScriptedInput)
      ⟨{ now := late, accepted := [(0, [a])], flushes := 1 }, r.log⟩ := by
    refine ⟨r, writtenInFull_byte a (Nat.zero_le m) [] 0 [], .inr ⟨hd, ?_, ?_⟩⟩
    · rintro _ ⟨⟩
      exact hwake.trans_le hm
    · exact hsleep.symm.trans (congrArg (InputStream.sleep · r) hwake.symm)
  have hsecond : StepDone (some m) (.send [b] .zero) _ _ :=
    ⟨_, writtenInFull_byte b hm [(0, [a])] 1 r.log, .inl ⟨rfl, rfl⟩⟩
  obtain ⟨n, m, hrun⟩ := (runFrom_eq_ok_iff 0 0).2 (.cons hfirst (.cons hsecond (.nil _)))
  exact ⟨n, ⟨m⟩, _, by rw [run, hrun], rfl⟩

/-- **A delay whose end the clock cannot show is cut short.** After its first step a script is to
settle for all the seconds that a span can have, and offers its second step after thirty years,
before the run would be dropped. -/
theorem long_delay_cut_short :
    let step : CommandStep := .send [0x61] (.ofSeconds 0xFFFFFFFFFFFFFFFF)
    ∃ (n : Nat) (q : Sequencer) (r : Recorded ScriptedInput),
      ({} : Sequencer).run (some (milliseconds 1000000000000)) [step, .send [0x62] .zero]
        (⟨{}, []⟩ : Recorded ScriptedInput) = (.ok n, q, r) ∧
      r.log = [(0, .offered [0x61] (.done 1)), (0, .flushed (.done ()) 0),
        (Clock.farFuture, .offered [0x62] (.done 1)),
        (Clock.farFuture, .flushed (.done ()) Clock.farFuture)] ∧
      Clock.farFuture < step.settle.nanos := by
  intro step
  have hwake : Clock.wake 0 step.settle = Clock.farFuture := by decide
  have hlimit : Clock.farFuture ≤ milliseconds 1000000000000 := by decide
  obtain ⟨n, q, r, hrun, hlog⟩ := run_spaced 0x61 0x62 (by decide) hwake hlimit
  exact ⟨n, q, r, hrun, hlog, by decide⟩

end Sequencer
end GuestHarness
