import GuestHarness.Proofs.Observation
import Mathlib.Data.List.Permutation

/-!
Scripts are replayed faithfully. The calls of a run fall into groups, one for each step: a pause
makes none, and any other step makes writes until all of its bytes are accepted, and then one flush.
The stream may take any part of what it is offered and interrupt a write. What ends a run is a write
that fails or takes nothing, or a flush that fails; this is the last call that the run makes, and
what was accepted by then is what the steps before send and the part of this step that the writes
before it have delivered.
-/

namespace GuestHarness

/-! ### Streams that are overheard -/

/-- A call on a stream and the reply to it. -/
inductive Exchange where
  | write (offered : Bytes) (reply : Reply Nat)
  | flush (reply : Reply Unit)

namespace Exchange

/-- The bytes that were accepted. -/
def accepted : Exchange → Bytes
  | write offered (.done n) => offered.take n
  | _ => []

/-- The call was a write. -/
def isWrite : Exchange → Bool
  | write _ _ => true
  | flush _ => false

/-- The error of a call after which a script cannot go on. It is one to accept no bytes, and none to
be interrupted. -/
def failure? : Exchange → Option IoError
  | write _ (.done 0) => some (.custom .writeZero "input stream accepted no bytes")
  | write _ (.failed e) => if e.isInterrupted then none else some e
  | flush (.failed e) => some e
  | _ => none

/-- The call was a write after which a script goes on. -/
def GoesOn (x : Exchange) : Prop := x.isWrite ∧ x.failure? = none

end Exchange

/-- A stream and the calls that were made on it with their replies, oldest first. -/
structure Overheard (σ : Type) where
  inner : σ
  calls : List Exchange := []

namespace Overheard

variable {σ : Type} [InputStream σ]

instance : InputStream (Overheard σ) where
  now r := InputStream.now r.inner
  captured r := InputStream.captured r.inner
  write limit bs r :=
    let w := InputStream.write limit bs r.inner
    (w.1, ⟨w.2, r.calls ++ [.write bs w.1]⟩)
  flush limit r :=
    let w := InputStream.flush limit r.inner
    (w.1, ⟨w.2, r.calls ++ [.flush w.1]⟩)
  sleep moment r := { r with inner := InputStream.sleep moment r.inner }
  interruptions r := InputStream.interruptions r.inner
  interrupted_lt limit bs r e r' h hi := by
    simp only [Prod.mk.injEq] at h
    obtain ⟨h, rfl⟩ := h
    exact InputStream.interrupted_lt limit bs r.inner e _ (Prod.ext h rfl) hi

/-- The bytes that were accepted, one after the other. -/
def accepted (r : Overheard σ) : Bytes := r.calls.flatMap Exchange.accepted

lemma isErasure_inner : InputStream.IsErasure (inner (σ := σ)) :=
  ⟨fun _ => rfl, fun _ => rfl, fun _ _ _ => rfl, fun _ _ => rfl, fun _ _ => rfl⟩

variable {r r' : Overheard σ}

lemma calls_of_write {bs : Bytes} {limit : Option Instant} {reply : Reply Nat}
    (h : InputStream.write limit bs r = (reply, r')) : r'.calls = r.calls ++ [.write bs reply] := by
  cases h
  rfl

lemma calls_of_flush {limit : Option Instant} {reply : Reply Unit}
    (h : InputStream.flush limit r = (reply, r')) : r'.calls = r.calls ++ [.flush reply] := by
  cases h
  rfl

end Overheard

/-! ### The calls of one step -/

/-- The calls deliver some bytes: writes that go on, which together take all of them, and then one
flush that succeeds. -/
def Delivers (bs : Bytes) (calls : List Exchange) : Prop :=
  ∃ writes, calls = writes ++ [.flush (.done ())] ∧ (∀ x ∈ writes, x.GoesOn) ∧
    writes.flatMap Exchange.accepted = bs

/-- The calls fail to deliver some bytes with an error: writes that go on, which take a part of the
bytes, and then one call that fails. This is the flush if all bytes were taken, and a write if
not. -/
def FailsToDeliver (bs part : Bytes) (e : IoError) (calls : List Exchange) : Prop :=
  ∃ writes last, calls = writes ++ [last] ∧ (∀ x ∈ writes, x.GoesOn) ∧
    writes.flatMap Exchange.accepted = part ∧ part <+: bs ∧ last.failure? = some e ∧
    (last.isWrite ↔ part ≠ bs)

section Delivery

variable {x : Exchange} {bs rest part : Bytes} {e : IoError} {calls : List Exchange}

lemma Delivers.cons (h : Delivers rest calls) (hx : x.GoesOn) (hbs : x.accepted ++ rest = bs) :
    Delivers bs (x :: calls) := by
  obtain ⟨writes, rfl, hgo, rfl⟩ := h
  exact ⟨x :: writes, rfl, List.forall_mem_cons.2 ⟨hx, hgo⟩, hbs⟩

lemma FailsToDeliver.cons (h : FailsToDeliver rest part e calls) (hx : x.GoesOn)
    (hbs : x.accepted ++ rest = bs) :
    FailsToDeliver bs (x.accepted ++ part) e (x :: calls) := by
  obtain ⟨writes, last, rfl, hgo, rfl, hpart, hlast, hiff⟩ := h
  rw [← hbs]
  refine ⟨x :: writes, last, rfl, List.forall_mem_cons.2 ⟨hx, hgo⟩, rfl, ?_, hlast, ?_⟩
  · exact List.prefix_append_right_inj _ |>.2 hpart
  · rw [hiff, Ne, Ne, List.append_cancel_left_eq]

lemma Delivers.accepted (h : Delivers bs calls) : calls.flatMap Exchange.accepted = bs := by
  obtain ⟨writes, rfl, -, rfl⟩ := h
  simp [Exchange.accepted]

/-- A call that fails takes nothing. -/
lemma Exchange.accepted_of_failure (h : x.failure? = some e) : x.accepted = [] := by
  cases x with
  | flush reply => rfl
  | write offered reply =>
    cases reply with
    | done n => cases n with
      | zero => rfl
      | succ n => cases h
    | failed _ => rfl
    | cut => rfl

lemma FailsToDeliver.accepted (h : FailsToDeliver bs part e calls) :
    calls.flatMap Exchange.accepted = part := by
  obtain ⟨writes, last, rfl, -, rfl, -, hlast, -⟩ := h
  simp [Exchange.accepted_of_failure hlast]

end Delivery

/-- The calls of a step that succeeds: none for a pause, and otherwise its bytes are delivered. -/
def CommandStep.DeliveredBy (s : CommandStep) (calls : List Exchange) : Prop :=
  if s.isPause then calls = [] else Delivers s.payload calls

lemma CommandStep.DeliveredBy.accepted {s : CommandStep} {calls : List Exchange}
    (h : s.DeliveredBy calls) : calls.flatMap Exchange.accepted = s.payload := by
  unfold DeliveredBy at h
  split at h
  · next hp => rw [h, List.isEmpty_iff.1 hp, List.flatMap_nil]
  · exact h.accepted

lemma accepted_of_delivered {steps : List CommandStep} {parts : List (List Exchange)}
    (h : List.Forall₂ CommandStep.DeliveredBy steps parts) :
    parts.flatten.flatMap Exchange.accepted = steps.flatMap CommandStep.payload := by
  induction h with
  | nil => rfl
  | cons hs _ ih => rw [List.flatten_cons, List.flatMap_append, hs.accepted, ih, List.flatMap_cons]

namespace Sequencer

variable {σ : Type} [InputStream σ]

/-- A call is cut only if it is dropped. -/
structure CutsOnlyDropped (σ : Type) [InputStream σ] : Prop where
  write (bs : Bytes) (s : σ) : (InputStream.write none bs s).1 ≠ .cut
  flush (s : σ) : (InputStream.flush none s).1 ≠ .cut

lemma writePayload_calls (hcut : CutsOnlyDropped σ) (payload : Bytes) (r : Overheard σ) :
    ∃ calls, (writePayload none payload r).2.calls = r.calls ++ calls ∧
      (((writePayload none payload r).1 = .done () ∧ Delivers payload calls) ∨
        ∃ e part, (writePayload none payload r).1 = .failed e ∧
          FailsToDeliver payload part e calls) := by
  fun_induction writePayload none payload r with
  | case1 r =>
    obtain ⟨reply, r', hf⟩ : ∃ reply r', InputStream.flush none r = (reply, r') := ⟨_, _, rfl⟩
    rw [hf]
    refine ⟨_, Overheard.calls_of_flush hf, ?_⟩
    cases reply with
    | done _ => exact .inl ⟨rfl, [], rfl, by simp, rfl⟩
    | failed e =>
      refine .inr ⟨e, [], rfl, [], _, rfl, by simp, rfl, List.nil_prefix, rfl, ?_⟩
      simp [Exchange.isWrite]
    | cut => exact absurd (congrArg Prod.fst hf) (hcut.flush r.inner)
  | case2 payload r hp r' hw =>
    refine ⟨_, Overheard.calls_of_write hw, .inr ⟨_, [], rfl, [], _, rfl, by simp, rfl, ?_, rfl, ?_⟩⟩
    · exact List.nil_prefix
    · simpa [Exchange.isWrite] using Ne.symm hp
  | case3 payload r hp n r' hw ih =>
    obtain ⟨calls, hcalls, hend⟩ := ih
    have hx : (Exchange.write payload (.done (n + 1))).GoesOn := ⟨rfl, rfl⟩
    have htake : (Exchange.write payload (.done (n + 1))).accepted ++ payload.drop (n + 1) = payload :=
      List.take_append_drop (n + 1) payload
    refine ⟨.write payload (.done (n + 1)) :: calls, ?_, ?_⟩
    · rw [hcalls, Overheard.calls_of_write hw, List.append_assoc, List.singleton_append]
    · obtain ⟨hr, hd⟩ | ⟨e, part, hr, hd⟩ := hend
      · exact .inl ⟨hr, hd.cons hx htake⟩
      · exact .inr ⟨e, _, hr, hd.cons hx htake⟩
  | case4 payload r hp e r' hw hi ih =>
    obtain ⟨calls, hcalls, hend⟩ := ih
    have hx : (Exchange.write payload (.failed e)).GoesOn := ⟨rfl, if_pos hi⟩
    refine ⟨.write payload (.failed e) :: calls, ?_, ?_⟩
    · rw [hcalls, Overheard.calls_of_write hw, List.append_assoc, List.singleton_append]
    · obtain ⟨hr, hd⟩ | ⟨e', part, hr, hd⟩ := hend
      · exact .inl ⟨hr, hd.cons hx rfl⟩
      · exact .inr ⟨e', part, hr, hd.cons hx rfl⟩
  | case5 payload r hp e r' hw hi =>
    refine ⟨_, Overheard.calls_of_write hw,
      .inr ⟨e, [], rfl, [], _, rfl, by simp, rfl, ?_, if_neg hi, ?_⟩⟩
    · exact List.nil_prefix
    · simpa [Exchange.isWrite] using Ne.symm hp
  | case6 payload r hp r' hw =>
    exact absurd (congrArg Prod.fst hw) (hcut.write payload r.inner)

/-! ### The calls of a run -/

lemma settle_none (d : Duration) (r : Overheard σ) :
    ∃ r', settle none d r = (.done (), r') ∧ r'.calls = r.calls := by
  unfold settle
  split
  · exact ⟨r, rfl, rfl⟩
  · exact ⟨_, rfl, rfl⟩

lemma send_calls (hcut : CutsOnlyDropped σ) (step : CommandStep) (r : Overheard σ) :
    ∃ calls, (send none step r).2.calls = r.calls ++ calls ∧
      (((send none step r).1 = .done () ∧ step.DeliveredBy calls) ∨
        ∃ e part, (send none step r).1 = .failed e ∧ ¬ step.isPause ∧
          FailsToDeliver step.payload part e calls) := by
  unfold send CommandStep.DeliveredBy
  split
  · exact ⟨[], (List.append_nil _).symm, .inl ⟨rfl, rfl⟩⟩
  · next hp =>
    obtain ⟨calls, hcalls, hend⟩ := writePayload_calls hcut step.payload r
    refine ⟨calls, hcalls, hend.imp id ?_⟩
    rintro ⟨e, part, hr, hd⟩
    exact ⟨e, part, hr, hp, hd⟩

/-- What a run from some step on comes to: all its steps are delivered, one after the other, or
those before the one at which it failed are. -/
lemma runFrom_calls (hcut : CutsOnlyDropped σ) (steps : List CommandStep) :
    ∀ (n : Nat) (r : Overheard σ),
      (∃ r' parts, runFrom none n n steps r = (.ok (n + steps.length), n + steps.length, r') ∧
        r'.calls = r.calls ++ parts.flatten ∧
        List.Forall₂ CommandStep.DeliveredBy steps parts) ∨
      ∃ i step e part r' parts last, steps[i]? = some step ∧
        runFrom none n n steps r = (.failed (n + i) e (InputStream.captured r'), n + i, r') ∧
        r'.calls = r.calls ++ (parts.flatten ++ last) ∧
        List.Forall₂ CommandStep.DeliveredBy (steps.take i) parts ∧ ¬ step.isPause ∧
        FailsToDeliver step.payload part e last := by
  induction steps with
  | nil => exact fun n r => .inl ⟨r, [], rfl, (List.append_nil _).symm, .nil⟩
  | cons step rest ih =>
    intro n r
    have hsent := send_calls hcut step r
    rw [runFrom_cons]
    generalize send none step r = sent at hsent ⊢
    obtain ⟨reply, r₁⟩ := sent
    obtain ⟨calls, hcalls, ⟨hr, hd⟩ | ⟨e, part, hr, hp, hd⟩⟩ := hsent
    · -- the step is delivered, and the rest is run
      obtain rfl : reply = .done () := hr
      obtain ⟨r', hsettle, hsame⟩ := settle_none step.settle r₁
      rw [hcalls] at hsame
      dsimp only
      rw [hsettle]
      dsimp only
      obtain ⟨r'', parts, hrest, hcalls', hall⟩ |
        ⟨i, step', e, part, r'', parts, last, hi, hrest, hcalls', hall, hp, hfail⟩ := ih (n + 1) r'
      · refine .inl ⟨r'', calls :: parts, ?_, ?_, .cons hd hall⟩
        · rw [hrest, List.length_cons, Nat.add_right_comm, Nat.add_assoc]
        · simp [hcalls', hsame]
      · refine .inr ⟨i + 1, step', e, part, r'', calls :: parts, last, hi, ?_, ?_,
          .cons hd hall, hp, hfail⟩
        · rw [hrest, Nat.add_right_comm, Nat.add_assoc]
        · simp [hcalls', hsame]
    · -- it is not, and nothing more is done
      obtain rfl : reply = .failed e := hr
      exact .inr ⟨0, step, e, part, r₁, [], calls, rfl, rfl, hcalls, .nil, hp, hd⟩

/-- **A script is replayed faithfully**, whatever the stream does: it may accept any part of a write,
interrupt it, accept nothing or fail, and fail to flush. A run that is not dropped comes to an end,
and to hear its calls does not change it. Either it succeeds with the number of its steps: it has
counted all of them, the stream has accepted what they send and nothing else, and the calls are those
of the steps, one after the other. Or it fails at a step that is no pause, with the error of its last
call and the output that is captured after this call: it has counted the steps before this one, the
stream has accepted what they send and the part of this step that the writes of this step had
delivered, and that is all of it only if the last call is the flush. -/
theorem replay_faithful (hcut : CutsOnlyDropped σ) (steps : List CommandStep) (s : σ) :
    ∃ (outcome : Outcome) (completed : Nat) (heard : Overheard σ),
      ({} : Sequencer).run none steps (⟨s, []⟩ : Overheard σ) = (outcome, ⟨completed⟩, heard) ∧
      ({} : Sequencer).run none steps s = (outcome, ⟨completed⟩, heard.inner) ∧
      ((outcome.toResult = some (.ok steps.length) ∧ completed = steps.length ∧
          heard.accepted = steps.flatMap CommandStep.payload ∧
          ∃ parts, heard.calls = parts.flatten ∧
            List.Forall₂ CommandStep.DeliveredBy steps parts) ∨
        ∃ i step e part parts last, steps[i]? = some step ∧
          outcome = .failed i e (InputStream.captured heard.inner) ∧
          outcome.toResult =
            some (.error (.commandWrite i e.message (InputStream.captured heard.inner))) ∧
          completed = i ∧
          heard.accepted = (steps.take i).flatMap CommandStep.payload ++ part ∧
          heard.calls = parts.flatten ++ last ∧
          List.Forall₂ CommandStep.DeliveredBy (steps.take i) parts ∧ ¬ step.isPause ∧
          FailsToDeliver step.payload part e last) := by
  have hplain := erase_run Overheard.isErasure_inner {} none steps (⟨s, []⟩ : Overheard σ)
  obtain ⟨heard, parts, hrun, hcalls, hall⟩ |
    ⟨i, step, e, part, heard, parts, last, hi, hrun, hcalls, hall, hp, hfail⟩ :=
      runFrom_calls hcut steps 0 (⟨s, []⟩ : Overheard σ)
  · rw [Nat.zero_add] at hrun
    have hq : ({} : Sequencer).run none steps (⟨s, []⟩ : Overheard σ) =
        (.ok steps.length, ⟨steps.length⟩, heard) := by
      unfold Sequencer.run
      rw [hrun]
    rw [hq] at hplain
    rw [List.nil_append] at hcalls
    refine ⟨_, _, heard, hq, hplain.symm, .inl ⟨rfl, rfl, ?_, parts, hcalls, hall⟩⟩
    rw [Overheard.accepted, hcalls, accepted_of_delivered hall]
  · rw [Nat.zero_add] at hrun
    have hq : ({} : Sequencer).run none steps (⟨s, []⟩ : Overheard σ) =
        (.failed i e (InputStream.captured heard), ⟨i⟩, heard) := by
      unfold Sequencer.run
      rw [hrun]
    rw [hq] at hplain
    rw [List.nil_append] at hcalls
    refine ⟨_, _, heard, hq, hplain.symm, .inr ⟨i, step, e, part, parts, last, hi, rfl, rfl, rfl,
      ?_, hcalls, hall, hp, hfail⟩⟩
    rw [Overheard.accepted, hcalls, List.flatMap_append, accepted_of_delivered hall,
      hfail.accepted]

lemma cutsOnlyDropped_scriptedInput : CutsOnlyDropped ScriptedInput where
  write bs s := by
    change (ScriptedInput.write none bs s).1 ≠ .cut
    rw [ScriptedInput.write, if_neg (by simp)]
    exact ScriptedInput.reply_ne_cut _ _
  flush s := by
    change (ScriptedInput.flush none s).1 ≠ .cut
    rw [ScriptedInput.flush, if_neg (by simp)]
    exact ScriptedInput.replyToFlush_ne_cut _

/-- A stream that takes a byte, interrupts the next write, and fails when it is flushed for the
second time: the step before the pause is delivered, and of the one after it all bytes were taken. -/
theorem replay_faithful_unflushed :
    let steps : List CommandStep :=
      [.send [0x61, 0x62] (.ofMillis 0), .pause (.ofMillis 1), .send [0x63] (.ofMillis 0)]
    let s : ScriptedInput :=
      { replies := [.accept 1, .fail (.plain .interrupted)]
        flushReplies := [none, some (.plain .brokenPipe)], buffer := ⟨[0x4F], false⟩ }
    CutsOnlyDropped ScriptedInput ∧
    ∃ (heard : Overheard ScriptedInput) (parts : List (List Exchange)) (last : List Exchange),
      ({} : Sequencer).run none steps (⟨s, []⟩ : Overheard ScriptedInput) =
        (.failed 2 (.plain .brokenPipe) [0x4F], ⟨2⟩, heard) ∧
      heard.calls = parts.flatten ++ last ∧
      List.Forall₂ CommandStep.DeliveredBy (steps.take 2) parts ∧
      FailsToDeliver [0x63] [0x63] (.plain .brokenPipe) last := by
  intro steps s
  refine ⟨cutsOnlyDropped_scriptedInput, ?_⟩
  obtain ⟨outcome, completed, heard, hrun, -, hways⟩ :=
    replay_faithful cutsOnlyDropped_scriptedInput steps s
  have hcomes : (match ({} : Sequencer).run none steps (⟨s, []⟩ : Overheard ScriptedInput) with
      | (outcome, _, heard) => (outcome, heard.accepted)) =
      (.failed 2 (.plain .brokenPipe) [0x4F], [0x61, 0x62, 0x63]) := by cbv
  rw [hrun] at hcomes
  obtain ⟨houtcome, haccepted⟩ := Prod.mk.inj hcomes
  obtain rfl : outcome = _ := houtcome
  obtain ⟨h, -⟩ | ⟨i, step, e, part, parts, last, hi, hfailed, -, rfl, hpart, hcalls, hall, -, hend⟩ :=
    hways
  · cases h
  · obtain ⟨rfl, rfl, -⟩ := Outcome.failed.inj hfailed
    obtain rfl := Option.some.inj hi
    have htaken : [0x61, 0x62] ++ [0x63] = [0x61, 0x62] ++ part := haccepted.symm.trans hpart
    obtain rfl := List.append_cancel_left htaken
    exact ⟨heard, parts, last, hrun, hcalls, hall, hend⟩

end Sequencer
end GuestHarness
