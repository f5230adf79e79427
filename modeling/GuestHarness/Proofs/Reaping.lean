import GuestHarness.Proofs.Observation
import GuestHarness.Proofs.Target.Attended

/-!
The end of a target is asked for by several calls, and each of them could be the one that gets it.
Whichever it is, it records the end before it returns, so a child knows the end of its target if and
only if the system has handed it out. All signals are sent before that, while the number still
belongs to the target; from then on the calls answer from the record and leave the target alone.
-/

namespace GuestHarness.Child

variable {τ : Type} [Target τ]

/-! ### Calls -/

/-- What can be asked of a child, and that time passes. -/
inductive Call where
  | tryReap
  | waitUntil (deadline : Instant)
  | startKill
  | closeInput
  | terminate (grace : Duration) (deadline : Instant)
  | pass (moment : Instant)

/-- What a call answers: nothing, the end of the target if it is known, whether the target was
killed, or how it was brought to its end. -/
inductive Answer where
  | nothing
  | exit (reply : Except HarnessError (Option ExitInfo))
  | kill (reply : Except HarnessError Unit)
  | status (s : SessionStatus)

/-- The child when time has passed. -/
def idle (m : Instant) (c : Child τ) : Child τ := { c with target := InputStream.sleep m c.target }

def perform (c : Child τ) : Call → Except Clock.Overflow (Answer × Child τ)
  | .tryReap => .ok (Prod.map .exit id c.lookForExit)
  | .waitUntil m => .ok (Prod.map .exit id (c.awaitExit m))
  | .startKill => .ok (Prod.map .kill id c.requestKill)
  | .closeInput => .ok (.nothing, c.closeInput)
  | .terminate grace deadline => Prod.map .status id <$> c.terminate grace deadline
  | .pass m => .ok (.nothing, c.idle m)

section InOrder

variable {κ κ' : Type} {make : κ → Call → Except Clock.Overflow (Answer × κ)}
  {make' : κ' → Call → Except Clock.Overflow (Answer × κ')} {k l : κ} {call : Call}
  {calls : List Call} {answers : List Answer}

/-- Makes some calls in a given way, one after the other. -/
def inOrder (make : κ → Call → Except Clock.Overflow (Answer × κ)) (k : κ) :
    List Call → Except Clock.Overflow (List Answer × κ)
  | [] => .ok ([], k)
  | call :: rest => do
    let (answer, k) ← make k call
    let (answers, k) ← inOrder make k rest
    return (answer :: answers, k)

lemma inOrder_cons_eq_ok_iff : inOrder make k (call :: calls) = .ok (answers, l) ↔
    ∃ answer k' more, make k call = .ok (answer, k') ∧ inOrder make k' calls = .ok (more, l) ∧
      answers = answer :: more := by
  constructor
  · intro h
    obtain ⟨⟨answer, k'⟩, hcall, h⟩ := bind_eq_ok_iff.1 h
    obtain ⟨⟨more, l'⟩, hmore, h⟩ := bind_eq_ok_iff.1 h
    cases h
    exact ⟨answer, k', more, hcall, hmore, rfl⟩
  · rintro ⟨answer, k', more, hcall, hmore, rfl⟩
    simp only [inOrder, hcall, hmore, bind, Except.bind, pure, Except.pure]

/-- What each call keeps is kept by all of them. -/
lemma inOrder_keeps {P : κ → Prop}
    (hmake : ∀ {k call answer l}, P k → make k call = .ok (answer, l) → P l)
    (h : inOrder make k calls = .ok (answers, l)) (hk : P k) : P l := by
  induction calls generalizing k answers with
  | nil =>
    cases h
    exact hk
  | cons call calls ih =>
    obtain ⟨answer, k', more, hcall, hmore, -⟩ := inOrder_cons_eq_ok_iff.1 h
    exact ih hmore (hmake hk hcall)

/-- Calls of two kinds that agree on a view of what they are made on agree when they are made one
after the other. -/
lemma inOrder_agree {f : κ → κ'}
    (hmake : ∀ k call, Prod.map id f <$> make k call = make' (f k) call) (k : κ)
    (calls : List Call) : Prod.map id f <$> inOrder make k calls = inOrder make' (f k) calls := by
  induction calls generalizing k with
  | nil => rfl
  | cons call calls ih =>
    simp only [inOrder]
    rw [← hmake, map_bind, bind_map_left]
    refine bind_congr fun x => ?_
    dsimp only [Prod.map]
    rw [← ih, map_bind, bind_map_left]
    rfl

end InOrder

/-! ### Calls on an attended target -/

lemma erase_perform (c : Child (Attended τ)) (call : Call) :
    Prod.map id (erase Attended.inner) <$> c.perform call =
      (c.erase Attended.inner).perform call := by
  have hf := Attended.isErasure_inner (τ := τ)
  cases call with
  | tryReap =>
    simp only [perform, ← erase_lookForExit hf]
    rfl
  | waitUntil m =>
    simp only [perform, ← erase_awaitExit hf]
    rfl
  | startKill =>
    simp only [perform, ← erase_requestKill hf]
    rfl
  | closeInput =>
    simp only [perform, ← erase_closeInput hf]
    rfl
  | terminate grace deadline =>
    simp only [perform, ← erase_terminate hf, Functor.map_map]
    rfl
  | pass m => rfl

/-! ### What the calls keep -/

/-- The end of the target is known if and only if it was handed out, and all signals were sent
before it was. -/
structure Tidy (c : Child (Attended τ)) : Prop where
  recorded : c.target.handedOut = c.exit
  before : ∀ p ∈ c.target.sent, p.2 = none

namespace Tidy

variable {c c' : Child (Attended τ)} {grace : Duration} {deadline : Instant}

omit [Target τ] in
lemma start (t : τ) : Tidy ({ target := { inner := t } } : Child (Attended τ)) := ⟨rfl, by simp⟩

omit [Target τ] in
/-- The call that gets the end of the target records it. -/
lemma record [Target τ] (h : c.Tidy) (he : c.exit = none) {inner : τ}
    {x : Except IoError (Option ExitInfo) × Attended τ} (hreply : x.1 = .ok (Target.exit? inner))
    (htarget : x.2 = c.target.handOut inner) : (c.record x).2.Tidy := by
  have hbefore : c.target.handedOut = none := h.recorded.trans he
  constructor
  · rw [record_of_ok hreply, htarget, Attended.handOut, hbefore, Option.none_or]
  · rw [target_record, htarget]
    exact h.before

omit [Target τ] in
/-- A signal that is sent before the end is known is sent before it is handed out. -/
lemma send (h : c.Tidy) (he : c.exit = none) {d : Child (Attended τ)} {n : Signal} {inner : τ}
    (htarget : d.target = c.target.send n inner) (hexit : d.exit = c.exit) : d.Tidy := by
  constructor
  · rw [htarget, hexit]
    exact h.recorded
  · rw [htarget]
    rintro p hp
    obtain hp | hp := List.mem_append.1 hp
    · exact h.before p hp
    · rw [List.mem_singleton.1 hp]
      exact h.recorded.trans he

lemma startKill (h : c.Tidy) : c.startKill.Tidy := by
  cases he : c.exit with
  | some e =>
    rw [Child.startKill, requestKill, if_pos (by simp [he])]
    exact h
  | none =>
    rw [startKill_of_unknown he]
    exact h.send he rfl rfl

lemma closeInput (h : c.Tidy) : c.closeInput.Tidy := by
  unfold Child.closeInput
  split
  · exact ⟨h.recorded, h.before⟩
  · exact h

/-- The question whether there is such a process is no signal. -/
lemma asked (h : c.Tidy) (he : c.exit = none) : c.asked.Tidy := by
  have hask : c.askToEnd.Tidy := h.send he (target_askToEnd c) rfl
  refine closeInput ?_
  obtain hs | hs := c.signalEnd_cases
  · rw [hs]
    exact hask
  · rw [hs]
    constructor
    · rw [target_requestExistence]
      exact hask.recorded
    · rw [target_requestExistence]
      exact hask.before

variable [ReapableTarget τ]

lemma tryReap (h : c.Tidy) : c.tryReap.Tidy := by
  cases he : c.exit with
  | some e =>
    rw [tryReap_of_ended (by simp [he])]
    exact h
  | none =>
    rw [tryReap_of_unknown he]
    refine h.record he ?_ rfl
    rw [ReapableTarget.exit?_pollExit]
    exact ReapableTarget.pollExit_fst c.target.inner

/-- The wait that gets the end of the target records it, also at its limit. -/
lemma waitUntil (h : c.Tidy) (m : Instant) : (c.waitUntil m).Tidy := by
  cases he : c.exit with
  | some e =>
    rw [waitUntil_of_ended (by simp [he])]
    exact h
  | none =>
    rw [waitUntil_of_unknown he]
    exact h.record he (ReapableTarget.awaitExit_fst m c.target.inner) rfl

lemma waited (h : c.Tidy) (he : c.exit = none) (m : Instant) : (c.waited m).Tidy := by
  unfold Child.waited
  split
  · exact (h.asked he).waitUntil m
  · exact h.asked he

lemma forceKill (h : c.Tidy) (hk : c.forceKill = .ok c') : c'.Tidy := by
  obtain ⟨-, rfl⟩ := forceKill_eq_ok_iff.1 hk
  exact h.startKill.waitUntil _

lemma terminate {status : SessionStatus} (h : c.Tidy)
    (ht : c.terminate grace deadline = .ok (status, c')) : c'.Tidy := by
  cases terminate_way ht with
  | ended => exact h.tryReap
  | late _ _ hk => exact h.tryReap.forceKill hk
  | obeyed hc => exact h.tryReap.waited hc _
  | killed hc _ _ _ hk => exact (h.tryReap.waited hc _).forceKill hk

lemma perform {call : Call} {answer : Answer} (h : c.Tidy)
    (hc : c.perform call = .ok (answer, c')) : c'.Tidy := by
  cases call with
  | tryReap =>
    cases hc
    exact h.tryReap
  | waitUntil m =>
    cases hc
    exact h.waitUntil m
  | startKill =>
    cases hc
    exact h.startKill
  | closeInput =>
    cases hc
    exact h.closeInput
  | terminate grace deadline =>
    obtain ⟨⟨status, d⟩, hd, hpair⟩ := map_eq_ok_iff.1 hc
    cases hpair
    exact h.terminate hd
  | pass m =>
    cases hc
    exact ⟨h.recorded, h.before⟩

end Tidy

/-! ### Calls on a child whose end is known -/

/-- What a call answers when the end is known. -/
def Call.answerAfter (e : ExitInfo) : Call → Answer
  | .tryReap | .waitUntil _ => .exit (.ok (some e))
  | .startKill => .kill (.ok ())
  | .terminate _ _ => .status (.exitedBeforeSignal e)
  | _ => .nothing

/-- What a call does when the end is known: its input can be closed, and time can pass. -/
def Call.effectAfter (c : Child τ) : Call → Child τ
  | .closeInput => c.closeInput
  | .pass m => c.idle m
  | _ => c

section Known

variable {c : Child (Attended τ)} {e : ExitInfo}

lemma perform_of_known (he : c.exit = some e) (call : Call) :
    c.perform call = .ok (call.answerAfter e, call.effectAfter c) := by
  have hknown : c.exit.isSome := by rw [he]; rfl
  cases call with
  | tryReap =>
    rw [perform, lookForExit, if_pos hknown, he]
    rfl
  | waitUntil m =>
    rw [perform, awaitExit, if_pos hknown, he]
    rfl
  | startKill =>
    rw [perform, requestKill, if_pos hknown]
    rfl
  | terminate grace deadline =>
    have hlook : c.tryReap = c := tryReap_of_ended hknown
    rw [perform, terminate_of_ended (by rw [hlook, he]), hlook]
    rfl
  | closeInput | pass => rfl

/-- The input and the time are no part of what is known and sent. -/
lemma effectAfter_frame (c : Child (Attended τ)) (call : Call) :
    (call.effectAfter c).exit = c.exit ∧ (call.effectAfter c).target.sent = c.target.sent := by
  cases call with
  | closeInput =>
    unfold Call.effectAfter closeInput
    dsimp only
    split <;> exact ⟨rfl, rfl⟩
  | _ => exact ⟨rfl, rfl⟩

/-- However many calls are made, the record stays, they answer from it and nothing is sent. -/
lemma inOrder_of_known (he : c.exit = some e) (calls : List Call) : ∃ c',
    inOrder perform c calls = .ok (calls.map (Call.answerAfter e), c') ∧
      c'.exit = some e ∧ c'.target.sent = c.target.sent := by
  induction calls generalizing c with
  | nil => exact ⟨c, rfl, he, rfl⟩
  | cons call calls ih =>
    obtain ⟨hexit, hsent⟩ := effectAfter_frame c call
    obtain ⟨c', hcalls, hexit', hsent'⟩ := ih (hexit.trans he)
    exact ⟨c', inOrder_cons_eq_ok_iff.2 ⟨_, _, _, perform_of_known he call, hcalls, rfl⟩, hexit',
      hsent'.trans hsent⟩

end Known

/-! ### The end of a target -/

/-- **The end of a target is recorded when it is handed out, and from then on the target is left
alone.** Some calls are made on a child of a new target, which may do anything and to which signals
may be refused: a look, a wait, a kill, to close its input, a termination, in any order and number,
and with any time between them. On the child of an attended target the same calls answer the same.
When they are over, the end is known if and only if the system has handed it out, and each signal was
sent when it had not. An end that is not known and comes by the limit of a wait, the limit included,
is what the wait answers and records. Once the end is known, each call answers it at once, a
termination as that of a target that had ended before, and nothing is done to the target but that its
input may be closed; so it is through all later calls, none of which changes what is known or sends a
signal. -/
theorem end_recorded [ReapableTarget τ] (t : τ) (calls : List Call) {answers : List Answer}
    {d : Child τ} (h : inOrder perform { target := t } calls = .ok (answers, d)) :
    ∃ c : Child (Attended τ),
      inOrder perform { target := { inner := t } } calls = .ok (answers, c) ∧
      c.erase Attended.inner = d ∧
      c.target.handedOut = d.exit ∧ (∀ p ∈ c.target.sent, p.2 = none) ∧
      (∀ m e, d.exit = none → Target.exit? (InputStream.sleep m d.target) = some e → ∃ c',
        c.perform (.waitUntil m) = .ok (.exit (.ok (some e)), c') ∧ c'.exit = some e ∧
        c'.target.handedOut = some e) ∧
      (∀ e, d.exit = some e →
        (∀ call, c.perform call = .ok (call.answerAfter e, call.effectAfter c)) ∧
        ∀ later, ∃ c', inOrder perform c later = .ok (later.map (Call.answerAfter e), c') ∧
          c'.exit = some e ∧ c'.target.sent = c.target.sent) := by
  have hagree := inOrder_agree erase_perform ({ target := { inner := t } } : Child (Attended τ)) calls
  obtain ⟨⟨_, c⟩, hc, hpair⟩ := map_eq_ok_iff.1 (hagree.trans h)
  cases hpair
  have htidy : c.Tidy := inOrder_keeps (fun hk hcall => hk.perform hcall) hc (Tidy.start t)
  refine ⟨c, hc, rfl, htidy.recorded, htidy.before, fun m e he hm => ?_, fun e he => ?_⟩
  · have hunknown : c.exit = none := he
    have hexit : (c.waitUntil m).exit = some e := (exit_waitUntil hunknown).trans hm
    have hanswer : (c.awaitExit m).1 = .ok (some e) := by rw [awaitExit_fst, hexit]
    exact ⟨c.waitUntil m, congrArg Except.ok (Prod.ext (congrArg Answer.exit hanswer) rfl), hexit,
      (htidy.waitUntil m).recorded.trans hexit⟩
  · exact ⟨perform_of_known he, inOrder_of_known he⟩

/-- A target that ends at the very moment at which a wait for it is over, and one that cannot be
asked to end and dies two moments after it was killed, and what is made of them. -/
theorem end_recorded_at_limit :
    let t : ScriptedTarget := { ending := some (5, .exited 3) }
    let foreign : ScriptedTarget :=
      { refusal := some ⟨1, "EPERM: Operation not permitted"⟩, onKill := some 2 }
    (∃ d, inOrder perform { target := t } [.tryReap, .waitUntil 5] =
        .ok ([.exit (.ok none), .exit (.ok (some (.exited 3)))], d) ∧
      ∃ c c' : Child (Attended ScriptedTarget), c.erase Attended.inner = d ∧
        c.target.handedOut = some (.exited 3) ∧
        inOrder perform c [.startKill, .pass 7, .terminate (.ofSeconds 1) 9, .waitUntil 9] =
          .ok ([.kill (.ok ()), .nothing, .status (.exitedBeforeSignal (.exited 3)),
            .exit (.ok (some (.exited 3)))], c') ∧
        ∀ p ∈ c'.target.sent, p.2 = none) ∧
    ∃ d, inOrder perform { target := foreign } [.terminate (.ofSeconds 1) 9] =
        .ok ([.status .forceKilled], d) ∧
      ∃ c c' : Child (Attended ScriptedTarget), c.erase Attended.inner = d ∧
        c.target.handedOut = some (.killed Signal.kill) ∧
        inOrder perform c [.terminate (.ofSeconds 1) 9, .startKill] =
          .ok ([.status (.exitedBeforeSignal (.killed Signal.kill)), .kill (.ok ())], c') ∧
        ∀ p ∈ c'.target.sent, p.2 = none := by
  intro t foreign
  constructor
  · have h : inOrder perform { target := t } [.tryReap, .waitUntil 5] = .ok
      ([.exit (.ok none), .exit (.ok (some (.exited 3)))], _) := rfl
    obtain ⟨c, -, herase, hrecorded, hbefore, -, hknown⟩ := end_recorded t _ h
    obtain ⟨-, hlater⟩ := hknown _ rfl
    obtain ⟨c', hc', -, hsent⟩ := hlater _
    exact ⟨_, h, c, c', herase, hrecorded, hc', by rwa [hsent]⟩
  · -- it is not waited for before it is killed
    let c : Child ScriptedTarget := { target := foreign }
    let refused := c.tryReap.waited (c.tryReap.graceEnd (.ofSeconds 1) 9)
    have hkilled : c.terminate (.ofSeconds 1) 9 =
        .ok (.forceKilled, refused.startKill.waitUntil (refused.now + forceKillTimeout.nanos)) := by
      have hlook : c.tryReap.exit = none := by decide
      have hlt : c.now < 9 := by decide
      have hgrace : c.now + (Duration.ofSeconds 1).nanos < Clock.limit := by decide
      have hrunning : refused.exit = none := by decide
      have hkill : refused.now + forceKillTimeout.nanos < Clock.limit := by decide
      rw [terminate_of_early hlook hlt hgrace, conclude_of_running hrunning, forceKill_ok hkill]
      rfl
    have h : inOrder perform c [.terminate (.ofSeconds 1) 9] = .ok ([.status .forceKilled], _) :=
      inOrder_cons_eq_ok_iff.2
        ⟨_, _, [], congrArg (Prod.map Answer.status id <$> ·) hkilled, rfl, rfl⟩
    obtain ⟨c, -, herase, hrecorded, hbefore, -, hknown⟩ := end_recorded foreign _ h
    obtain ⟨-, hlater⟩ := hknown (.killed Signal.kill) (by decide)
    obtain ⟨c', hc', -, hsent⟩ := hlater _
    exact ⟨_, h, c, c', herase, hrecorded.trans (by decide), hc', by rwa [hsent]⟩

end GuestHarness.Child
