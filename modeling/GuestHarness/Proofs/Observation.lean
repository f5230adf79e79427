import GuestHarness.Proofs.Sequencing
import GuestHarness.Proofs.Termination

/-!
To observe a stream or a target changes nothing. What is observed is a stream or target with notes,
and the map that erases the notes respects all calls. So whatever a run on an observed stream or a
child of an observed target comes to, a run on the stream or a child of the target comes to the
same.
-/

namespace GuestHarness

/-! ### Streams -/

namespace Sequencer

variable {σ τ : Type} [InputStream σ] [InputStream τ] {f : σ → τ} (hf : InputStream.IsErasure f)
include hf

lemma erase_writePayload (limit : Option Instant) (payload : Bytes) (s : σ) :
    Prod.map id f (writePayload limit payload s) = writePayload limit payload (f s) := by
  have hwrite : ∀ {payload : Bytes} {s s' : σ} {reply : Reply Nat},
      InputStream.write limit payload s = (reply, s') →
      InputStream.write limit payload (f s) = (reply, f s') := fun h => by
    rw [← hf.write, h]
    rfl
  fun_induction writePayload limit payload s with
  | case1 s => rw [writePayload, if_pos rfl, hf.flush]
  | case2 payload s hp s' hw | case5 payload s hp _ s' hw _ | case6 payload s hp s' hw =>
    rw [writePayload, if_neg hp]
    split <;> simp_all [hwrite hw]
  | case3 payload s hp _ s' hw ih | case4 payload s hp _ s' hw _ ih =>
    rw [ih]
    conv_rhs => rw [writePayload, if_neg hp]
    split <;> simp_all [hwrite hw]

lemma erase_send (limit : Option Instant) (step : CommandStep) (s : σ) :
    Prod.map id f (send limit step s) = send limit step (f s) := by
  unfold send
  split
  · rfl
  · exact erase_writePayload hf limit step.payload s

lemma erase_settle (limit : Option Instant) (d : Duration) (s : σ) :
    Prod.map id f (settle limit d s) = settle limit d (f s) := by
  unfold settle
  split
  · rfl
  · cases limit with
    | none => simp [hf.now, hf.sleep]
    | some l =>
      dsimp only
      rw [hf.now]
      split <;> simp [hf.sleep]

lemma erase_runFrom (limit : Option Instant) (steps : List CommandStep) :
    ∀ (index completed : Nat) (s : σ),
      Prod.map id (Prod.map id f) (runFrom limit index completed steps s) =
        runFrom limit index completed steps (f s) := by
  induction steps with
  | nil => exact fun _ _ _ => rfl
  | cons step rest ih =>
    intro index completed s
    rw [runFrom_cons, runFrom_cons, ← erase_send hf]
    obtain ⟨reply, s'⟩ := send limit step s
    cases reply with
    | failed e => simp [hf.captured]
    | cut => rfl
    | done _ =>
      dsimp only [Prod.map, id]
      rw [← erase_settle hf]
      obtain ⟨reply, s''⟩ := settle limit step.settle s'
      cases reply with
      | failed e => rfl
      | cut => rfl
      | done _ => exact ih _ _ s''

/-- **To observe a stream does not change what a script comes to.** -/
theorem erase_run (q : Sequencer) (limit : Option Instant) (steps : List CommandStep) (s : σ) :
    Prod.map id (Prod.map id f) (q.run limit steps s) = q.run limit steps (f s) := by
  unfold run
  rw [← erase_runFrom hf]
  rfl

end Sequencer

/-! ### Targets -/

variable {σ τ : Type} [Target σ] [Target τ] {f : σ → τ} (hf : Target.IsErasure f)
include hf

lemma erase_requestEnd (pid : UInt32) (s : σ) :
    Prod.map id f ((requestEnd Target.signal pid).run s) =
      (requestEnd Target.signal pid).run (f s) := by
  rw [run_requestEnd, run_requestEnd, ← hf.signal]
  rfl

lemma erase_requestExistence (pid : UInt32) (s : σ) :
    Prod.map id f ((requestExistence Target.signal pid).run s) =
      (requestExistence Target.signal pid).run (f s) := by
  rw [run_requestExistence, run_requestExistence, ← hf.signal]
  rfl

namespace Child

/-- The child of the target without the notes. -/
def erase (f : σ → τ) (c : Child σ) : Child τ := ⟨f c.target, c.exit, c.inputOpen⟩

variable (c : Child σ)

lemma now_erase : (c.erase f).now = c.now := hf.now c.target

/-! ### Single calls -/

omit hf [Target σ] [Target τ] in
lemma erase_record (x : Except IoError (Option ExitInfo) × σ) :
    Prod.map id (erase f) (c.record x) = (c.erase f).record (Prod.map id f x) := by
  obtain ⟨_ | _, _⟩ := x <;> rfl

lemma erase_lookForExit :
    Prod.map id (erase f) c.lookForExit = (c.erase f).lookForExit := by
  unfold lookForExit
  split
  · next h => rw [if_pos (show (c.erase f).exit.isSome from h)]; rfl
  · next h =>
    rw [if_neg (show ¬ (c.erase f).exit.isSome from h), erase_record, hf.pollExit]
    rfl

lemma erase_awaitExit (m : Instant) :
    Prod.map id (erase f) (c.awaitExit m) = (c.erase f).awaitExit m := by
  unfold awaitExit
  split
  · next h => rw [if_pos (show (c.erase f).exit.isSome from h)]; rfl
  · next h =>
    rw [if_neg (show ¬ (c.erase f).exit.isSome from h), erase_record, hf.awaitExit]
    rfl

lemma erase_requestKill :
    Prod.map id (erase f) c.requestKill = (c.erase f).requestKill := by
  unfold requestKill
  split
  · next h => rw [if_pos (show (c.erase f).exit.isSome from h)]; rfl
  · next h =>
    rw [if_neg (show ¬ (c.erase f).exit.isSome from h)]
    dsimp only [erase]
    rw [← hf.kill, hf.pid]
    rfl

lemma erase_requestEnd :
    Prod.map id (erase f) c.requestEnd = (c.erase f).requestEnd := by
  unfold requestEnd
  dsimp only [erase]
  rw [hf.pid, ← GuestHarness.erase_requestEnd hf]
  rfl

lemma erase_requestExistence :
    Prod.map id (erase f) c.requestExistence = (c.erase f).requestExistence := by
  unfold requestExistence
  dsimp only [erase]
  rw [hf.pid, ← GuestHarness.erase_requestExistence hf]
  rfl

lemma erase_tryReap : c.tryReap.erase f = (c.erase f).tryReap :=
  congrArg Prod.snd (erase_lookForExit hf c)

lemma erase_waitUntil (m : Instant) : (c.waitUntil m).erase f = (c.erase f).waitUntil m :=
  congrArg Prod.snd (erase_awaitExit hf c m)

lemma erase_startKill : c.startKill.erase f = (c.erase f).startKill :=
  congrArg Prod.snd (erase_requestKill hf c)

lemma erase_closeInput : c.closeInput.erase f = (c.erase f).closeInput := by
  unfold closeInput
  split <;> simp_all [erase, hf.closeInput]

/-! ### Termination -/

lemma erase_forceKill : erase f <$> c.forceKill = (c.erase f).forceKill := by
  unfold forceKill
  dsimp only
  rw [← erase_startKill hf, now_erase hf, map_bind]
  exact bind_congr fun m => congrArg Except.ok (erase_waitUntil hf c.startKill m)

lemma erase_forceKill_with (status : SessionStatus) :
    Prod.map id (erase f) <$> (status, ·) <$> c.forceKill =
      (status, ·) <$> (c.erase f).forceKill := by
  rw [← erase_forceKill hf, Functor.map_map, Functor.map_map]
  rfl

lemma erase_signalEnd : Prod.map id (erase f) c.signalEnd = (c.erase f).signalEnd := by
  unfold signalEnd
  rw [← erase_requestEnd hf]
  obtain ⟨reply, d⟩ := c.requestEnd
  cases reply with
  | ok reached => rfl
  | error e =>
    dsimp only [Prod.map, id]
    rw [← erase_requestExistence hf]
    rfl

lemma erase_asked : c.asked.erase f = (c.erase f).asked := by
  rw [asked, asked, erase_closeInput hf, ← erase_signalEnd hf]
  rfl

lemma erase_waited (m : Instant) : (c.waited m).erase f = (c.erase f).waited m := by
  have htaken : (c.erase f).signalEnd.1 = c.signalEnd.1 := by
    rw [← erase_signalEnd hf]
    rfl
  unfold waited
  rw [htaken, ← erase_asked hf]
  split
  · exact erase_waitUntil hf c.asked m
  · rfl

lemma erase_conclude (deadline : Instant) :
    Prod.map id (erase f) <$> c.conclude deadline = (c.erase f).conclude deadline := by
  cases he : c.exit with
  | some e =>
    rw [conclude_of_ended he, conclude_of_ended (show (c.erase f).exit = some e from he)]
    rfl
  | none =>
    rw [conclude_of_running he, conclude_of_running (show (c.erase f).exit = none from he),
      now_erase hf]
    exact erase_forceKill_with hf c _

/-- **To observe a target does not change how it is brought to its end.** -/
theorem erase_terminate (grace : Duration) (deadline : Instant) :
    Prod.map id (erase f) <$> c.terminate grace deadline =
      (c.erase f).terminate grace deadline := by
  have hlook : (c.erase f).tryReap = c.tryReap.erase f := (erase_tryReap hf c).symm
  have hnow : (c.erase f).tryReap.now = c.tryReap.now := by rw [hlook, now_erase hf]
  cases hr : c.tryReap.exit with
  | some e =>
    have hr' : (c.erase f).tryReap.exit = some e := by rw [hlook]; exact hr
    rw [terminate_of_ended hr, terminate_of_ended hr', hlook]
    rfl
  | none =>
    have hr' : (c.erase f).tryReap.exit = none := by rw [hlook]; exact hr
    by_cases hd : deadline ≤ c.tryReap.now
    · rw [terminate_of_late hr hd, terminate_of_late hr' (by rwa [hnow]), hlook,
        erase_forceKill_with hf]
    · rw [terminate_of_running hr hd, terminate_of_running hr' (by rwa [hnow]), hlook,
        ← erase_asked hf, now_erase hf, map_bind]
      refine bind_congr fun m => ?_
      rw [erase_conclude hf, erase_waited hf]

end Child
end GuestHarness
