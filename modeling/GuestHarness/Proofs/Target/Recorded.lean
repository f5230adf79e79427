import GuestHarness.Proofs.Target.Erasure

/-!
Recorded targets. A recorded target is a target together with a log of everything that is done to
it: what it is offered, when it is flushed, when a signal is asked for, whether the system sends it
or not, and when its input is closed. To the session it is the target itself: it answers as the
target does and keeps its clock.
-/

namespace GuestHarness

/-- Something that is done to a stream or a target. A flush may take its time, so the moment of its
reply is noted with it. -/
inductive Deed where
  | offered (bs : Bytes) (reply : Reply Nat)
  | flushed (reply : Reply Unit) (replied : Instant)
  | signalled (n : Signal)
  | closedInput
deriving DecidableEq

namespace Deed

/-- The bytes that were accepted. -/
def accepted : Deed → Bytes
  | offered bs (.done n) => bs.take n
  | _ => []

/-- The signal that was asked for. -/
def signal? : Deed → Option Signal
  | signalled n => some n
  | _ => none

/-- The moment at which a flush succeeded. -/
def flushed? : Deed → Option Instant
  | flushed (.done ()) replied => some replied
  | _ => none

variable (bs : Bytes) (k : Nat) (e : IoError) (n : Signal)

@[simp] lemma accepted_done : (offered bs (.done k)).accepted = bs.take k := rfl
@[simp] lemma accepted_failed : (offered bs (.failed e)).accepted = [] := rfl
@[simp] lemma accepted_cut : (offered bs .cut).accepted = [] := rfl
@[simp] lemma accepted_signalled : (signalled n).accepted = [] := rfl
@[simp] lemma accepted_closedInput : closedInput.accepted = [] := rfl

@[simp] lemma signal?_signalled : (signalled n).signal? = some n := rfl
@[simp] lemma signal?_closedInput : closedInput.signal? = none := rfl

end Deed

/-- A stream or target, and what was done to it and when, oldest first. -/
structure Recorded (σ : Type) where
  inner : σ
  log : List (Instant × Deed) := []

namespace Recorded

variable {σ τ : Type}

/-- The bytes that were accepted, one after the other. -/
def accepted (r : Recorded σ) : Bytes := r.log.flatMap fun d => d.2.accepted

/-- The signals that were asked for and when. -/
def signals (r : Recorded σ) : List (Instant × Signal) :=
  r.log.filterMap fun d => d.2.signal?.map fun n => (d.1, n)

section Logs

variable {r s : Recorded σ} {more : List (Instant × Deed)} (h : s.log = r.log ++ more)
include h

lemma signals_of_log :
    s.signals = r.signals ++ more.filterMap fun d => d.2.signal?.map fun n => (d.1, n) := by
  rw [signals, h, List.filterMap_append]
  rfl

lemma accepted_of_log (hmore : ∀ d ∈ more, d.2.accepted = []) : s.accepted = r.accepted := by
  rw [accepted, h, List.flatMap_append, List.flatMap_eq_nil_iff.2 hmore, List.append_nil]
  rfl

end Logs

/-! ### Streams -/

section Streams

variable [InputStream σ]

/-- The record after a deed that was begun now and has left the stream as given. -/
def note (r : Recorded σ) (d : Deed) (s : σ) : Recorded σ :=
  ⟨s, r.log ++ [(InputStream.now r.inner, d)]⟩

instance : InputStream (Recorded σ) where
  now r := InputStream.now r.inner
  captured r := InputStream.captured r.inner
  write limit bs r :=
    let w := InputStream.write limit bs r.inner
    (w.1, r.note (.offered bs w.1) w.2)
  flush limit r :=
    let w := InputStream.flush limit r.inner
    (w.1, r.note (.flushed w.1 (InputStream.now w.2)) w.2)
  sleep moment r := { r with inner := InputStream.sleep moment r.inner }
  interruptions r := InputStream.interruptions r.inner
  interrupted_lt limit bs r e r' h hi := by
    simp only [Prod.mk.injEq] at h
    obtain ⟨h, rfl⟩ := h
    exact InputStream.interrupted_lt limit bs r.inner e _ (Prod.ext h rfl) hi

variable (r : Recorded σ) (d : Deed) (s : σ)

@[simp] lemma now_eq : InputStream.now r = InputStream.now r.inner := rfl

@[simp] lemma accepted_note : (r.note d s).accepted = r.accepted ++ d.accepted := by
  simp [accepted, note]

lemma write_of {r : Recorded σ} {limit : Option Instant} {bs : Bytes} {reply : Reply Nat} {s : σ}
    (h : InputStream.write limit bs r.inner = (reply, s)) :
    InputStream.write limit bs r = (reply, r.note (.offered bs reply) s) := by
  change ((InputStream.write limit bs r.inner).1, r.note (.offered bs (InputStream.write _ _ _).1)
    (InputStream.write limit bs r.inner).2) = _
  rw [h]

lemma accepted_of_write {limit : Option Instant} {bs : Bytes} {r r' : Recorded σ}
    {reply : Reply Nat} (h : InputStream.write limit bs r = (reply, r')) :
    r'.accepted = r.accepted ++ (Deed.offered bs reply).accepted := by
  cases h
  exact accepted_note r _ _

lemma flush_of {r : Recorded σ} {limit : Option Instant} {reply : Reply Unit} {s : σ}
    (h : InputStream.flush limit r.inner = (reply, s)) :
    InputStream.flush limit r = (reply, r.note (.flushed reply (InputStream.now s)) s) := by
  change ((InputStream.flush limit r.inner).1, r.note (.flushed (InputStream.flush _ _).1
    (InputStream.now (InputStream.flush _ _).2)) (InputStream.flush limit r.inner).2) = _
  rw [h]

lemma accepted_flush (r : Recorded σ) (limit : Option Instant) :
    (InputStream.flush limit r).2.accepted = r.accepted :=
  (accepted_note r _ _).trans (List.append_nil _)

lemma isErasure_stream : InputStream.IsErasure (inner (σ := σ)) where
  now _ := rfl
  captured _ := rfl
  write _ _ _ := rfl
  flush _ _ := rfl
  sleep _ _ := rfl

instance [TimedInput σ] : TimedInput (Recorded σ) := isErasure_stream.timedInput

end Streams

/-! ### Targets -/

section Targets

variable [Target τ]

/-- The record when a signal was asked for, or when only was asked whether it would go out. -/
def noteSignal (r : Recorded τ) (k : Option Signal) (t : τ) : Recorded τ :=
  match k with
  | some n => r.note (.signalled n) t
  | none => { r with inner := t }

instance : Target (Recorded τ) where
  pid r := Target.pid r.inner
  exit? r := Target.exit? r.inner
  pollExit r :=
    let w := Target.pollExit r.inner
    (w.1, { r with inner := w.2 })
  awaitExit moment r :=
    let w := Target.awaitExit moment r.inner
    (w.1, { r with inner := w.2 })
  signal n k r :=
    let w := (Target.signal n k).run r.inner
    (w.1, r.noteSignal k w.2)
  kill r :=
    let w := Target.kill r.inner
    (w.1, r.note (.signalled Signal.kill) w.2)
  closeInput r := r.note .closedInput (Target.closeInput r.inner)
  traces r := Target.traces r.inner
  stopReading r := { r with inner := Target.stopReading r.inner }
  files r := Target.files r.inner

variable (r : Recorded τ) (m : Instant)

@[simp] lemma log_pollExit : (Target.pollExit r).2.log = r.log := rfl

@[simp] lemma log_awaitExit : (Target.awaitExit m r).2.log = r.log := rfl

lemma isErasure_inner : Target.IsErasure (inner (σ := τ)) where
  toIsErasure := isErasure_stream
  pid _ := rfl
  exit? _ := rfl
  pollExit _ := rfl
  awaitExit _ _ := rfl
  signal _ k _ := by cases k <;> rfl
  kill _ := rfl
  closeInput _ := rfl

instance [TimedTarget τ] : TimedTarget (Recorded τ) := isErasure_inner.timedTarget

instance [ReapableTarget τ] : ReapableTarget (Recorded τ) := isErasure_inner.reapableTarget

end Targets

end Recorded
end GuestHarness
