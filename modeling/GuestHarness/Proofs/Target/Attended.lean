import GuestHarness.Proofs.Target.Erasure

/-!
Targets whose end is handed out. The system keeps the end of a target, and with it the number of the
target, until somebody asks for the end; it hands the end out to him and to nobody after him, and
from then on the number may belong to another target. An attended target knows whether its end was
handed out, and of each signal, which is sent to a number, whether this had happened by then.
-/

namespace GuestHarness

/-- A target, its end if this was handed out, and the signals that were sent to its number, oldest
first, each with the end that had been handed out by then. -/
structure Attended (τ : Type) where
  inner : τ
  handedOut : Option ExitInfo := none
  sent : List (Signal × Option ExitInfo) := []

namespace Attended

variable {τ : Type} [Target τ]

/-- The target, left as given, when somebody has asked for its end: if it has come, he has got it. -/
def handOut (t : Attended τ) (inner : τ) : Attended τ :=
  { t with inner := inner, handedOut := t.handedOut.or (Target.exit? inner) }

/-- The target, left as given, when a signal was sent to its number. -/
def send (t : Attended τ) (n : Signal) (inner : τ) : Attended τ :=
  { t with inner := inner, sent := t.sent ++ [(n, t.handedOut)] }

instance : InputStream (Attended τ) where
  now t := InputStream.now t.inner
  captured t := InputStream.captured t.inner
  write limit bs t :=
    let w := InputStream.write limit bs t.inner
    (w.1, { t with inner := w.2 })
  flush limit t :=
    let w := InputStream.flush limit t.inner
    (w.1, { t with inner := w.2 })
  sleep moment t := { t with inner := InputStream.sleep moment t.inner }
  interruptions t := InputStream.interruptions t.inner
  interrupted_lt limit bs t e t' h hi := by
    simp only [Prod.mk.injEq] at h
    obtain ⟨h, rfl⟩ := h
    exact InputStream.interrupted_lt limit bs t.inner e _ (Prod.ext h rfl) hi

/-- To look for the end and to wait for it is to ask for it, and to ask whether a signal would go
out is to send none. -/
instance : Target (Attended τ) where
  pid t := Target.pid t.inner
  exit? t := Target.exit? t.inner
  pollExit t :=
    let w := Target.pollExit t.inner
    (w.1, t.handOut w.2)
  awaitExit moment t :=
    let w := Target.awaitExit moment t.inner
    (w.1, t.handOut w.2)
  signal n k t :=
    let w := (Target.signal n k).run t.inner
    (w.1, match k with
      | some s => t.send s w.2
      | none => { t with inner := w.2 })
  kill t :=
    let w := Target.kill t.inner
    (w.1, t.send Signal.kill w.2)
  closeInput t := { t with inner := Target.closeInput t.inner }
  traces t := Target.traces t.inner
  stopReading t := { t with inner := Target.stopReading t.inner }
  files t := Target.files t.inner

lemma isErasure_inner : Target.IsErasure (inner (τ := τ)) where
  now _ := rfl
  captured _ := rfl
  write _ _ _ := rfl
  flush _ _ := rfl
  sleep _ _ := rfl
  pid _ := rfl
  exit? _ := rfl
  pollExit _ := rfl
  awaitExit _ _ := rfl
  signal _ k _ := by cases k <;> rfl
  kill _ := rfl
  closeInput _ := rfl

instance [TimedTarget τ] : TimedTarget (Attended τ) := isErasure_inner.timedTarget

instance [ReapableTarget τ] : ReapableTarget (Attended τ) := isErasure_inner.reapableTarget

end Attended
end GuestHarness
