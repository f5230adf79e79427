import GuestHarness.Clock
import GuestHarness.Script

/-!
Running a script: the steps are written one after the other to an input stream, each in full and
followed by its delay. A run ends with its last step, with the first failure of the stream, or
when it is dropped at a given moment.
-/

namespace GuestHarness

/-! ### Input streams -/

/-- What a call on a stream comes to. It is cut if it has not returned by the moment at which the
run is dropped. -/
inductive Reply (α : Type) where
  | done (a : α)
  | failed (e : IoError)
  | cut
deriving DecidableEq

/-- A stream that is written to, together with the clock and the output captured meanwhile. A call
may be given the moment at which it is dropped. A stream can interrupt calls only so often. -/
class InputStream (σ : Type) where
  now : σ → Instant
  captured : σ → Bytes
  write : Option Instant → Bytes → σ → Reply Nat × σ
  flush : Option Instant → σ → Reply Unit × σ
  sleep : Instant → σ → σ
  interruptions : σ → Nat
  interrupted_lt : ∀ limit bs s e s', write limit bs s = (.failed e, s') → e.isInterrupted →
    interruptions s' < interruptions s

namespace Sequencer

variable {σ : Type} [InputStream σ]

/-! ### One step -/

/-- Writes all of a payload and flushes it. An interrupted write is made again; one that accepts
nothing is a failure. -/
def writePayload (limit : Option Instant) (payload : Bytes) (s : σ) : Reply Unit × σ :=
  if payload = [] then InputStream.flush limit s
  else
    match _ : InputStream.write limit payload s with
    | (.done 0, s') => (.failed (.custom .writeZero "input stream accepted no bytes"), s')
    | (.done (n + 1), s') => writePayload limit (payload.drop (n + 1)) s'
    | (.failed e, s') =>
      if _ : e.isInterrupted then writePayload limit payload s' else (.failed e, s')
    | (.cut, s') => (.cut, s')
termination_by (payload.length, InputStream.interruptions s)
decreasing_by
  · apply Prod.Lex.left
    cases payload with
    | nil => contradiction
    | cons a rest => simp only [List.length_drop, List.length_cons]; omega
  · apply Prod.Lex.right
    exact InputStream.interrupted_lt _ _ _ _ _ (by assumption) (by assumption)

/-- Lets the delay of a step pass. -/
def settle (limit : Option Instant) (d : Duration) (s : σ) : Reply Unit × σ :=
  if d.nanos = 0 then (.done (), s)
  else
    let wake := Clock.wake (InputStream.now s) d
    match limit with
    | some moment =>
      if moment < wake then (.cut, InputStream.sleep moment s)
      else (.done (), InputStream.sleep wake s)
    | none => (.done (), InputStream.sleep wake s)

/-! ### A run -/

/-- How a run ended: with all its steps, with a failure at one of them, or before its end. -/
inductive Outcome where
  | ok (steps : Nat)
  | failed (step : Nat) (error : IoError) (captured : Bytes)
  | cut
deriving DecidableEq

/-- A failed run as an error of the harness. -/
def Outcome.toResult : Outcome → Option (Except HarnessError Nat)
  | ok steps => some (.ok steps)
  | failed step error captured => some (.error (.commandWrite step error.message captured))
  | cut => none

/-- Runs the steps from the given one on. The number of completed steps is known beforehand and
is set after each step. -/
def runFrom (limit : Option Instant) :
    Nat → Nat → List CommandStep → σ → Outcome × Nat × σ
  | _, completed, [], s => (.ok completed, completed, s)
  | index, completed, step :: rest, s =>
    let written := if step.isPause then (.done (), s) else writePayload limit step.payload s
    match written with
    | (.failed e, s) => (.failed index e (InputStream.captured s), completed, s)
    | (.cut, s) => (.cut, completed, s)
    | (.done (), s) =>
      match settle limit step.settle s with
      | (.done (), s) => runFrom limit (index + 1) (index + 1) rest s
      | (_, s) => (.cut, completed, s)

end Sequencer

/-- Runs scripts and counts the completed steps of the last run that completed any. -/
structure Sequencer where
  completed : Nat := 0
deriving DecidableEq

namespace Sequencer

variable {σ : Type} [InputStream σ]

/-- Runs a script; the run is dropped at the given moment, if any. -/
def run (q : Sequencer) (limit : Option Instant) (steps : List CommandStep) (s : σ) :
    Outcome × Sequencer × σ :=
  let (outcome, completed, s) := runFrom limit 0 q.completed steps s
  (outcome, ⟨completed⟩, s)

end Sequencer
end GuestHarness
