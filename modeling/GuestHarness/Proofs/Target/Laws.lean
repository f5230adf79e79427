import GuestHarness.Target

/-!
What is taken for granted of the world in which a session runs: its clock moves only while
somebody waits, and a wait that has a limit is over at its limit. Nothing is assumed of what a
target does: it may read its input or not, say anything or nothing, and end at any time, for any
reason or never. Nor need the system do what it is asked for: it may refuse signals and fail to
wait. That it does wait and tells the truth about the end of a target is a law of its own.
-/

namespace GuestHarness

open InputStream Target

/-! ### Streams -/

/-- The clock of a call on a stream. The call takes time only up to the moment at which it is
dropped, and it is dropped at that moment and not before. -/
structure TimedCall {σ α : Type} [InputStream σ] (call : Option Instant → σ → Reply α × σ) :
    Prop where
  le_now (limit : Option Instant) (s : σ) : now s ≤ now (call limit s).2
  now_le (m : Instant) (s : σ) : now (call (some m) s).2 ≤ max (now s) m
  le_now_of_cut (m : Instant) (s : σ) : (call (some m) s).1 = .cut → m ≤ now (call (some m) s).2

/-- The clock of a stream, which may take its time over writes and flushes. -/
class TimedInput (σ : Type) [InputStream σ] : Prop where
  write (bs : Bytes) : TimedCall fun limit (s : σ) => InputStream.write limit bs s
  flush : TimedCall fun limit (s : σ) => InputStream.flush limit s
  now_sleep (m : Instant) (s : σ) : now (sleep m s) = max (now s) m

/-! ### Targets -/

/-- The clock of a target. The system answers at once, whatever it answers, and so does the target
when its input is closed. To wait for the end takes time, up to the limit at most; the wait may be
over at any moment before, without an end and with an error. -/
class TimedTarget (τ : Type) [Target τ] : Prop extends TimedInput τ where
  now_pollExit (t : τ) : now (pollExit t).2 = now t
  le_now_awaitExit (m : Instant) (t : τ) : now t ≤ now (awaitExit m t).2
  now_awaitExit_le (m : Instant) (t : τ) : now (awaitExit m t).2 ≤ max (now t) m
  now_signal (n : Int) (s : Option Signal) (t : τ) : now ((signal n s).run t).2 = now t
  now_kill (t : τ) : now (kill t).2 = now t
  now_closeInput (t : τ) : now (closeInput t) = now t

/-- A target whose end the system tells whoever asks or waits for it. A look does not touch the end.
A wait finds what anybody would find at its limit, and it lasts until then if it finds no end. -/
class ReapableTarget (τ : Type) [Target τ] : Prop extends TimedTarget τ where
  pollExit_fst (t : τ) : (pollExit t).1 = .ok (exit? t)
  exit?_pollExit (t : τ) : exit? (pollExit t).2 = exit? t
  awaitExit_fst (m : Instant) (t : τ) : (awaitExit m t).1 = .ok (exit? (awaitExit m t).2)
  exit?_awaitExit (m : Instant) (t : τ) : exit? (awaitExit m t).2 = exit? (sleep m t)
  le_now_of_running (m : Instant) (t : τ) :
    exit? (awaitExit m t).2 = none → m ≤ now (awaitExit m t).2

end GuestHarness
