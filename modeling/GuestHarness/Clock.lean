import GuestHarness.Duration

/-!
The monotonic clock. It counts nanoseconds from some moment in the past and cannot show moments
beyond its range: a deadline that lies there cannot be set.
-/

namespace GuestHarness

/-- A moment on the clock, in nanoseconds. -/
abbrev Instant := Nat

namespace Clock

/-- The first moment that the clock cannot show. -/
def limit : Instant := 0x8000000000000000 * 1000000000

/-- A deadline beyond the range of the clock. -/
inductive Overflow where
  | overflow
deriving DecidableEq, Repr

/-- The moment that comes so much later. -/
def deadline (now : Instant) (d : Duration) : Except Overflow Instant :=
  if now + d.nanos < limit then .ok (now + d.nanos) else .error .overflow

/-- Thirty years: the length of a sleep whose end the clock cannot show. -/
def farFuture : Nat := 86400 * 365 * 30 * 1000000000

/-- The moment at which a sleep ends. -/
def wake (now : Instant) (d : Duration) : Instant :=
  if now + d.nanos < limit then now + d.nanos else now + farFuture

/-- The time from one moment to another. -/
def elapsed (start now : Instant) : Duration := Duration.ofParts ((now - start) / 1000000000)
  ((now - start) % 1000000000)

end Clock

/-- So many milliseconds in nanoseconds. -/
def milliseconds (n : Nat) : Nat := n * 1000000

end GuestHarness
