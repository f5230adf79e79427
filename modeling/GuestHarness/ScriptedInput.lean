import GuestHarness.Output.Buffer
import GuestHarness.Sequencer

/-!
An input stream whose replies are given in advance. When they are used up it takes whatever it is
offered.
-/

namespace GuestHarness

/-- What a stream does with a write: it takes all or at most so many bytes, fails, or first takes
some time over the next call. -/
inductive WriteReply where
  | acceptAll
  | accept (most : Nat)
  | fail (error : IoError)
  | wait (nanos : Nat)
deriving DecidableEq

/-- A stream that follows given replies: its clock, the replies to writes and flushes that are
left, the moment at which a write that was dropped will reply, the time that each flush takes, the
captured output and what is still to come of it, and a record of what was accepted and how often it
was flushed. -/
structure ScriptedInput where
  now : Instant := 0
  replies : List WriteReply := []
  flushReplies : List (Option IoError) := []
  begun : Option Instant := none
  flushTimes : List Nat := []
  buffer : OutputBuffer := {}
  arrivals : List (Instant × Bytes) := []
  accepted : List (Instant × Bytes) := []
  flushes : Nat := 0

namespace ScriptedInput

/-- Takes the waits off the front of the replies and adds them to the moment. -/
def afterWaits : Instant → List WriteReply → Instant × List WriteReply
  | t, .wait nanos :: rest => afterWaits (t + nanos) rest
  | t, replies => (t, replies)

theorem afterWaits_length_le (t : Instant) (rs : List WriteReply) :
    (afterWaits t rs).2.length ≤ rs.length := by
  induction rs generalizing t with
  | nil => simp [afterWaits]
  | cons r rest ih =>
    cases r with
    | wait nanos => exact Nat.le_succ_of_le (ih (t + nanos))
    | _ => simp [afterWaits]

/-- Lets time pass until a moment; output arrives meanwhile. -/
def advance (s : ScriptedInput) (moment : Instant) : ScriptedInput :=
  let now := max s.now moment
  let arrived := s.arrivals.filter (·.1 ≤ now)
  { s with
    now := now
    arrivals := s.arrivals.filter (now < ·.1)
    buffer := arrived.foldl (fun b a => b.append a.2) s.buffer }

/-- The stream takes bytes. -/
def take (s : ScriptedInput) (bs : Bytes) : ScriptedInput :=
  { s with accepted := s.accepted ++ [(s.now, bs)] }

/-- The moment at which the next call replies, and the replies from then on. -/
def ready (s : ScriptedInput) : Instant × List WriteReply :=
  match s.begun with
  | some moment => (max s.now moment, s.replies)
  | none => afterWaits s.now s.replies

/-- Replies to a write with the next of the replies. -/
def reply (bs : Bytes) (s : ScriptedInput) : Reply Nat × ScriptedInput :=
  match s.replies with
  | .accept most :: rest =>
    (.done (min most bs.length), { s with replies := rest }.take (bs.take most))
  | .fail e :: rest => (.failed e, { s with replies := rest })
  | _ :: rest => (.done bs.length, { s with replies := rest }.take bs)
  | [] => (.done bs.length, s.take bs)

/-- The stream at the moment at which it replies. -/
def begin (s : ScriptedInput) : ScriptedInput :=
  { s.advance s.ready.1 with replies := s.ready.2, begun := none }

/-- The stream at the moment at which a call is dropped. -/
def suspend (s : ScriptedInput) (moment : Instant) : ScriptedInput :=
  { s.advance moment with replies := s.ready.2, begun := some s.ready.1 }

/-- One write call, which may be dropped at a moment. -/
def write (limit : Option Instant) (bs : Bytes) (s : ScriptedInput) : Reply Nat × ScriptedInput :=
  if limit.any (· < s.ready.1) then (.cut, s.suspend (limit.getD 0)) else reply bs s.begin

/-- The moment at which a flush that is called now replies. -/
def flushEnd (s : ScriptedInput) : Instant := s.now + s.flushTimes.headD 0

/-- Replies to a flush with the next of the replies. -/
def replyToFlush (s : ScriptedInput) : Reply Unit × ScriptedInput :=
  match s.flushReplies with
  | some e :: rest => (.failed e, { s with flushReplies := rest })
  | none :: rest => (.done (), { s with flushReplies := rest })
  | [] => (.done (), s)

/-- One flush call, which may be dropped at a moment. What is left of its time is taken by the next
one. -/
def flush (limit : Option Instant) (s : ScriptedInput) : Reply Unit × ScriptedInput :=
  if limit.any (· < s.flushEnd) then
    let s' := s.advance (limit.getD 0)
    (.cut, { s' with flushTimes := (s.flushEnd - s'.now) :: s.flushTimes.drop 1 })
  else
    replyToFlush { s.advance s.flushEnd with
      flushTimes := s.flushTimes.drop 1, flushes := s.flushes + 1 }

theorem reply_failed {bs : Bytes} {s s' : ScriptedInput} {e : IoError}
    (h : reply bs s = (.failed e, s')) : s'.replies.length < s.replies.length := by
  unfold reply at h
  split at h <;> simp_all [take]
  obtain ⟨_, rfl⟩ := h
  simp

theorem ready_length_le (s : ScriptedInput) : s.ready.2.length ≤ s.replies.length := by
  unfold ready
  split
  · exact Nat.le_refl _
  · exact afterWaits_length_le _ _

theorem write_failed {limit : Option Instant} {bs : Bytes} {s s' : ScriptedInput} {e : IoError}
    (h : write limit bs s = (.failed e, s')) : s'.replies.length < s.replies.length := by
  unfold write at h
  split at h
  · simp at h
  · exact Nat.lt_of_lt_of_le (reply_failed h) (ready_length_le s)

instance : InputStream ScriptedInput where
  now s := s.now
  captured s := s.buffer.data
  write := write
  flush := flush
  sleep moment s := s.advance moment
  interruptions s := s.replies.length
  interrupted_lt _ _ _ _ _ h _ := write_failed h

end ScriptedInput
end GuestHarness
