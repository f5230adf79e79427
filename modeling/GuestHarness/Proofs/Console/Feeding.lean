import GuestHarness.Console
import Mathlib.Tactic.Common

/-!
Input in pieces. A console takes its input byte by byte, and what it remembers between two bytes is
all in its state; so input that comes in chunks is taken as if it came at once, also where a chunk
ends the emulator and those behind it are not taken any more.
-/

namespace GuestHarness.Console

/-- Takes chunks one after the other until one of them ends the emulator. -/
def feedAll (c : Console) : List Bytes → Console × List Event
  | [] => (c, [])
  | chunk :: rest =>
    let (c, es) := c.feed chunk
    if hasQuit es then (c, es)
    else
      let (c, es') := c.feedAll rest
      (c, es ++ es')

variable {c c' : Console} {b : UInt8} {bs : Bytes}

/-! ### Single bytes -/

lemma feed_cons_none (h : c.take b = (c', none)) : c.feed (b :: bs) = c'.feed bs := by
  rw [feed, h]

lemma feed_cons_some {e : Event} (h : c.take b = (c', some e)) :
    c.feed (b :: bs) = if e.quits then (c', [e]) else ((c'.feed bs).1, e :: (c'.feed bs).2) := by
  rw [feed, h]

/-! ### Chunks -/

lemma hasQuit_cons (e : Event) (es : List Event) : hasQuit (e :: es) = (e.quits || hasQuit es) :=
  List.any_cons

/-- Bytes behind those that end the emulator are not taken. -/
lemma feed_append (c : Console) (xs ys : Bytes) :
    c.feed (xs ++ ys) = if hasQuit (c.feed xs).2 then c.feed xs
      else (((c.feed xs).1.feed ys).1, (c.feed xs).2 ++ ((c.feed xs).1.feed ys).2) := by
  induction xs generalizing c with
  | nil => rfl
  | cons b xs ih =>
    rw [List.cons_append]
    obtain ⟨⟨c', e⟩, ht⟩ : ∃ r, c.take b = r := ⟨_, rfl⟩
    cases e with
    | none => rw [feed_cons_none ht, feed_cons_none ht, ih]
    | some e =>
      rw [feed_cons_some ht, feed_cons_some ht]
      cases hq : e.quits with
      | true => simp [hasQuit, hq]
      | false =>
        simp only [Bool.false_eq_true, if_false, hasQuit_cons, hq, Bool.false_or, ih]
        split <;> rfl

/-- **It does not matter in what pieces input comes.** -/
theorem feedAll_eq_feed (c : Console) (chunks : List Bytes) :
    c.feedAll chunks = c.feed chunks.flatten := by
  induction chunks generalizing c with
  | nil => rfl
  | cons chunk rest ih =>
    rw [List.flatten_cons, feed_append, feedAll]
    dsimp only
    rw [ih]

end GuestHarness.Console
