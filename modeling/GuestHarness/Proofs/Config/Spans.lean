import GuestHarness.Proofs.Config.RoundTrip

/-!
Spans of time that are written and read again. Every span has a text, but not every text of a span is
one that is read as this span: what is finer than a millisecond is not written if there is a fraction
of a second, and then the milliseconds are read in 64 bits only. The spans that come from a text are
within both bounds.
-/

namespace GuestHarness.Duration

open Yaml

variable {d : Duration}

/-- What the text of a span is read as: the span in whole milliseconds, unless it has a fraction of a
second and too many milliseconds. -/
def readBack (d : Duration) : Except String Duration :=
  if d.subNanos = 0 ∨ d.millis < 0x10000000000000000 then .ok d.wholeMillis
  else .error ("Invalid duration: " ++ d.toText)

lemma message_parse_toText (d : Duration) :
    (parse d.toText).mapError ParseError.message = d.readBack := by
  rw [parse_toText, readBack]
  split <;> rfl

/-- The place where a span is written is read as the text of the span is. -/
lemma read_eq_readBack {p : Place} (h : d.data.isAt p.node = true) :
    Duration.read p = d.readBack.mapError fun m => .problem none (.other m) := by
  rw [read_of_isAt h, ← message_parse_toText]
  cases parse d.toText <;> rfl

/-- **What is written for a span is read back in whole milliseconds**, be it as a text or at a place of
a document that holds the span, unless the span has a fraction of a second and 2^64 milliseconds or
more; then the text is no span for the reader. A span that was read from a text is read back
unchanged. -/
theorem read_written (d : Duration) :
    (parse d.toText).mapError ParseError.message = d.readBack ∧
      (∀ p : Place, d.data.isAt p.node = true →
        Duration.read p = d.readBack.mapError fun m => .problem none (.other m)) ∧
      ∀ s, parse s = .ok d → parse d.toText = .ok d ∧
        ∀ p : Place, d.data.isAt p.node = true → Duration.read p = .ok d := by
  refine ⟨message_parse_toText d, fun p hp => read_eq_readBack hp, fun s hs => ?_⟩
  have hwritten : d.IsWritten := ⟨s, hs⟩
  exact ⟨hwritten.parse_toText, reads_duration hwritten⟩

/-- A second and a half with a fraction of a millisecond, a minute that was read, and a span with one
millisecond too many. -/
theorem read_written_cases :
    let d : Duration := ⟨1500700000, by decide⟩
    let p := (Document.ofText "1500ms\n").place
    let long : Duration := ⟨0x10000000000000000 * 1000000, by decide⟩
    d.data.isAt p.node = true ∧ Duration.read p = .ok (ofMillis 1500) ∧
      parse "1m" = .ok (ofSeconds 60) ∧ parse (ofSeconds 60).toText = .ok (ofSeconds 60) ∧
      (parse long.toText).mapError ParseError.message =
        .error "Invalid duration: 18446744073709551616ms" := by
  intro d p long
  have hp : d.data.isAt p.node = true := by decide +kernel
  have hback : d.readBack = .ok (ofMillis 1500) := toOption_eq_some_iff.1 (by decide +kernel)
  have hread := (read_written d).2.1 p hp
  rw [hback] at hread
  have hparse : parse "1m" = .ok (ofSeconds 60) := toOption_eq_some_iff.1 (by decide +kernel)
  have hagain := ((read_written (ofSeconds 60)).2.2 "1m" hparse).1
  have hlong : long.readBack = .error "Invalid duration: 18446744073709551616ms" := by decide +kernel
  exact ⟨hp, hread, hparse, hagain, (read_written long).1.trans hlong⟩

end GuestHarness.Duration
