import GuestHarness.Proofs.Clock
import GuestHarness.Proofs.DurationGrammar

/-!
Spans of time as texts. What is written for a span reads back as the span without its fraction of a
millisecond, unless it has a fraction of a second and 2^64 milliseconds or more; and a span that was
read from a text is neither cut nor too long.
-/

namespace GuestHarness.Duration

variable {d : Duration} {n : Nat}

/-! ### What is read for a number -/

/-- What is read where a number stands right before its unit. -/
lemma parse_decimal (n : Nat) (u : TimeUnit) {text : String}
    (htext : text = Text.decimal n ++ String.ofList u.letters) :
    parse text = if n < 0x10000000000000000 then u.span text n else .error (.badNumber text) := by
  have hchars : text.toList = Nat.toDigits 10 n ++ u.letters := by
    simp [htext, Text.decimal]
  have htrim : Text.trim text.toList = text.toList := by
    refine Text.trim_eq_self fun c hc => ?_
    rw [hchars] at hc
    obtain hc | hc := List.mem_append.1 hc
    · exact (Text.isNumeral_toDigits n).isBlank_eq_false hc
    · exact u.isBlank_letters c hc
  have hamount : Amount n u (Text.trim text.toList) :=
    ⟨Nat.toDigits 10 n, [], by rw [htrim, hchars, List.append_nil], Text.isNumeral_toDigits n, by simp⟩
  have hread := parse_of_amount hamount
  rwa [htrim, String.ofList_toList] at hread

/-! ### What is read for a span -/

/-- A span without its fraction of a millisecond. -/
def wholeMillis (d : Duration) : Duration :=
  ⟨d.nanos - d.nanos % 1000000, Nat.lt_of_le_of_lt (Nat.sub_le ..) d.nanos_lt⟩

/-- **What is written for a span reads back as the span in whole milliseconds**, unless these are too
many. -/
lemma parse_toText (d : Duration) :
    parse d.toText = if d.subNanos = 0 ∨ d.millis < 0x10000000000000000 then .ok d.wholeMillis
      else .error (.badNumber d.toText) := by
  have hlt := d.nanos_lt
  by_cases hsub : d.subNanos = 0
  · have hseconds : d.seconds < 0x10000000000000000 := by
      rw [seconds]
      omega
    have htext : d.toText = Text.decimal d.seconds ++ String.ofList TimeUnit.seconds.letters := by
      rw [toText, if_pos hsub]
      rfl
    have hwhole : ofSeconds d.seconds = d.wholeMillis := by
      ext
      rw [nanos_ofSeconds hseconds]
      simp only [seconds, subNanos, wholeMillis] at *
      omega
    rw [parse_decimal _ _ htext, if_pos hseconds, if_pos (.inl hsub), TimeUnit.span, hwhole]
  · have htext : d.toText = Text.decimal d.millis ++ String.ofList TimeUnit.millis.letters := by
      rw [toText, if_neg hsub]
      rfl
    rw [parse_decimal _ _ htext]
    by_cases hmillis : d.millis < 0x10000000000000000
    · have hwhole : ofMillis d.millis = d.wholeMillis := by
        ext
        rw [nanos_ofMillis hmillis]
        simp only [millis, wholeMillis]
        omega
      rw [if_pos hmillis, if_pos (.inr hmillis), TimeUnit.span, hwhole]
    · rw [if_neg hmillis, if_neg (not_or.2 ⟨hsub, hmillis⟩)]

/-! ### Spans that were read -/

/-- A span was read from a text. -/
def IsWritten (d : Duration) : Prop := ∃ s, parse s = .ok d

lemma isWritten_ofSeconds (h : n < 0x10000000000000000) : (ofSeconds n).IsWritten :=
  ⟨_, (parse_decimal n .seconds rfl).trans (if_pos h)⟩

lemma isWritten_ofMillis (h : n < 0x10000000000000000) : (ofMillis n).IsWritten :=
  ⟨_, (parse_decimal n .millis rfl).trans (if_pos h)⟩

/-- What is read is a number of units. -/
lemma IsWritten.exists_units (h : d.IsWritten) :
    ∃ (n : Nat) (u : TimeUnit), u.Fits n ∧ d.nanos = n * u.nanos := by
  obtain ⟨s, h⟩ := h
  have hreading := reading_parse s
  rw [h] at hreading
  cases hreading with
  | span _ hfits hd => exact ⟨_, _, hfits, hd⟩

/-- **What is written for a span that was read is read as the same span.** -/
theorem IsWritten.parse_toText (h : d.IsWritten) : parse d.toText = .ok d := by
  obtain ⟨n, u, hfits, hd⟩ := h.exists_units
  have hn := hfits.1
  have hwhole : d.wholeMillis = d := by
    ext
    simp only [wholeMillis]
    cases u <;> simp only [TimeUnit.nanos] at hd <;> omega
  have hback : d.subNanos = 0 ∨ d.millis < 0x10000000000000000 := by
    rw [subNanos, millis]
    cases u <;> simp only [TimeUnit.nanos] at hd <;> omega
  rw [Duration.parse_toText, if_pos hback, hwhole]

end GuestHarness.Duration
