import GuestHarness.Duration
import GuestHarness.Proofs.Text.Numeral

/-!
The texts that are read as spans of time. A text without the blanks around it is read as a span exactly
if it is a decimal number below 2^64 and a unit, and the span is then that number of units, unless so
many minutes are too long. What a text is read as is said here by a relation over its grammar, without
regard to the order in which the endings are tried; that no text is an amount in two units, although
one unit ends in another, is what makes the relation a function.
-/

namespace GuestHarness.Duration

/-! ### Units -/

/-- The units in which spans are written. -/
inductive TimeUnit where
  | millis
  | seconds
  | minutes
deriving DecidableEq

namespace TimeUnit

/-- How a unit is written. -/
def letters : TimeUnit → List Char
  | millis => ['m', 's']
  | seconds => ['s']
  | minutes => ['m']

/-- The nanoseconds of a unit. -/
def nanos : TimeUnit → Nat
  | millis => 1000000
  | seconds => 1000000000
  | minutes => 60000000000

/-- A number of units is below 2^64, and so are its seconds if these are minutes. -/
def Fits (u : TimeUnit) (n : Nat) : Prop :=
  n < 0x10000000000000000 ∧ (u = minutes → 60 * n < 0x10000000000000000)

lemma isBlank_letters (u : TimeUnit) : ∀ c ∈ u.letters, Text.isBlank c = false := by
  cases u <;> simp [letters, Text.isBlank]

end TimeUnit

variable {u v : TimeUnit} {n m : Nat} {before cs : List Char} {s : String}

/-- The unit stands at the end and is not the tail of a longer one. -/
structure EndsIn (cs before : List Char) (u : TimeUnit) : Prop where
  eq : cs = before ++ u.letters
  longest : u = .seconds → ¬ ['m'] <:+ before

/-- A text ends in one unit at most. -/
lemma EndsIn.unique {before' : List Char} (h : EndsIn cs before u) (h' : EndsIn cs before' v) :
    before = before' ∧ u = v := by
  have heq := h.eq.symm.trans h'.eq
  have hu := h.longest
  have hv := h'.longest
  cases u <;> cases v
  all_goals simp only [TimeUnit.letters] at heq
  case millis.millis | seconds.seconds | minutes.minutes =>
    exact ⟨List.append_cancel_right heq, rfl⟩
  case millis.seconds =>
    have hm : before ++ ['m'] = before' := (List.append_left_inj ['s']).1 (by simpa using heq)
    exact absurd ⟨before, hm⟩ (hv rfl)
  case seconds.millis =>
    have hm : before' ++ ['m'] = before := (List.append_left_inj ['s']).1 (by simpa using heq.symm)
    exact absurd ⟨before', hm⟩ (hu rfl)
  all_goals
    have hlast := congrArg List.getLast? heq
    simp at hlast

/-- A text that ends like a unit ends in it, or in the longer one. -/
lemma exists_endsIn (h : u.letters <:+ cs) :
    ∃ before v, EndsIn cs before v ∧ (v = u ∨ v = .millis ∧ u = .seconds) := by
  obtain ⟨before, rfl⟩ := h
  by_cases hm : u = .seconds ∧ ['m'] <:+ before
  · obtain ⟨rfl, before, rfl⟩ := hm
    exact ⟨before, .millis, ⟨by simp [TimeUnit.letters], by simp⟩, .inr ⟨rfl, rfl⟩⟩
  · exact ⟨before, u, ⟨rfl, fun hu hsuffix => hm ⟨hu, hsuffix⟩⟩, .inl rfl⟩

lemma EndsIn.eq_or (h : EndsIn cs before u) (hv : v.letters <:+ cs) :
    u = v ∨ u = .millis ∧ v = .seconds := by
  obtain ⟨before', w, hw, hor⟩ := exists_endsIn hv
  obtain ⟨-, rfl⟩ := h.unique hw
  exact hor

/-! ### Amounts -/

/-- The text is an amount: a number and a unit, with blanks between them or not. -/
def Amount (n : Nat) (u : TimeUnit) (cs : List Char) : Prop :=
  ∃ number gap, cs = number ++ gap ++ u.letters ∧ Text.IsNumeral n number ∧
    ∀ c ∈ gap, Text.isBlank c = true

/-- What stands before the unit of an amount is its number, when the blanks are taken away. -/
lemma Amount.exists_endsIn (h : Amount n u cs) :
    ∃ before, EndsIn cs before u ∧ Text.IsNumeral n (Text.trim before) := by
  obtain ⟨number, gap, rfl, hnumber, hgap⟩ := h
  have htrim : Text.Trimmed (number ++ gap) number :=
    ⟨⟨[], gap, rfl, by simp, hgap⟩,
      fun c hc => hnumber.isBlank_eq_false (List.mem_of_mem_head? hc),
      fun c hc => hnumber.isBlank_eq_false (List.mem_of_mem_getLast? hc)⟩
  refine ⟨number ++ gap, ⟨rfl, ?_⟩, htrim.eq_trim ▸ hnumber⟩
  rintro - ⟨front, hfront⟩
  have hm : 'm' ∈ number ++ gap := by simp [← hfront]
  obtain hm | hm := List.mem_append.1 hm
  · exact absurd (hnumber.mem hm) (by decide)
  · exact absurd (hgap 'm' hm) (by decide)

lemma amount_of_endsIn (hhead : ∀ c ∈ cs.head?, Text.isBlank c = false) (h : EndsIn cs before u)
    (hn : Text.IsNumeral n (Text.trim before)) : Amount n u cs := by
  obtain ⟨front, gap, hbefore, hfront, hgap⟩ := (Text.trimmed_trim before).around
  generalize Text.trim before = number at hn hbefore
  obtain ⟨rfl, -⟩ := h
  subst hbefore
  cases front with
  | nil => exact ⟨number, gap, rfl, hn, hgap⟩
  | cons c front =>
    have hblank := hfront c List.mem_cons_self
    rw [hhead c rfl] at hblank
    cases hblank

/-- **No text is an amount in two ways.** -/
lemma Amount.unique (h : Amount n u cs) (h' : Amount m v cs) : n = m ∧ u = v := by
  obtain ⟨before, hend, hn⟩ := h.exists_endsIn
  obtain ⟨before', hend', hm⟩ := h'.exists_endsIn
  obtain ⟨rfl, rfl⟩ := hend.unique hend'
  exact ⟨hn.unique hm, rfl⟩

/-! ### What a text is read as -/

/-- What a text without blanks around it is read as, and the wording where it is no span. -/
inductive Reading (cs : List Char) : Except String Duration → Prop
  | span {n : Nat} {u : TimeUnit} {d : Duration} (h : Amount n u cs) (hfits : u.Fits n)
      (hd : d.nanos = n * u.nanos) : Reading cs (.ok d)
  | tooLarge {n : Nat} (h : Amount n .minutes cs) (hn : n < 0x10000000000000000)
      (hlarge : 0x10000000000000000 ≤ 60 * n) :
      Reading cs (.error ("Duration too large: " ++ String.ofList cs))
  | noUnit (h : ∀ u : TimeUnit, ¬ u.letters <:+ cs) :
      Reading cs (.error ("Duration must end with 'ms', 's', or 'm': " ++ String.ofList cs))
  | badNumber {u : TimeUnit} (hunit : u.letters <:+ cs)
      (h : ∀ n u, Amount n u cs → 0x10000000000000000 ≤ n) :
      Reading cs (.error ("Invalid duration: " ++ String.ofList cs))

lemma nanos_ofSeconds (h : n < 0x10000000000000000) : (ofSeconds n).nanos = n * 1000000000 := by
  simp only [ofSeconds, ofParts, Nat.mod_eq_of_lt h]
  omega

lemma nanos_ofMillis (h : n < 0x10000000000000000) : (ofMillis n).nanos = n * 1000000 := by
  have hlt : n / 1000 < 0x10000000000000000 := by omega
  simp only [ofMillis, ofParts, Nat.mod_eq_of_lt hlt]
  omega

/-- What so many units of a text are read as. -/
def TimeUnit.span (text : String) (n : Nat) : TimeUnit → Except ParseError Duration
  | millis => .ok (ofMillis n)
  | seconds => .ok (ofSeconds n)
  | minutes => if 60 * n < 0x10000000000000000 then .ok (ofSeconds (60 * n)) else .error (.tooLarge text)

/-- There is a span of so many units. -/
lemma TimeUnit.Fits.exists_span (h : u.Fits n) :
    ∃ d : Duration, d.nanos = n * u.nanos ∧ ∀ text, u.span text n = .ok d := by
  cases u with
  | millis => exact ⟨_, nanos_ofMillis h.1, fun _ => rfl⟩
  | seconds => exact ⟨_, nanos_ofSeconds h.1, fun _ => rfl⟩
  | minutes =>
    have hlt := h.2 rfl
    refine ⟨_, ?_, fun _ => if_pos hlt⟩
    rw [nanos_ofSeconds hlt, nanos]
    omega

lemma parse_of_endsIn (h : EndsIn (Text.trim s.toList) before u) :
    parse s = parseAmount (String.ofList (Text.trim s.toList)) before >>=
      (u.span (String.ofList (Text.trim s.toList)) ·) := by
  unfold parse
  dsimp only
  generalize Text.trim s.toList = cs at h
  generalize String.ofList cs = text
  have hunit : Text.dropSuffix? u.letters cs = some before := by rw [h.eq, Text.dropSuffix?_append]
  have hother : ∀ v : TimeUnit, ¬ (u = v ∨ u = .millis ∧ v = .seconds) →
      Text.dropSuffix? v.letters cs = none :=
    fun v hv => Text.dropSuffix?_eq_none_iff.2 (mt h.eq_or hv)
  -- the endings are tried in the order of the units
  cases u with
  | millis =>
    have h₁ : Text.dropSuffix? ['m', 's'] cs = some before := hunit
    rw [h₁]
    dsimp only
    cases parseAmount text before <;> rfl
  | seconds =>
    have h₁ : Text.dropSuffix? ['m', 's'] cs = none := hother .millis (by simp)
    have h₂ : Text.dropSuffix? ['s'] cs = some before := hunit
    rw [h₁, h₂]
    dsimp only
    cases parseAmount text before <;> rfl
  | minutes =>
    have h₁ : Text.dropSuffix? ['m', 's'] cs = none := hother .millis (by simp)
    have h₂ : Text.dropSuffix? ['s'] cs = none := hother .seconds (by simp)
    have h₃ : Text.dropSuffix? ['m'] cs = some before := hunit
    rw [h₁, h₂, h₃]
    dsimp only
    cases parseAmount text before with
    | error e => rfl
    | ok n =>
      simp only [TimeUnit.span, bind, Except.bind]
      split <;> rfl

lemma parse_of_noUnit (h : ∀ u : TimeUnit, ¬ u.letters <:+ Text.trim s.toList) :
    parse s = .error (.noUnit (String.ofList (Text.trim s.toList))) := by
  have hunit : ∀ u : TimeUnit, Text.dropSuffix? u.letters (Text.trim s.toList) = none :=
    fun u => Text.dropSuffix?_eq_none_iff.2 (h u)
  have h₁ : Text.dropSuffix? ['m', 's'] (Text.trim s.toList) = none := hunit .millis
  have h₂ : Text.dropSuffix? ['s'] (Text.trim s.toList) = none := hunit .seconds
  have h₃ : Text.dropSuffix? ['m'] (Text.trim s.toList) = none := hunit .minutes
  simp only [parse, h₁, h₂, h₃]

/-- The number of an amount is read, and the rest is up to its unit. -/
lemma parse_of_amount (h : Amount n u (Text.trim s.toList)) :
    parse s = (if n < 0x10000000000000000 then u.span (String.ofList (Text.trim s.toList)) n
      else .error (.badNumber (String.ofList (Text.trim s.toList)))) := by
  obtain ⟨before, hend, hn⟩ := h.exists_endsIn
  rw [parse_of_endsIn hend, parseAmount, hn.parseBelow?_eq]
  by_cases hlt : n < 0x10000000000000000
  · rw [if_pos hlt, if_pos hlt]
    rfl
  · rw [if_neg hlt, if_neg hlt]
    rfl

/-- There is a reading of every text. -/
lemma exists_reading (cs : List Char) : ∃ r, Reading cs r := by
  by_cases hamount : ∃ n u, Amount n u cs ∧ n < 0x10000000000000000
  · obtain ⟨n, u, h, hn⟩ := hamount
    by_cases hlarge : u = .minutes ∧ 0x10000000000000000 ≤ 60 * n
    · obtain ⟨rfl, hlarge⟩ := hlarge
      exact ⟨_, .tooLarge h hn hlarge⟩
    · have hfits : u.Fits n := ⟨hn, fun hu => Nat.lt_of_not_le fun hle => hlarge ⟨hu, hle⟩⟩
      obtain ⟨d, hd, -⟩ := hfits.exists_span
      exact ⟨_, .span h hfits hd⟩
  · by_cases hunit : ∃ u : TimeUnit, u.letters <:+ cs
    · obtain ⟨u, hunit⟩ := hunit
      exact ⟨_, .badNumber hunit fun n v h => Nat.le_of_not_lt fun hlt => hamount ⟨n, v, h, hlt⟩⟩
    · exact ⟨_, .noUnit fun u hu => hunit ⟨u, hu⟩⟩

/-- **A text is read as the grammar says.** -/
lemma Reading.parse {r : Except String Duration} (h : Reading (Text.trim s.toList) r) :
    (Duration.parse s).mapError ParseError.message = r := by
  cases h with
  | span h hfits hd =>
    obtain ⟨d, hd', hspan⟩ := hfits.exists_span
    obtain rfl : d = _ := Duration.ext (hd'.trans hd.symm)
    rw [parse_of_amount h, if_pos hfits.1, hspan]
    rfl
  | tooLarge h hn hlarge =>
    rw [parse_of_amount h, if_pos hn, TimeUnit.span, if_neg (Nat.not_lt_of_le hlarge)]
    rfl
  | noUnit h =>
    rw [parse_of_noUnit h]
    rfl
  | badNumber hunit h =>
    obtain ⟨before, u, hend, -⟩ := exists_endsIn hunit
    have hnumber : Text.parseBelow? 0x10000000000000000 (Text.trim before) = none := by
      rw [Option.eq_none_iff_forall_ne_some]
      intro n hn
      obtain ⟨hnumeral, hlt⟩ := Text.isNumeral_of_parseBelow? hn
      have hle := h n u (amount_of_endsIn (Text.trimmed_trim _).head hend hnumeral)
      exact absurd hlt (Nat.not_lt_of_le hle)
    rw [parse_of_endsIn hend, parseAmount, hnumber]
    rfl

/-- Every text has the reading that it is given. -/
lemma reading_parse (s : String) :
    Reading (Text.trim s.toList) ((Duration.parse s).mapError ParseError.message) := by
  obtain ⟨r, hr⟩ := exists_reading (Text.trim s.toList)
  rwa [hr.parse]

/-- **The texts that are read as spans of time are those of the grammar.** Every text has one form
without blanks around it, and what this form is read as is its one reading: a span of so many units
where it is a decimal number below 2^64, with a plus sign or not, and a unit, with blanks between them
or not; and else the fault that the reading names. No text is an amount in two ways. -/
theorem parse_iff_reading (s : String) :
    ∃ core, (∀ cs, Text.Trimmed s.toList cs ↔ cs = core) ∧
      (∀ r, (parse s).mapError ParseError.message = r ↔ Reading core r) ∧
      ∀ n u m v, Amount n u core → Amount m v core → n = m ∧ u = v := by
  refine ⟨Text.trim s.toList, fun cs => ⟨Text.Trimmed.eq_trim, ?_⟩, fun r => ⟨?_, Reading.parse⟩,
    fun n u m v => Amount.unique⟩
  · rintro rfl
    exact Text.trimmed_trim _
  · rintro rfl
    exact reading_parse s

/-- Seven minutes with a sign, a zero in front, and blanks of several kinds. -/
theorem parse_iff_reading_padded :
    let s := "\u2003+07 m\n"
    let core := ['+', '0', '7', ' ', 'm']
    Text.Trimmed s.toList core ∧ Amount 7 .minutes core ∧
      (parse s).mapError ParseError.message = .ok (ofSeconds 420) ∧
      ∀ n u, Amount n u core → n = 7 ∧ u = .minutes := by
  intro s core
  have htrimmed : Text.Trimmed s.toList core :=
    ⟨⟨['\u2003'], ['\n'], by decide, by simp [Text.isBlank]⟩, by simp [core, Text.isBlank],
      by simp [core, Text.isBlank]⟩
  have hamount : Amount 7 .minutes core :=
    ⟨['+', '0', '7'], [' '], rfl, ⟨['0', '7'], .inr rfl, by simp, by simp, rfl⟩,
      by simp [Text.isBlank]⟩
  obtain ⟨core', htrim, hread, hunique⟩ := parse_iff_reading s
  obtain rfl : core = core' := (htrim core).1 htrimmed
  have hspan : Reading core (.ok (ofSeconds 420)) :=
    .span hamount ⟨by decide, fun _ => by decide⟩ (by decide)
  exact ⟨htrimmed, hamount, (hread _).2 hspan, fun n u h => hunique n u 7 .minutes h hamount⟩

end GuestHarness.Duration
