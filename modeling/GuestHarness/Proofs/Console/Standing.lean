import GuestHarness.Proofs.Console.Feeding
import Mathlib.Data.List.Infix

/-!
Where a console stands after any input. All that it remembers can be read off the input itself: how
often the escape stands in it tells the side that is shown, its last byte tells whether an escape is
begun, and what stands behind its last line feed or escape is the line that is begun. Each byte
keeps this so, wherever the chunks in which the input comes are cut.
-/

namespace GuestHarness.Console

/-! ### What is read off an input -/

/-- How often Control-A and the letter c stand next to each other. -/
def switches (input : Bytes) : Nat := (input.zip input.tail).count (0x01, 0x63)

/-- The byte is part of a line: neither Control-A nor a carriage return. -/
def isTyped (b : UInt8) : Bool := b ≠ 0x01 && b ≠ 0x0D

/-- The rest of an input behind its last line feed or escape, or all of it if there is none. -/
structure IsRest (input rest : Bytes) : Prop where
  behind : ∃ before, input = before ++ rest ∧
    (before = [] ∨ [0x0A] <:+ before ∨ [0x01, 0x63] <:+ before)
  noLineFeed : 0x0A ∉ rest
  noEscape : ¬ [0x01, 0x63] <:+: rest

variable {input rest rest' : Bytes} {b : UInt8}

lemma switches_concat (input : Bytes) (b : UInt8) : switches (input ++ [b]) =
    switches input + if input.getLast? = some 0x01 ∧ b = 0x63 then 1 else 0 := by
  induction input with
  | nil => rfl
  | cons a input ih =>
    cases input with
    | nil =>
      simp [switches, List.count_cons]
    | cons a' input =>
      have hcons : ∀ more : Bytes, switches (a :: a' :: more) =
          switches (a' :: more) + if (a, a') = ((0x01, 0x63) : UInt8 × UInt8) then 1 else 0 := by
        intro more
        simp [switches, List.count_cons]
      rw [List.cons_append, List.cons_append, hcons, hcons, ← List.cons_append, ih,
        List.getLast?_cons_cons, Nat.add_right_comm]

/-- A line feed or escape at the end leaves no rest. -/
lemma isRest_nil {before : Bytes} (h : [0x0A] <:+ before ∨ [0x01, 0x63] <:+ before) :
    IsRest before [] := by
  refine ⟨⟨before, (List.append_nil _).symm, .inr h⟩, by simp, ?_⟩
  rw [List.infix_nil]
  simp

/-- Any other byte is added to the rest. -/
lemma IsRest.concat (h : IsRest input rest) (hb : b ≠ 0x0A)
    (hescape : ¬ (input.getLast? = some 0x01 ∧ b = 0x63)) :
    IsRest (input ++ [b]) (rest ++ [b]) := by
  obtain ⟨⟨before, rfl, hbefore⟩, hfeed, hno⟩ := h
  refine ⟨⟨before, by rw [List.append_assoc], hbefore⟩, ?_, ?_⟩
  · simp [hfeed, hb.symm]
  · rw [List.infix_concat_iff]
    rintro (hend | hinside)
    · -- the escape would end in the new byte
      obtain ⟨front, hfront⟩ := hend
      have hsplit : (front ++ [0x01]) ++ [0x63] = rest ++ [b] := by simpa using hfront
      obtain ⟨rfl, hlast⟩ := List.append_inj' hsplit rfl
      obtain rfl := (List.cons.inj hlast).1
      exact hescape ⟨by rw [← List.append_assoc, List.getLast?_concat], rfl⟩
    · exact hno hinside

/-- A line feed or escape at the end of two parts stands in the second of them, unless that is empty
or the escape begins before it. -/
lemma mem_or_infix_of_suffix_append {before more : Bytes} (hbefore : before.getLast? ≠ some 0x01)
    (hmore : more ≠ []) (h : [0x0A] <:+ before ++ more ∨ [0x01, 0x63] <:+ before ++ more) :
    0x0A ∈ more ∨ [0x01, 0x63] <:+: more := by
  have hends : more <:+ before ++ more := List.suffix_append before more
  rcases h with h | h
  · have hfeed := List.suffix_of_suffix_length_le h hends (List.length_pos_iff.2 hmore)
    exact .inl (hfeed.subset (List.mem_singleton_self _))
  · right
    match more, hmore with
    | [b], _ =>
      obtain ⟨front, hfront⟩ := h
      have hsplit : (front ++ [0x01]) ++ [0x63] = before ++ [b] := by simpa using hfront
      obtain ⟨rfl, -⟩ := List.append_inj' hsplit rfl
      simp at hbefore
    | b :: b' :: more, _ =>
      exact (List.suffix_of_suffix_length_le h hends (by simp)).isInfix

/-- Where one rest is as long as the other or longer, they are the same. -/
lemma IsRest.eq_of_suffix (h : IsRest input rest) (h' : IsRest input rest')
    (hsuffix : rest' <:+ rest) : rest' = rest := by
  obtain ⟨more, rfl⟩ := hsuffix
  obtain ⟨⟨before, rfl, hbefore⟩, hfeed, hno⟩ := h
  obtain ⟨⟨before', hinput, hbefore'⟩, -, -⟩ := h'
  obtain rfl : before ++ more = before' := by
    rw [← List.append_assoc] at hinput
    exact List.append_cancel_right hinput
  by_contra hne
  have hmore : more ≠ [] := by
    rintro rfl
    exact hne rfl
  have hlast : before.getLast? ≠ some 0x01 := by
    rcases hbefore with rfl | ⟨front, rfl⟩ | ⟨front, rfl⟩ <;> simp
  have hends := hbefore'.resolve_left (List.append_ne_nil_of_right_ne_nil before hmore)
  rcases mem_or_infix_of_suffix_append hlast hmore hends with hmem | hinside
  · exact hfeed (List.mem_append_left _ hmem)
  · exact hno (List.IsInfix.trans hinside (List.prefix_append more rest').isInfix)

/-- There is only one rest. -/
lemma IsRest.unique (h : IsRest input rest) (h' : IsRest input rest') : rest' = rest := by
  obtain ⟨⟨before, hbefore, -⟩, -, -⟩ := id h
  obtain ⟨⟨before', hbefore', -⟩, -, -⟩ := id h'
  have hends : rest <:+ input := ⟨before, hbefore.symm⟩
  have hends' : rest' <:+ input := ⟨before', hbefore'.symm⟩
  rcases List.suffix_or_suffix_of_suffix hends hends' with hle | hle
  · exact (h'.eq_of_suffix h hle).symm
  · exact h.eq_of_suffix h' hle

/-! ### What every byte keeps -/

/-- The console stands as it does after an input in which nothing ended the emulator. -/
structure StandsAfter (c : Console) (input : Bytes) : Prop where
  side : c.inMonitor = decide (switches input % 2 = 1)
  escape : c.escapePending = decide (input.getLast? = some 0x01)
  line : ∃ rest, IsRest input rest ∧ c.line = rest.filter isTyped

variable {c : Console}

lemma standsAfter_nil : ({} : Console).StandsAfter [] :=
  ⟨rfl, rfl, [], ⟨⟨[], rfl, .inl rfl⟩, by simp, by simp⟩, rfl⟩

/-- The letter c behind Control-A completes an escape. -/
lemma StandsAfter.take_escape (h : c.StandsAfter input) (hlast : input.getLast? = some 0x01) :
    (c.take 0x63).1.StandsAfter (input ++ [0x63]) := by
  have htake : c.take 0x63 = (⟨!c.inMonitor, false, []⟩, some (.switched !c.inMonitor)) := by
    simp [Console.take, h.escape, hlast]
  obtain ⟨front, rfl⟩ := List.getLast?_eq_some_iff.1 hlast
  rw [htake]
  refine ⟨?_, ?_, [], isRest_nil (.inr ⟨front, by simp⟩), rfl⟩
  · rw [switches_concat, if_pos ⟨hlast, rfl⟩, h.side]
    by_cases hodd : switches (front ++ [0x01]) % 2 = 1 <;> simp [hodd] <;> omega
  · simp

/-- Any other byte is taken for itself. -/
lemma StandsAfter.plain (h : c.StandsAfter input)
    (hno : ¬ (input.getLast? = some 0x01 ∧ b = 0x63)) :
    ({ c with escapePending := false }.plain b).1.StandsAfter (input ++ [b]) := by
  obtain ⟨hside, -, rest, hrest, hline⟩ := h
  have hcount : c.inMonitor = decide (switches (input ++ [b]) % 2 = 1) := by
    rw [switches_concat, if_neg hno, Nat.add_zero]
    exact hside
  unfold Console.plain
  split
  · next hb =>
    subst hb
    refine ⟨hcount, by simp, _, hrest.concat (by decide) hno, ?_⟩
    show c.line = _
    simpa [isTyped] using hline
  · next hctrl =>
    have hlast : false = decide ((input ++ [b]).getLast? = some 0x01) := by simp [hctrl]
    split
    · next hb =>
      subst hb
      refine ⟨hcount, hlast, _, hrest.concat (by decide) hno, ?_⟩
      show c.line = _
      simpa [isTyped] using hline
    · next hreturn =>
      split
      · next hb =>
        subst hb
        exact ⟨hcount, hlast, [], isRest_nil (.inl ⟨input, rfl⟩), rfl⟩
      · next hfeed =>
        refine ⟨hcount, hlast, _, hrest.concat hfeed hno, ?_⟩
        have hline' : (b :: c.typed).reverse = c.line ++ [b] := List.reverse_cons
        show (b :: c.typed).reverse = _
        rw [hline', hline, List.filter_append, List.filter_singleton]
        simp [isTyped, hctrl, hreturn]

/-- One byte. -/
lemma StandsAfter.take (h : c.StandsAfter input) (b : UInt8) :
    (c.take b).1.StandsAfter (input ++ [b]) := by
  by_cases hswitch : input.getLast? = some 0x01 ∧ b = 0x63
  · obtain ⟨hlast, rfl⟩ := hswitch
    exact h.take_escape hlast
  · have htake : c.take b = { c with escapePending := false }.plain b := by
      rw [Console.take, if_neg]
      simpa [h.escape] using hswitch
    rw [htake]
    exact h.plain hswitch

/-- Any bytes, as long as none of them ends the emulator. -/
lemma StandsAfter.feed (h : c.StandsAfter input) (bs : Bytes)
    (hgoes : hasQuit (c.feed bs).2 = false) : (c.feed bs).1.StandsAfter (input ++ bs) := by
  induction bs generalizing c input with
  | nil =>
    rw [List.append_nil]
    exact h
  | cons b bs ih =>
    have hstep := h.take b
    have hsplit : input ++ b :: bs = (input ++ [b]) ++ bs := by simp
    obtain ⟨⟨c', e⟩, htake⟩ : ∃ r, c.take b = r := ⟨_, rfl⟩
    rw [htake] at hstep
    rw [hsplit]
    cases e with
    | none =>
      rw [feed_cons_none htake] at hgoes ⊢
      exact ih hstep hgoes
    | some e =>
      rw [feed_cons_some htake] at hgoes ⊢
      cases hq : e.quits with
      | true => simp [hq, hasQuit] at hgoes
      | false =>
        simp only [hq, Bool.false_eq_true, if_false, hasQuit_cons, Bool.false_or] at hgoes ⊢
        exact ih hstep hgoes

/-! ### Input in chunks -/

/-- **Where the input is cut does not matter, and what was typed tells where the console stands.** A
fresh console that is fed any chunks comes to the same state and the same events, so it shows the
same and ends the emulator at the same point, as one that is fed all of them at once. As long as
nothing ended the emulator, it shows the monitor if and only if Control-A stood next to the letter c
an odd number of times; an escape is begun if and only if Control-A came last; and its line is the
one rest of the input behind the last line feed or escape, without Control-A and carriage returns.
-/
theorem feedAll_stands (chunks : List Bytes) :
    let input := chunks.flatten
    let whole := ({} : Console).feed input
    ({} : Console).feedAll chunks = whole ∧
      (hasQuit whole.2 = false →
        (whole.1.inMonitor = true ↔ switches input % 2 = 1) ∧
        (whole.1.escapePending = true ↔ input.getLast? = some 0x01) ∧
        ∃ rest, (∀ r, IsRest input r ↔ r = rest) ∧ whole.1.line = rest.filter isTyped) := by
  intro input whole
  refine ⟨feedAll_eq_feed _ chunks, ?_⟩
  intro hgoes
  obtain ⟨hside, hescape, rest, hrest, hline⟩ := standsAfter_nil.feed input hgoes
  rw [List.nil_append] at hside hescape hrest
  refine ⟨by rw [hside, decide_eq_true_iff], by rw [hescape, decide_eq_true_iff], rest, ?_, hline⟩
  intro r
  constructor
  · exact hrest.unique
  · rintro rfl
    exact hrest

/-- The escape and the line are cut, and Control-A stands in the line too. -/
theorem feedAll_stands_cut :
    let chunks : List Bytes := [[0x01], [0x63, 0x61, 0x01], [0x0D, 0x62]]
    let whole := ({} : Console).feed chunks.flatten
    hasQuit whole.2 = false ∧ ({} : Console).feedAll chunks = whole ∧ whole.1.inMonitor = true ∧
      ∃ rest, (∀ r, IsRest chunks.flatten r ↔ r = rest) ∧ rest.filter isTyped = [0x61, 0x62] := by
  intro chunks whole
  have hgoes : hasQuit whole.2 = false := by decide
  obtain ⟨hwhole, hstands⟩ := feedAll_stands chunks
  obtain ⟨hside, -, rest, hrest, hline⟩ := hstands hgoes
  refine ⟨hgoes, hwhole, hside.2 (by decide), rest, hrest, ?_⟩
  rw [← hline]
  rfl

end GuestHarness.Console
