import GuestHarness.Output.Buffer
import GuestHarness.OutputLines
import GuestHarness.Proofs.Text.Occurrence

/-!
Two ways to look for a text in captured output: among the bytes of the buffer, and line by line in
the decoded output. They agree for every text that fits on a line and has no replacement characters,
whatever bytes were captured and in whatever chunks they came: what is cut away between lines is not
part of the text, and what cannot be decoded is a replacement character.
-/

namespace GuestHarness

/-! ### Lines -/

/-- What does not hold a separator is found on one of its sides. -/
lemma infix_append_cons_iff {α : Type} {pattern left right : List α} {a : α} (h : a ∉ pattern) :
    pattern <:+: left ++ a :: right ↔ pattern <:+: left ∨ pattern <:+: right := by
  have hcut : ∀ xs, xs <+: a :: right → a ∉ xs → xs = [] := by
    intro xs hxs ha
    cases xs with
    | nil => rfl
    | cons b xs =>
      obtain ⟨rfl, -⟩ := List.cons_prefix_cons.1 hxs
      exact absurd List.mem_cons_self ha
  rw [List.infix_append_iff, List.infix_cons_iff]
  constructor
  · rintro (hl | (hr | hr) | ⟨before, after, rfl, hleft, hright⟩)
    · exact .inl hl
    · rw [hcut pattern hr h]
      exact .inl List.nil_infix
    · exact .inr hr
    · rw [hcut after hright fun ha => h (List.mem_append_right _ ha), List.append_nil]
      exact .inl hleft.isInfix
  · rintro (hl | hr)
    · exact .inl hl
    · exact .inr (.inl (.inr hr))

section Lines

variable {pattern : List Char}

lemma infix_stripReturn_iff (hne : pattern ≠ []) (hreturn : '\r' ∉ pattern) (line : List Char) :
    pattern <:+: stripReturn line ↔ pattern <:+: line := by
  unfold stripReturn
  split
  · next hlast =>
    obtain ⟨line, rfl⟩ := List.getLast?_eq_some_iff.1 hlast
    rw [List.dropLast_concat, infix_append_cons_iff hreturn, List.infix_nil, or_iff_left hne]
  · rfl

/-- A text is found on one of the lines exactly if it is found in the whole. -/
lemma exists_line_infix_iff (hne : pattern ≠ []) (hfeed : '\n' ∉ pattern) (hreturn : '\r' ∉ pattern)
    (begun cs : List Char) :
    (∃ line ∈ splitLines begun cs, pattern <:+: line) ↔ pattern <:+: begun.reverse ++ cs := by
  fun_induction splitLines begun cs with
  | case1 begun hbegun =>
    obtain rfl := List.isEmpty_iff.1 hbegun
    simp [hne]
  | case2 begun hbegun => simp
  | case3 begun rest ih =>
    simp only [List.mem_cons, or_and_right, exists_or, exists_eq_left]
    rw [infix_stripReturn_iff hne hreturn, ih, infix_append_cons_iff hfeed]
    rfl
  | case4 begun c rest hc ih =>
    rw [ih, List.reverse_cons, List.append_assoc]
    rfl

end Lines

/-! ### Bytes and lines -/

namespace OutputBuffer

/-- **To look among the bytes and to look line by line is the same**, whatever bytes were captured,
for every text that is not empty and has no line feed, no carriage return and no replacement
character. -/
theorem contains_eq_lines_contain (chunks : List Bytes) (text : String) (hne : text ≠ "")
    (hfeed : '\n' ∉ text.toList) (hreturn : '\r' ∉ text.toList)
    (hreplacement : Text.replacement ∉ text.toList) :
    let buffer := chunks.foldl append empty
    buffer.contains (Text.bytes text) =
      (OutputLines.ofBytes buffer.data).contains text.toList := by
  intro buffer
  have hne' : text.toList ≠ [] := fun h => hne (String.toList_eq_nil_iff.1 h)
  rw [Bool.eq_iff_iff]
  calc buffer.contains (Text.bytes text)
      ↔ Text.encode text.toList <:+: buffer.data := occurs_iff
    _ ↔ text.toList <:+: Text.decode buffer.data := (Text.infix_decode_iff hne' hreplacement).symm
    _ ↔ ∃ line ∈ splitLines [] (Text.decode buffer.data), text.toList <:+: line :=
        (exists_line_infix_iff hne' hfeed hreturn [] _).symm
    _ ↔ (OutputLines.ofBytes buffer.data).contains text.toList := by
        simp [OutputLines.contains, OutputLines.ofBytes, occurs_iff]

/-- A character that was cut in two, beside bytes that are no character, on a line that ends with a
carriage return. -/
theorem contains_eq_lines_contain_cut :
    let buffer := [[0x61, 0xC3], [0xA9, 0xFF, 0x0D], [0x0A, 0xE2, 0x82]].foldl append empty
    buffer.contains (Text.bytes "é") = true ∧
      (OutputLines.ofBytes buffer.data).contains "é".toList = true := by
  intro buffer
  have hfound : buffer.contains (Text.bytes "é") = true := by decide +kernel
  have hsame := contains_eq_lines_contain [[0x61, 0xC3], [0xA9, 0xFF, 0x0D], [0x0A, 0xE2, 0x82]] "é"
    (by decide) (by decide) (by decide) (by decide)
  exact ⟨hfound, hsame ▸ hfound⟩

/-- A replacement character is found on a line without being among the bytes. -/
example : (append empty [0xFF]).contains (Text.encode [Text.replacement]) = false ∧
    (OutputLines.ofBytes [0xFF]).contains [Text.replacement] = true := by decide

end OutputBuffer
end GuestHarness
