import GuestHarness.Output.Buffer
import GuestHarness.Proofs.Text.Occurrence

/-!
Text that arrives in chunks. However the bytes of a text are cut, a cut goes through one character at
most, and the bytes of this character that are there begin it without completing it, so that they are
decoded as one replacement. What a buffer shows between two chunks is thus the characters that have
arrived completely, and one replacement if the last chunk ended inside a character.
-/

namespace GuestHarness

namespace Text

/-! ### Cuts -/

variable {text before after whole : List Char} {bs held missing : Bytes} {c : Char}

/-- These are the characters of the text that have arrived completely, when the given bytes of it
have arrived. -/
structure Complete (text : List Char) (bs : Bytes) (whole : List Char) : Prop where
  inText : whole <+: text
  arrived : encode whole <+: bs
  most : ∀ more, more <+: text → encode more <+: bs → more <+: whole

/-- The bytes end inside a character of the text: some bytes of it are there, and some are missing. -/
def EndsInside (text : List Char) (bs : Bytes) : Prop :=
  ∃ before c after held missing, text = before ++ c :: after ∧ bs = encode before ++ held ∧
    String.utf8EncodeChar c = held ++ missing ∧ held ≠ [] ∧ missing ≠ []

lemma encode_append (cs ds : List Char) : encode (cs ++ ds) = encode cs ++ encode ds :=
  List.flatMap_append

lemma encode_cons (c : Char) (cs : List Char) :
    encode (c :: cs) = String.utf8EncodeChar c ++ encode cs :=
  List.flatMap_cons

lemma Complete.unique {whole' : List Char} (h : Complete text bs whole)
    (h' : Complete text bs whole') : whole = whole' :=
  (h'.most whole h.inText h.arrived).eq_of_length_le (h.most whole' h'.inText h'.arrived).length_le

/-- The characters before a place are complete and no others, if the bytes do not reach to the end of
the next. -/
lemma complete_of_lt (harrived : encode before <+: bs)
    (hnext : ∀ c ∈ after.head?, bs.length < (encode before ++ String.utf8EncodeChar c).length) :
    Complete (before ++ after) bs before := by
  refine ⟨List.prefix_append .., harrived, fun more hmore hbs => ?_⟩
  obtain h | ⟨rest, rfl⟩ :=
    List.prefix_or_prefix_of_prefix hmore (List.prefix_append before after)
  · exact h
  · cases rest with
    | nil => simp
    | cons d rest =>
      obtain ⟨others, rfl⟩ : d :: rest <+: after := (List.prefix_append_right_inj before).1 hmore
      have hlt := hnext d rfl
      have hle := hbs.length_le
      simp only [encode_append, encode_cons, List.length_append] at hlt hle
      omega

lemma complete_whole (before after : List Char) :
    Complete (before ++ after) (encode before) before := by
  refine complete_of_lt (List.prefix_refl _) fun c _ => ?_
  have := List.length_pos_iff.2 (String.utf8EncodeChar_ne_nil (c := c))
  rw [List.length_append]
  omega

lemma complete_held (before after : List Char) (hc : String.utf8EncodeChar c = held ++ missing)
    (hmissing : missing ≠ []) : Complete (before ++ c :: after) (encode before ++ held) before := by
  refine complete_of_lt (List.prefix_append ..) fun d hd => ?_
  obtain rfl : c = d := by simpa using hd
  have := List.length_pos_iff.2 hmissing
  simp only [hc, List.length_append]
  omega

lemma not_endsInside (before after : List Char) : ¬ EndsInside (before ++ after) (encode before) := by
  rintro ⟨before', c, after', held, missing, htext, hbs, hc, hheld, hmissing⟩
  have hcomplete := complete_whole before after
  rw [htext, hbs] at hcomplete
  obtain rfl := hcomplete.unique (complete_held before' after' hc hmissing)
  exact hheld (List.self_eq_append_right.1 hbs)

/-- A cut falls between two characters or goes through one. -/
lemma cut_cases (h : bs <+: encode text) :
    (∃ before after, text = before ++ after ∧ bs = encode before) ∨ EndsInside text bs := by
  induction text generalizing bs with
  | nil => exact .inl ⟨[], [], rfl, List.prefix_nil.1 h⟩
  | cons c text ih =>
    obtain ⟨rest, h⟩ := h
    rw [encode_cons] at h
    obtain ⟨missing, hc, -⟩ | ⟨bs, rfl, htext⟩ := List.append_eq_append_iff.1 h
    · by_cases hheld : bs = []
      · exact .inl ⟨[], c :: text, rfl, hheld⟩
      · by_cases hmissing : missing = []
        · refine .inl ⟨[c], text, rfl, ?_⟩
          rw [encode_cons, hc, hmissing]
          simp [encode]
        · exact .inr ⟨[], c, text, bs, missing, rfl, rfl, hc, hheld, hmissing⟩
    · obtain ⟨before, after, rfl, rfl⟩ | ⟨before, d, after, held, missing, rfl, rfl, hd, hne⟩ :=
        ih ⟨rest, htext.symm⟩
      · exact .inl ⟨c :: before, after, rfl, (encode_cons c before).symm⟩
      · refine .inr ⟨c :: before, d, after, held, missing, rfl, ?_, hd, hne⟩
        rw [encode_cons, List.append_assoc]

/-! ### Characters that are cut -/

lemma decodeFrom_some_ne_nil (p : Partial) (bs : Bytes) : decodeFrom (some p) bs ≠ [] := by
  induction bs generalizing p with
  | nil => exact List.cons_ne_nil _ _
  | cons b bs ih =>
    by_cases hin : p.low ≤ b ∧ b ≤ p.high
    · rw [decodeFrom, if_pos hin]
      dsimp only
      split
      · exact List.cons_ne_nil _ _
      · exact ih _
    · rw [decodeFrom_some_of_out _ hin]
      exact List.cons_ne_nil _ _

/-- Something is decoded for every byte. -/
lemma decodeFrom_none_ne_nil (hbs : bs ≠ []) : decodeFrom none bs ≠ [] := by
  obtain ⟨b, bs, rfl⟩ := List.exists_cons_of_ne_nil hbs
  rw [decodeFrom]
  cases lead b with
  | single d => exact List.cons_ne_nil _ _
  | opens p => exact decodeFrom_some_ne_nil p bs
  | stray => exact List.cons_ne_nil _ _

lemma decodeFrom_some_held {p : Partial} (h : decodeFrom (some p) (held ++ missing) = [c])
    (hmissing : missing ≠ []) : decodeFrom (some p) held = [replacement] := by
  induction held generalizing p with
  | nil => rfl
  | cons b held ih =>
    have hrest : held ++ missing ≠ [] := List.append_ne_nil_of_right_ne_nil held hmissing
    by_cases hin : p.low ≤ b ∧ b ≤ p.high
    · rw [List.cons_append, decodeFrom, if_pos hin] at h
      rw [decodeFrom, if_pos hin]
      dsimp only at h ⊢
      by_cases hlast : p.missing ≤ 1
      · rw [if_pos hlast] at h
        exact absurd (List.cons.inj h).2 (decodeFrom_none_ne_nil hrest)
      · rw [if_neg hlast] at h ⊢
        exact ih h
    · rw [List.cons_append, decodeFrom_some_of_out _ hin] at h
      exact absurd (List.cons.inj h).2 (decodeFrom_none_ne_nil (List.cons_ne_nil _ _))

/-- **Bytes that are decoded as one character are decoded as one replacement as long as some of them
are missing.** -/
lemma decode_held (h : decode (held ++ missing) = [c]) (hheld : held ≠ []) (hmissing : missing ≠ []) :
    decode held = [replacement] := by
  obtain ⟨b, held, rfl⟩ := List.exists_cons_of_ne_nil hheld
  have hrest : decodeFrom none (held ++ missing) ≠ [] :=
    decodeFrom_none_ne_nil (List.append_ne_nil_of_right_ne_nil held hmissing)
  rw [decode, List.cons_append, decodeFrom] at h
  rw [decode, decodeFrom]
  cases hb : lead b with
  | single d =>
    rw [hb] at h
    exact absurd (List.cons.inj h).2 hrest
  | opens p =>
    rw [hb] at h
    exact decodeFrom_some_held h hmissing
  | stray =>
    rw [hb] at h
    exact absurd (List.cons.inj h).2 hrest

/-- What is decoded when some bytes of a text have arrived. -/
lemma decode_cut (h : bs <+: encode text) : ∃ whole, Complete text bs whole ∧
    (EndsInside text bs → decode bs = whole ++ [replacement]) ∧
    (¬ EndsInside text bs → decode bs = whole) := by
  obtain ⟨before, after, rfl, rfl⟩ | hinside := cut_cases h
  · refine ⟨before, complete_whole before after, fun h => absurd h (not_endsInside before after),
      fun _ => ?_⟩
    have hdecode := decodeFrom_encode before []
    rwa [List.append_nil, decodeFrom, List.append_nil] at hdecode
  · obtain ⟨before, c, after, held, missing, rfl, rfl, hc, hheld, hmissing⟩ := id hinside
    have hchar : decode (held ++ missing) = [c] := by
      have hdecode := decodeFrom_encoded c []
      rwa [List.append_nil, hc] at hdecode
    refine ⟨before, complete_held before after hc hmissing, fun _ => ?_, fun h => absurd hinside h⟩
    rw [decode, decodeFrom_encode, ← decode, decode_held hchar hheld hmissing]

end Text

/-! ### Chunks -/

namespace OutputBuffer

lemma data_foldl_append (chunks : List Bytes) (b : OutputBuffer) :
    (chunks.foldl append b).data = b.data ++ chunks.flatten := by
  induction chunks generalizing b with
  | nil => simp
  | cons chunk chunks ih => rw [List.foldl_cons, ih, List.flatten_cons, append, List.append_assoc]

/-- **Characters that are split between chunks are never corrupted.** When the first chunks of a text
have arrived, the buffer shows the characters that have arrived completely, followed by one
replacement if the bytes end inside a character and by nothing else; and when all have arrived, it
shows the text. -/
theorem text_of_chunks (text : String) (chunks : List Bytes)
    (hchunks : chunks.flatten = Text.bytes text) (n : Nat) :
    let buffer := (chunks.take n).foldl append empty
    (∃ whole, Text.Complete text.toList buffer.data whole ∧
      (Text.EndsInside text.toList buffer.data →
        buffer.text = String.ofList (whole ++ [Text.replacement])) ∧
      (¬ Text.EndsInside text.toList buffer.data → buffer.text = String.ofList whole)) ∧
    (chunks.length ≤ n → buffer.text = text) := by
  intro buffer
  have hdata : buffer.data = (chunks.take n).flatten := data_foldl_append _ _
  constructor
  · have hcut : buffer.data <+: Text.encode text.toList := by
      have hrest : (chunks.take n).flatten ++ (chunks.drop n).flatten = chunks.flatten := by
        rw [← List.flatten_append, List.take_append_drop]
      exact ⟨_, hdata ▸ hrest.trans hchunks⟩
    obtain ⟨whole, hwhole, hinside, hbetween⟩ := Text.decode_cut hcut
    exact ⟨whole, hwhole, fun h => congrArg String.ofList (hinside h),
      fun h => congrArg String.ofList (hbetween h)⟩
  · intro hn
    rw [List.take_of_length_le hn, hchunks] at hdata
    rw [OutputBuffer.text, hdata, Text.lossy_bytes]

/-- The last of four bytes is missing, and an empty chunk has come in between. -/
theorem text_of_chunks_split :
    let chunks : List Bytes := [[0x61, 0xC3], [0xA9, 0xF0, 0x9F], [], [0x98], [0x80, 0x7A]]
    let buffer := (chunks.take 4).foldl append empty
    chunks.flatten = Text.bytes "aé😀z" ∧ Text.EndsInside "aé😀z".toList buffer.data ∧
      ∃ whole, Text.Complete "aé😀z".toList buffer.data whole ∧
        buffer.text = String.ofList (whole ++ [Text.replacement]) := by
  intro chunks buffer
  have hchunks : chunks.flatten = Text.bytes "aé😀z" := by decide +kernel
  have hinside : Text.EndsInside "aé😀z".toList buffer.data :=
    ⟨['a', 'é'], '😀', ['z'], [0xF0, 0x9F, 0x98], [0x80], by decide +kernel⟩
  obtain ⟨⟨whole, hwhole, htext, -⟩, -⟩ := text_of_chunks "aé😀z" chunks hchunks 4
  exact ⟨hchunks, hinside, whole, hwhole, htext hinside⟩

end OutputBuffer
end GuestHarness
