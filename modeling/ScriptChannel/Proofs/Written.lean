import ScriptChannel.Proofs.Charset.Utf16
import ScriptChannel.Proofs.Newlines
import ScriptChannel.Proofs.Unreading

/-!
# Text written and read back

An encoding that has bytes for every character of a text reads them back as that text, unless the
text begins with what would be taken for the byte order mark.
-/

namespace ScriptChannel

namespace Encoding

/-- The bytes that a text is written as. -/
def written (e : Encoding) (cs : List Char) : List UInt8 := (e.encoder.feed questionMark cs).1

/-- The encoding has bytes for each character, and nothing in front is a byte order mark. -/
inductive Carries : Encoding → List Char → Prop
  | binary {cs : List Char} (h : ∀ c ∈ cs, Narrow c) : Carries .binary cs
  | latin1 {cs : List Char} (h : ∀ c ∈ cs, Narrow c) : Carries .latin1 cs
  | utf8 {cs : List Char} (h : cs.head? ≠ some '\uFEFF') : Carries .utf8 cs
  | utf16 {cs : List Char} (order : Charset.Utf16.ByteOrder) (h : cs.head? ≠ some '\uFEFF') :
      Carries (.charset (.utf16 order)) cs

/-- An encoding that writes each character by itself and remembers nothing. -/
def Spells (e : Encoding) (spell : Char → List UInt8) : Prop :=
  ∀ cs, e.encoder.feed questionMark cs = (cs.flatMap spell, e.encoder)

theorem spells_binary : Spells .binary fun c => [lowByte c] := by
  intro cs
  rw [← List.map_eq_flatMap]
  rfl

theorem spells_latin1 :
    Spells .latin1 fun c => if c.toNat < 256 then [lowByte c] else questionMark c := fun _ => rfl

theorem spells_charset {c : Charset} {spell : Char → List UInt8}
    (h : ∀ x, c.encoder.step questionMark x = (spell x, c.encoder)) : Spells (.charset c) spell := by
  intro cs
  simp only [encoder, Encoder.feed, Charset.Encoder.feed_eq_flatMap rfl h]

/-- Nothing is remembered from one character to the next. -/
def Memoryless (e : Encoding) : Prop := e ≠ .charset .iso2022Jp

instance : DecidablePred Memoryless := fun e =>
  inferInstanceAs (Decidable (e ≠ .charset .iso2022Jp))

/-- The bytes of a character: its low eight bits where bytes are raw, and otherwise a question mark
if there are none. -/
def spelling : Encoding → Char → List UInt8
  | binary, c => [lowByte c]
  | latin1, c => if c.toNat < 256 then [lowByte c] else questionMark c
  | charset s, c => (s.encode? c).getD (questionMark c)

theorem Memoryless.spells {e : Encoding} (h : e.Memoryless) : e.Spells e.spelling := by
  cases e with
  | binary => exact spells_binary
  | latin1 => exact spells_latin1
  | charset s =>
    apply spells_charset
    intro x
    cases s with
    | iso2022Jp => exact absurd rfl h
    | _ => rfl

theorem Carries.spells {e : Encoding} {cs : List Char} (h : e.Carries cs) :
    ∃ spell, e.Spells spell := by
  cases h with
  | binary => exact ⟨_, spells_binary⟩
  | latin1 => exact ⟨_, spells_latin1⟩
  | utf8 => exact ⟨_, spells_charset fun _ => rfl⟩
  | utf16 => exact ⟨_, spells_charset fun _ => rfl⟩

section Spells
variable {e : Encoding} {spell : Char → List UInt8} (h : e.Spells spell)
include h

theorem Spells.written_eq (cs : List Char) : e.written cs = cs.flatMap spell := by
  rw [written, h]

/-- How a text is cut makes no difference. -/
theorem Spells.written_append (as bs : List Char) :
    e.written (as ++ bs) = e.written as ++ e.written bs := by
  rw [h.written_eq, h.written_eq, h.written_eq, List.flatMap_append]

end Spells

/-- Where no mark stands none is left out. -/
theorem skipMark_of_unmarked {e : Encoding} {mark bs : List UInt8}
    (hm : e.markedCharset?.bind Charset.mark? = some mark) (h : ¬ mark <+: bs) :
    e.skipMark bs = bs := by
  have hnone : mark.isPrefixOf? bs = none := by
    rw [← Option.not_isSome_iff_eq_none, List.isSome_isPrefixOf?_eq_isPrefixOf,
      List.isPrefixOf_iff_prefix]
    exact h
  simp only [skipMark, hm, hnone, Option.getD_none]

theorem head_of_utf8Mark {cs : List Char} (h : utf8Mark <+: Charset.Utf8.bytes cs) :
    cs.head? = some '\uFEFF' := by
  obtain ⟨rest, hrest⟩ := h
  have hread := Charset.Utf8.readFrom_bytes cs
  rw [← hrest, ← bytes_feff, Charset.Utf8.readFrom_bytes_append] at hread
  rw [← hread]
  rfl

/-- What is written is read back as it was. -/
theorem Carries.decode_written {e : Encoding} {cs : List Char} (h : e.Carries cs) :
    e.decode (e.skipMark (e.written cs)) = cs := by
  cases h with
  | binary h => exact map_charOfByte_lowByte h
  | latin1 h =>
    have hwritten : Encoding.latin1.written cs = cs.map lowByte := by
      rw [← unread_of_narrow (e := .latin1) rfl h]
      exact (List.append_nil _).symm
    rw [hwritten]
    exact map_charOfByte_lowByte h
  | utf8 h =>
    have hwritten : Encoding.utf8.written cs = Charset.Utf8.bytes cs :=
      (spells_charset fun _ => rfl).written_eq cs
    rw [hwritten, skipMark_utf8_of_unmarked (mt head_of_utf8Mark h), decode_utf8,
      Charset.Utf8.readFrom_bytes]
  | utf16 order h =>
    have hwritten : (Encoding.charset (.utf16 order)).written cs = Charset.Utf16.bytes order cs :=
      (spells_charset fun _ => rfl).written_eq cs
    obtain ⟨mark, hm⟩ : ∃ mark, (Charset.utf16 order).mark? = some mark := by
      cases order <;> exact ⟨_, rfl⟩
    have hmarked : (Encoding.charset (.utf16 order)).markedCharset?.bind Charset.mark? =
        some mark := by
      simp [markedCharset?, hm]
    rw [hwritten, skipMark_of_unmarked hmarked (mt (Charset.Utf16.head_of_mark hm) h)]
    exact Charset.Utf16.decode_bytes order cs

/-- Newlines do not keep an encoding from carrying a text. -/
theorem Carries.translate {e : Encoding} {cs : List Char} (h : e.Carries cs) (t : Translation) :
    e.Carries (Output.translate t cs) := by
  -- Every encoding has both characters, and neither is the mark.
  have hending : ∀ x ∈ t.ending, x = '\n' ∨ x = '\r' := by
    cases t <;> simp [Translation.ending]
  have hnarrow : (∀ c ∈ cs, Narrow c) → ∀ c ∈ Output.translate t cs, Narrow c := by
    intro h x hx
    obtain ⟨c, hc, hx⟩ := List.mem_flatMap.1 hx
    split at hx
    · rcases hending x hx with rfl | rfl <;> decide
    · rw [List.mem_singleton.1 hx]
      exact h c hc
  have hhead : cs.head? ≠ some '\uFEFF' → (Output.translate t cs).head? ≠ some '\uFEFF' := by
    intro h
    cases cs with
    | nil => simp
    | cons c cs =>
      by_cases hn : c = '\n'
      · rw [hn, Output.translate_newline]
        cases t <;> simp [Translation.ending]
      · rw [Output.translate_cons hn]
        simpa using h
  cases h with
  | binary h => exact .binary (hnarrow h)
  | latin1 h => exact .latin1 (hnarrow h)
  | utf8 h => exact .utf8 (hhead h)
  | utf16 order h => exact .utf16 order (hhead h)

end Encoding

end ScriptChannel
