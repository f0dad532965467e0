import Mathlib.Data.List.Basic
import ScriptChannel.Proofs.Charset.Torn

/-!
# Text put back into bytes

A text that was read from bytes comes back as these bytes, and is read from them again as it was:
for raw bytes and for Latin-1 whatever they are, for UTF-8 where they are a text.
-/

namespace ScriptChannel.Encoding

/-- The bytes are a text in the encoding. Where they are characters as they stand they always are. -/
inductive Valid : Encoding → List UInt8 → Prop
  | binary (bs : List UInt8) : Valid .binary bs
  | latin1 (bs : List UInt8) : Valid .latin1 bs
  | utf8 (cs : List Char) : Valid .utf8 (Charset.Utf8.bytes cs)

/-- In UTF-8 the marker is none or a character of its own. -/
def Spares (e : Encoding) (marker : UInt8) : Prop := e = .utf8 → marker.toNat < 0x80

instance (e : Encoding) (marker : UInt8) : Decidable (e.Spares marker) :=
  inferInstanceAs (Decidable (e = .utf8 → marker.toNat < 0x80))

/-- A character of a byte's number. -/
def Narrow (c : Char) : Prop := c.toNat < 256

instance : DecidablePred Narrow := fun c => inferInstanceAs (Decidable (c.toNat < 256))

theorem toNat_charOfByte (b : UInt8) : (charOfByte b).toNat = b.toNat := by
  have hb : b.toNat < 256 := b.toNat_lt
  have hv : b.toNat.isValidChar := .inl (by omega)
  have hc : charOfByte b = Char.ofNatAux b.toNat hv := dif_pos hv
  rw [hc]
  rfl

theorem narrow_charOfByte (b : UInt8) : Narrow (charOfByte b) := by
  rw [Narrow, toNat_charOfByte]
  exact b.toNat_lt

theorem lowByte_charOfByte (b : UInt8) : lowByte (charOfByte b) = b := by
  rw [lowByte, toNat_charOfByte]
  exact UInt8.ofNat_toNat

theorem charOfByte_lowByte {c : Char} (h : Narrow c) :
    charOfByte (lowByte c) = c := by
  have hb : (lowByte c).toNat = c.toNat := by
    simp only [lowByte, UInt8.toNat_ofNat']
    exact Nat.mod_eq_of_lt h
  rw [charOfByte, hb, Char.ofNat_toNat]

theorem map_charOfByte_lowByte {cs : List Char} (h : ∀ c ∈ cs, Narrow c) :
    (cs.map lowByte).map charOfByte = cs := by
  rw [List.map_map]
  exact (List.map_congr_left fun c hc => charOfByte_lowByte (h c hc)).trans (List.map_id cs)

theorem map_lowByte_charOfByte (bs : List UInt8) : (bs.map charOfByte).map lowByte = bs := by
  rw [List.map_map]
  exact (List.map_congr_left fun b _ => lowByte_charOfByte b).trans (List.map_id bs)

/-- Where bytes are characters as they stand, characters are bytes again. -/
theorem unread_of_narrow {e : Encoding} (he : e.decoder? = none) {cs : List Char}
    (h : ∀ c ∈ cs, Narrow c) : e.unread cs = cs.map lowByte := by
  cases e with
  | binary => simp [unread, encoder, Encoder.feed, Encoder.finish]
  | latin1 =>
    simp only [unread, encoder, Encoder.feed, Encoder.finish, List.append_nil]
    induction cs with
    | nil => rfl
    | cons c cs ih =>
      obtain ⟨hc, hcs⟩ := List.forall_mem_cons.1 h
      rw [List.flatMap_cons, ih hcs, if_pos (show c.toNat < 256 from hc)]
      rfl
  | charset c => simp [decoder?] at he

theorem decode_of_bytes {e : Encoding} (he : e.decoder? = none) (bs : List UInt8) :
    e.decode bs = bs.map charOfByte := by
  cases e with
  | charset c => simp [decoder?] at he
  | binary | latin1 => rfl

theorem skipMark_of_bytes {e : Encoding} (he : e.decoder? = none) (bs : List UInt8) :
    e.skipMark bs = bs := by
  cases e with
  | charset c => simp [decoder?] at he
  | binary | latin1 => rfl

theorem unread_utf8 (cs : List Char) : Encoding.utf8.unread cs = Charset.Utf8.bytes cs := by
  have hfeed : Charset.utf8.encoder.feed Encoding.utf8.substitute cs =
      (Charset.Utf8.bytes cs, Charset.utf8.encoder) :=
    Charset.Encoder.feed_eq_flatMap rfl (fun _ => rfl) cs
  change (Charset.utf8.encoder.feed Encoding.utf8.substitute cs).1 ++
    (Charset.utf8.encoder.feed Encoding.utf8.substitute cs).2.finish.1 = _
  rw [hfeed]
  exact List.append_nil _

theorem decode_utf8 (bs : List UInt8) : Encoding.utf8.decode bs = Charset.Utf8.readFrom [] bs := rfl

/-- The byte order mark of UTF-8, and the character it is in a text. -/
def utf8Mark : List UInt8 := [0xEF, 0xBB, 0xBF]

theorem bytes_feff : Charset.Utf8.bytes ['\uFEFF'] = utf8Mark := by decide

theorem skipMark_utf8 (bs : List UInt8) :
    Encoding.utf8.skipMark bs = (utf8Mark.isPrefixOf? bs).getD bs := rfl

theorem skipMark_utf8_of_marked (bs : List UInt8) : Encoding.utf8.skipMark (utf8Mark ++ bs) = bs := by
  rw [skipMark_utf8, List.isPrefixOf?_eq_some_iff_append_eq.2 rfl]
  rfl

theorem skipMark_utf8_of_unmarked {bs : List UInt8} (h : ¬ utf8Mark <+: bs) :
    Encoding.utf8.skipMark bs = bs := by
  have hnone : utf8Mark.isPrefixOf? bs = none := by
    rw [← Option.not_isSome_iff_eq_none, List.isSome_isPrefixOf?_eq_isPrefixOf,
      List.isPrefixOf_iff_prefix]
    exact h
  rw [skipMark_utf8, hnone]
  rfl

end ScriptChannel.Encoding
