import ScriptChannel.Proofs.Input.Placing

/-!
# A text on a page

The bytes of a stream up to its end marker are a byte order mark, if there is one, and a text, each
character of it spelled by bytes of its own. Where one character ends and the next begins, the rest of
the stream is the rest of the text.
-/

namespace ScriptChannel

/-- What stands on a stream of bytes in front of its end marker. -/
structure Page (e : Encoding) (m : UInt8) (bs mark : List UInt8) (text : List Char) : Prop where
  upTo : upToMarker m bs = mark ++ e.unread text
  skip : e.skipMark (upToMarker m bs) = e.unread text
  exact : e.Exact text (e.unread text)

/-- What is in front of the marker behind some bytes that are in front of it. -/
theorem upToMarker_drop {m : UInt8} {bs us vs : List UInt8} (h : upToMarker m bs = us ++ vs) :
    upToMarker m (bs.drop us.length) = vs := by
  obtain ⟨rest, hrest⟩ := upToMarker_begins m bs
  have hfree : m = 0 ∨ m ∉ us := by
    by_cases hm : m = 0
    · exact .inl hm
    · refine .inr fun hmem => ?_
      have hin : m ∈ upToMarker m bs := by
        rw [h]
        exact List.mem_append_left _ hmem
      rw [upToMarker, if_neg hm] at hin
      simpa using List.all_eq_true.1 List.all_takeWhile m hin
  have hbs : bs = us ++ bs.drop us.length := by
    rw [h, List.append_assoc] at hrest
    rw [← hrest, List.drop_left]
  have hall := upToMarker_append_of_free hfree (bs.drop us.length)
  rw [← hbs, h] at hall
  exact (List.append_cancel_left hall).symm

namespace Page
variable {e : Encoding} {m : UInt8} {bs mark : List UInt8} {text : List Char}

/-- Where bytes are characters as they stand any bytes are a page without a mark. -/
theorem of_narrow (he : e.decoder? = none) (m : UInt8) (bs : List UInt8) :
    Page e m bs [] (e.decode (e.skipMark (upToMarker m bs))) := by
  rw [Encoding.skipMark_of_bytes he, Encoding.decode_of_bytes he]
  have hback := Encoding.unread_map he (upToMarker m bs)
  refine ⟨hback.symm, ?_, ?_⟩
  · rw [hback, Encoding.skipMark_of_bytes he]
  · rw [hback]
    exact .narrow he _

section Spelled
variable {c : Charset} {spell : Char → List UInt8} (hs : c.SpellsBy spell)

include hs in
theorem decode_spelled (text : List Char) :
    (Encoding.charset c).decode (text.flatMap spell) = text := by
  change ((c.keeping []).feed (text.flatMap spell)).1 ++
    ((c.keeping []).feed (text.flatMap spell)).2.finish.1 = text
  rw [hs.feed_text, hs.finish, List.append_nil]

include hs in
/-- Only a text that begins with a character begins with the bytes of it. -/
theorem exists_of_begins {x : Char} {text : List Char} {rest : List UInt8}
    (h : text.flatMap spell = spell x ++ rest) : ∃ behind, text = x :: behind := by
  obtain ⟨before, behind, half, hparts⟩ := Charset.exists_parts h
  have hfeed := hs.feed hparts
  rw [hs.whole (p := []) (x := x) rfl (hs.ne_nil x)] at hfeed
  refine ⟨behind, ?_⟩
  rw [hparts.all, ← (Prod.mk.inj hfeed).1]
  rfl

/-- On a page of bytes there are narrow characters only, and no mark. -/
theorem narrow (h : Page e m bs mark text) (he : e.decoder? = none) :
    mark = [] ∧ ∀ x ∈ text, Encoding.Narrow x := by
  refine ⟨?_, ?_⟩
  · have hskip := h.skip
    rw [Encoding.skipMark_of_bytes he, h.upTo] at hskip
    exact List.append_left_eq_self.1 hskip
  · have hexact := h.exact
    generalize e.unread text = us at hexact
    cases hexact with
    | narrow =>
      intro x hx
      obtain ⟨b, -, rfl⟩ := List.mem_map.1 hx
      exact Encoding.narrow_charOfByte b
    | spelled hc => simp [hc, Encoding.decoder?] at he

/-- A mark in front is set apart, and the bytes behind it are the text they are decoded to. -/
theorem of_spelled (hs : c.SpellsBy spell) (hu : ∀ cs, (Encoding.charset c).unread cs = cs.flatMap spell)
    (hmark : c.mark? = some (spell '\uFEFF')) {cs : List Char}
    (h : upToMarker m bs = cs.flatMap spell) :
    ∃ mark, Page (.charset c) m bs mark
      ((Encoding.charset c).decode ((Encoding.charset c).skipMark (upToMarker m bs))) := by
  have hmarked : (Encoding.charset c).markedCharset? = some c := by
    simp [Encoding.markedCharset?, hmark]
  have hskip := (Encoding.charset c).skipMark_eq (upToMarker m bs)
  rw [hmarked] at hskip
  dsimp only at hskip
  rw [hskip, h]
  by_cases hp : spell '\uFEFF' <+: cs.flatMap spell
  · obtain ⟨rest, hrest⟩ := hp
    obtain ⟨behind, rfl⟩ := exists_of_begins hs hrest.symm
    have hwithout : c.withoutMark (('\uFEFF' :: behind).flatMap spell) = behind.flatMap spell := by
      rw [List.flatMap_cons, Charset.withoutMark_of_marked hmark (List.prefix_append _ _),
        List.drop_left]
    rw [hwithout, decode_spelled hs]
    refine ⟨spell '\uFEFF', ?_, ?_, ?_⟩
    · rw [h, hu, List.flatMap_cons]
    · rw [hskip, h, hwithout, hu]
    · rw [hu]
      exact .spelled rfl hs hu behind
  · have hwithout := Charset.withoutMark_of_unmarked hmark hp
    rw [hwithout, decode_spelled hs]
    refine ⟨[], ?_, ?_, ?_⟩
    · rw [h, hu, List.nil_append]
    · rw [hskip, h, hwithout, hu]
    · rw [hu]
      exact .spelled rfl hs hu cs

end Spelled

/-- Whatever is valid in the encoding is a page, as far as a marker goes that is a character of its
own. -/
theorem of_valid (hv : e.Valid bs) (hm : e.Spares m) :
    ∃ mark, Page e m bs mark (e.decode (e.skipMark (upToMarker m bs))) := by
  cases hv with
  | binary | latin1 => exact ⟨[], of_narrow rfl m bs⟩
  | utf8 cs =>
    obtain ⟨as, -, has⟩ := Charset.Utf8.exists_upToMarker (hm rfl) cs
    exact of_spelled Charset.spellsBy_utf8 Encoding.unread_utf8 (by decide) has

/-- So is a text in UTF-16. -/
theorem of_utf16 {order : Charset.Utf16.ByteOrder} {cs : List Char}
    (h : upToMarker m bs = Charset.Utf16.bytes order cs) :
    ∃ mark, Page (.charset (.utf16 order)) m bs mark
      ((Encoding.charset (.utf16 order)).decode
        ((Encoding.charset (.utf16 order)).skipMark (upToMarker m bs))) :=
  of_spelled (Charset.spellsBy_utf16 order) (Encoding.unread_utf16 order)
    (by cases order <;> decide) h

end Page

end ScriptChannel
