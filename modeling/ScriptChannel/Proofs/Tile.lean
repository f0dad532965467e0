import Mathlib.Data.List.TakeWhile
import ScriptChannel.Channel.Data
import ScriptChannel.Proofs.Input.OneByOne
import ScriptChannel.Proofs.Input.Placing

/-!
# The bytes that one read goes through

A read begins where the last one ended. From there on the bytes say a text, in the encoding that is in
force now, and of this text the read takes as much as it is for: so many characters, or a line with its
ending. The bytes of what it takes are the tile of the read, and the next one begins behind them. At the
start of the stream a byte order mark that belongs to the encoding is part of the tile and not of the
text, unless nothing was asked for.
-/

namespace ScriptChannel

namespace ReadKind

/-- What a request is for, off the front of a text. Of a line its ending is part. -/
def reach (t : Translation) : ReadKind → List Char → List Char
  | all, cs => cs.take everything
  | units n, cs => cs.take n
  | line, cs => cs.take (((t.read cs).takeWhile (· != '\n')).length + 1)

/-- The text has all that a request is for. -/
def Within (t : Translation) : ReadKind → List Char → Prop
  | all, cs => everything ≤ cs.length
  | units n, cs => n ≤ cs.length
  | line, cs => '\n' ∈ t.read cs

instance (t : Translation) (kind : ReadKind) (cs : List Char) : Decidable (kind.Within t cs) :=
  match kind with
  | all => inferInstanceAs (Decidable (everything ≤ cs.length))
  | units n => inferInstanceAs (Decidable (n ≤ cs.length))
  | line => inferInstanceAs (Decidable ('\n' ∈ t.read cs))

section Line
variable {t : Translation} (ht : t.Single) {as cs : List Char} {c : Char}
include ht

/-- A line with an ending is what is in front of the ending, and that. -/
theorem reach_line (cs : List Char) (has : ∀ a ∈ as, t.turn a ≠ '\n') (hc : t.turn c = '\n') :
    line.reach t (as ++ c :: cs) = as ++ [c] ∧
      (t.read (as ++ [c])).takeWhile (· != '\n') = as.map t.turn := by
  have hfront : ∀ ds, (as.map t.turn ++ '\n' :: ds).takeWhile (· != '\n') = as.map t.turn := by
    intro ds
    rw [List.takeWhile_append_of_pos (by simpa using has)]
    simp
  simp only [reach, ht.read_eq, List.map_append, List.map_cons, hc, hfront, List.length_map,
    List.map_nil]
  refine ⟨?_, trivial⟩
  rw [List.take_append, List.take_of_length_le (Nat.le_succ _), Nat.add_sub_cancel_left]
  rfl

/-- A text without a line ending is a line. -/
theorem reach_line_last (hcs : ∀ c ∈ cs, t.turn c ≠ '\n') :
    line.reach t cs = cs ∧ (t.read cs).takeWhile (· != '\n') = cs.map t.turn := by
  have hall : (cs.map t.turn).takeWhile (· != '\n') = cs.map t.turn :=
    List.takeWhile_eq_self_iff.2 (by simpa using hcs)
  rw [ht.read_eq, hall]
  refine ⟨?_, rfl⟩
  rw [reach, ht.read_eq, hall, List.length_map]
  exact List.take_of_length_le (Nat.le_succ _)

/-- The first line ending of a text, if it has one. -/
theorem exists_line (h : line.Within t cs) : ∃ as c bs, cs = as ++ c :: bs ∧
    (∀ a ∈ as, t.turn a ≠ '\n') ∧ t.turn c = '\n' := by
  have hmem : '\n' ∈ cs.map t.turn := by rwa [Within, ht.read_eq] at h
  obtain ⟨c, hin, hc⟩ := List.mem_map.1 hmem
  clear h hmem
  induction cs with
  | nil => cases hin
  | cons d ds ih =>
    by_cases hd : t.turn d = '\n'
    · exact ⟨[], d, ds, rfl, by simp, hd⟩
    · rcases List.mem_cons.1 hin with rfl | hin
      · exact absurd hc hd
      · obtain ⟨as, c', bs, rfl, has, hc'⟩ := ih hin
        exact ⟨d :: as, c', bs, rfl, List.forall_mem_cons.2 ⟨hd, has⟩, hc'⟩

/-- What stands behind all that a request is for makes no difference to it. -/
theorem Within.reach_append {kind : ReadKind} (h : kind.Within t cs) (ds : List Char) :
    kind.reach t (cs ++ ds) = kind.reach t cs := by
  cases kind with
  | all => exact List.take_append_of_le_length h
  | units n => exact List.take_append_of_le_length h
  | line =>
    obtain ⟨as, c, bs, rfl, has, hc⟩ := exists_line ht h
    rw [List.append_assoc, List.cons_append, (reach_line ht _ has hc).1, (reach_line ht _ has hc).1]

end Line

theorem reach_prefix (t : Translation) (kind : ReadKind) (cs : List Char) : kind.reach t cs <+: cs := by
  cases kind <;> exact List.take_prefix _ _

end ReadKind

/-- A read of the stream: what is asked for and in what settings, how far the reads before it have
come, and the bytes from there on. -/
structure Tile where
  encoding : Encoding
  translation : Translation
  kind : ReadKind
  dst : Data
  offset : Nat
  found : List UInt8
  deriving DecidableEq

namespace Tile

/-- The bytes that are decoded. -/
def body (p : Tile) : List UInt8 :=
  if p.offset = 0 ∧ p.kind ≠ .units 0 then p.encoding.skipMark p.found else p.found

/-- The characters that the read takes, before their line endings are translated. -/
def text (p : Tile) : List Char := p.kind.reach p.translation (p.encoding.decode p.body)

/-- The byte order mark that is skipped. -/
def mark (p : Tile) : List UInt8 := p.found.take (p.found.length - p.body.length)

/-- The bytes that the read goes through. -/
def bytes (p : Tile) : List UInt8 := p.mark ++ p.encoding.unread p.text

/-- The bytes behind them. -/
def left (p : Tile) : List UInt8 := p.found.drop p.bytes.length

/-- As far as the read goes the bytes are a text in its encoding. -/
def Legible (p : Tile) : Prop :=
  ∃ front others, p.body = front ++ others ∧ p.encoding.Valid front ∧
    (others = [] ∨ p.kind.Within p.translation (p.encoding.decode front))

/-- The characters that are handed out. On a binary channel units are bytes, whatever the line
endings, and a line is handed out without its ending. -/
def delivered (p : Tile) : List Char :=
  match p.kind with
  | .line => (p.translation.read p.text).takeWhile (· != '\n')
  | _ => if p.encoding.isBinary then p.text else p.translation.read p.text

/-- The destination with what is handed out. -/
def data (p : Tile) : Data :=
  if p.encoding.isBinary then p.dst.appendBytes (p.delivered.map Encoding.lowByte)
  else p.dst.appendText p.delivered

end Tile

namespace Encoding
variable {e : Encoding} {bs : List UInt8}

theorem skipMark_suffix (e : Encoding) (bs : List UInt8) : e.skipMark bs <:+ bs := by
  unfold skipMark
  split
  · rename_i mark _
    cases hrest : mark.isPrefixOf? bs with
    | none => exact List.suffix_refl bs
    | some rest => exact ⟨mark, List.isPrefixOf?_eq_some_iff_append_eq.1 hrest⟩
  · exact List.suffix_refl bs

/-- Each character of such a text is made of bytes of its own. -/
theorem Valid.exact (h : e.Valid bs) : e.Exact (e.decode bs) bs := by
  cases h with
  | binary | latin1 => exact .narrow rfl bs
  | utf8 cs =>
    rw [decode_utf8, Charset.Utf8.readFrom_bytes]
    exact .spelled rfl Charset.spellsBy_utf8 unread_utf8 cs

theorem Valid.decode_append (h : e.Valid bs) (others : List UInt8) :
    e.decode (bs ++ others) = e.decode bs ++ e.decode others := by
  cases h with
  | binary | latin1 => exact List.map_append
  | utf8 cs =>
    rw [decode_utf8, decode_utf8, decode_utf8, Charset.Utf8.readFrom_bytes_append,
      Charset.Utf8.readFrom_bytes]

theorem Valid.bytesPerChar (h : e.Valid bs) : e.bytesPerChar = 1 := by
  cases h <;> rfl

end Encoding

namespace Tile
variable {p : Tile}

/-- The bytes that a read finds are those that it goes through and those behind them: behind its text
come some more characters of the same encoding, and then others if it has all it is for. -/
structure Divided (p : Tile) (after : List Char) (others : List UInt8) : Prop where
  unit : p.encoding.bytesPerChar = 1
  exact : p.encoding.Exact (p.text ++ after) (p.encoding.unread (p.text ++ after))
  body : p.body = p.encoding.unread (p.text ++ after) ++ others
  within : others = [] ∨ p.kind.Within p.translation (p.text ++ after)
  text : p.text = p.kind.reach p.translation (p.text ++ after)
  left : p.left = p.encoding.unread after ++ others
  found : p.found = p.bytes ++ p.left

theorem mark_append_body (p : Tile) : p.mark ++ p.body = p.found := by
  have hsuffix : p.body <:+ p.found := by
    unfold body
    split
    · exact p.encoding.skipMark_suffix p.found
    · exact List.suffix_refl _
  exact List.suffix_iff_eq_append.1 hsuffix

/-- Nothing is skipped but the mark of UTF-8 at the start of the stream. -/
theorem Legible.mark_eq (h : p.Legible) :
    p.mark = [] ∨ p.offset = 0 ∧ p.encoding = .utf8 ∧ p.mark = Encoding.utf8Mark := by
  obtain ⟨front, -, -, hvalid, -⟩ := h
  have hsplit := p.mark_append_body
  have hnone : p.body = p.found → p.mark = [] := fun hbody => by
    rw [mark, hbody, Nat.sub_self, List.take_zero]
  by_cases hstart : p.offset = 0 ∧ p.kind ≠ .units 0
  · have hbody : p.body = p.encoding.skipMark p.found := if_pos hstart
    generalize hcode : p.encoding = e at hvalid hbody
    cases hvalid with
    | binary | latin1 => exact .inl (hnone (hbody.trans (Encoding.skipMark_of_bytes rfl _)))
    | utf8 =>
      obtain ⟨skipped, hfound, hskipped⟩ := Encoding.exists_skipMark_utf8 p.found
      rw [hbody] at hsplit
      have hmark : p.mark = skipped := List.append_cancel_right (hsplit.trans hfound)
      rw [hmark]
      rcases hskipped with hutf8 | ⟨hnil, -⟩
      · exact .inr ⟨hstart.1, rfl, hutf8⟩
      · exact .inl hnil
  · exact .inl (hnone (if_neg hstart))

/-- A read of no units goes nowhere. -/
theorem of_no_units (h : p.kind = .units 0) : p.text = [] ∧ p.bytes = [] ∧ p.left = p.found := by
  have hbody : p.body = p.found := if_neg fun hboth => hboth.2 h
  have htext : p.text = [] := by rw [text, h, ReadKind.reach, List.take_zero]
  have hbytes : p.bytes = [] := by simp [bytes, mark, hbody, htext]
  exact ⟨htext, hbytes, by rw [left, hbytes, List.length_nil, List.drop_zero]⟩

/-- What is behind a tile are the bytes behind its text. -/
theorem left_eq {rest : List UInt8} (h : p.body = p.encoding.unread p.text ++ rest) :
    p.left = rest ∧ p.found = p.bytes ++ p.left := by
  have hfound : p.found = p.bytes ++ rest := by
    rw [← p.mark_append_body, h, bytes, List.append_assoc]
  have hleft : p.left = rest := by rw [left, hfound, List.drop_left]
  exact ⟨hleft, by rw [hleft, ← hfound]⟩

theorem Legible.divided (ht : p.translation.Single) (h : p.Legible) :
    ∃ after others, p.Divided after others := by
  obtain ⟨front, others, hbody, hvalid, hwithin⟩ := h
  have hexact := hvalid.exact
  have htext : p.text = p.kind.reach p.translation (p.encoding.decode front) := by
    rw [text, hbody]
    rcases hwithin with rfl | hwithin
    · rw [List.append_nil]
    · rw [hvalid.decode_append]
      exact hwithin.reach_append ht _
  obtain ⟨after, hsplit⟩ := p.kind.reach_prefix p.translation (p.encoding.decode front)
  rw [← htext] at hsplit
  have hfront : p.encoding.unread (p.text ++ after) = front := by
    rw [hsplit]
    exact hexact.unread
  rw [← hsplit] at hexact hwithin htext
  have hcut := hexact.cut.1
  have hall : p.body = p.encoding.unread p.text ++ (p.encoding.unread after ++ others) := by
    rw [hbody, hcut, List.append_assoc]
  obtain ⟨hleft, hfound⟩ := p.left_eq hall
  exact ⟨after, others, hvalid.bytesPerChar, hfront.symm ▸ hexact, hfront.symm ▸ hbody, hwithin, htext,
    hleft, hfound⟩

/-- If the read takes all the characters, and nothing else is there, it takes all the bytes. -/
theorem Divided.left_of_all {after : List Char} {others : List UInt8} (h : p.Divided after others)
    (hothers : others = []) (hall : p.text = p.text ++ after) : after = [] ∧ p.left = [] := by
  have hafter : after = [] := List.self_eq_append_right.1 hall
  rw [h.left, hafter, hothers, Encoding.unread_nil]
  exact ⟨rfl, rfl⟩

/-- Where bytes are characters as they stand a read for `n` units goes through `n` bytes. -/
theorem bytes_of_binary {n : Nat} (he : p.encoding = .binary)
    (hreach : ∀ cs, p.kind.reach p.translation cs = cs.take n) :
    p.text = (p.found.take n).map Encoding.charOfByte ∧ p.bytes = p.found.take n := by
  have hdec : p.encoding.decoder? = none := by rw [he]; rfl
  have hbody : p.body = p.found := by rw [body, Encoding.skipMark_of_bytes hdec, ite_self]
  have htext : p.text = (p.found.take n).map Encoding.charOfByte := by
    rw [text, hreach, hbody, Encoding.decode_of_bytes hdec, List.map_take]
  refine ⟨htext, ?_⟩
  rw [bytes, mark, hbody, Nat.sub_self, List.take_zero, List.nil_append, htext,
    Encoding.unread_map hdec]

/-- A read that takes some text goes through some bytes. -/
theorem Divided.bytes_ne_nil {after : List Char} {others : List UInt8} (h : p.Divided after others)
    (htext : p.text ≠ []) : p.bytes ≠ [] := by
  intro hbytes
  have hexact := h.exact.cut.2.1
  rw [(List.append_eq_nil_iff.1 hbytes).2] at hexact
  exact htext hexact.eq_nil

theorem Divided.offset_ne_zero {after : List Char} {others : List UInt8} (h : p.Divided after others)
    (htext : p.text ≠ []) : p.offset + p.bytes.length ≠ 0 := by
  have hpos := List.length_pos_iff.2 (h.bytes_ne_nil htext)
  omega

/-- Where bytes are characters as they stand every read is of a text. -/
theorem legible_of_bytes (h : p.encoding = .latin1 ∨ p.encoding = .binary) : p.Legible := by
  refine ⟨p.body, [], (List.append_nil _).symm, ?_, .inl rfl⟩
  rcases h with h | h
  · rw [h]
    exact .latin1 _
  · rw [h]
    exact .binary _

end Tile

end ScriptChannel
