import ScriptChannel.Proofs.Channel.Undelivered
import ScriptChannel.Proofs.Charset.Apart

/-!
# Where a decoding stands in its stream

Of bytes that spell a text character by character it is known at any time how many have been used:
those of the characters handed up and of the surplus, and the beginning of one more that the decoder
keeps. Where a character takes a byte at least for each that is asked for, a fetch that brings all it
was asked for leaves no such beginning.
-/

namespace ScriptChannel

namespace Encoding

theorem unread_utf16 (order : Charset.Utf16.ByteOrder) (cs : List Char) :
    (Encoding.charset (.utf16 order)).unread cs = Charset.Utf16.bytes order cs := by
  have hfeed : (Charset.utf16 order).encoder.feed (Encoding.charset (.utf16 order)).substitute cs =
      (Charset.Utf16.bytes order cs, (Charset.utf16 order).encoder) :=
    Charset.Encoder.feed_eq_flatMap rfl (fun _ => rfl) cs
  change ((Charset.utf16 order).encoder.feed _ cs).1 ++
    ((Charset.utf16 order).encoder.feed _ cs).2.finish.1 = _
  rw [hfeed]
  exact List.append_nil _

/-- These bytes stand for the text, each character by bytes of its own. -/
inductive Exact (e : Encoding) : List Char → List UInt8 → Prop
  | narrow (he : e.decoder? = none) (bs : List UInt8) : Exact e (bs.map charOfByte) bs
  | spelled {c : Charset} {spell : Char → List UInt8} (he : e = .charset c) (hs : c.SpellsBy spell)
      (hu : ∀ cs, e.unread cs = cs.flatMap spell) (text : List Char) :
      Exact e text (text.flatMap spell)

section Exact
variable {e : Encoding} {text before behind : List Char} {bs : List UInt8}

theorem unread_map (he : e.decoder? = none) (bs : List UInt8) :
    e.unread (bs.map charOfByte) = bs := by
  rw [unread_of_narrow he, map_lowByte_charOfByte]
  intro c hc
  obtain ⟨b, -, rfl⟩ := List.mem_map.1 hc
  exact narrow_charOfByte b

theorem Exact.unread (h : e.Exact text bs) : e.unread text = bs := by
  cases h with
  | narrow he => exact unread_map he bs
  | spelled he hs hu => exact hu text

/-- Cut between two characters, both parts are spelled in the same way. -/
theorem Exact.cut (h : e.Exact (before ++ behind) bs) :
    bs = e.unread before ++ e.unread behind ∧ e.Exact before (e.unread before) ∧
      e.Exact behind (e.unread behind) := by
  generalize hall : before ++ behind = text at h
  cases h with
  | narrow he =>
    obtain ⟨us, vs, rfl, rfl, rfl⟩ := List.map_eq_append_iff.1 hall.symm
    rw [unread_map he, unread_map he]
    exact ⟨rfl, .narrow he us, .narrow he vs⟩
  | spelled he hs hu =>
    rw [hu, hu, ← hall, List.flatMap_append]
    exact ⟨rfl, .spelled he hs hu before, .spelled he hs hu behind⟩

/-- In front of a cut the bytes of two pieces are those of the one and of the other. -/
theorem Exact.unread_append {first second : List Char} (h : e.Exact (before ++ behind) bs)
    (hcut : first ++ second = before) : e.unread before = e.unread first ++ e.unread second := by
  have hbefore := h.cut.2.1
  rw [← hcut] at hbefore ⊢
  exact hbefore.cut.1

/-- No character is spelled by nothing. -/
theorem Exact.eq_nil (h : e.Exact text []) : text = [] := by
  generalize hbs : ([] : List UInt8) = bs at h
  cases h with
  | narrow => rw [← hbs, List.map_nil]
  | spelled he hs =>
    cases text with
    | nil => rfl
    | cons x xs =>
      rw [List.flatMap_cons] at hbs
      exact absurd (List.append_eq_nil_iff.1 hbs.symm).1 (hs.ne_nil x)

end Exact

end Encoding

namespace Input.Decoding

/-- A course that is decoded from its beginning on, along bytes that spell a text. -/
structure Course.Plain (k : Course) (text : List Char) : Prop where
  exact : k.encoding.Exact text k.body
  decoder : k.decoder = k.encoding.decoder?

/-- All characters of such a course are the text. -/
theorem Course.Plain.text_eq {k : Course} {text : List Char} (h : k.Plain text) : k.text = text := by
  obtain ⟨hx, hdec⟩ := h
  unfold Course.text
  generalize k.body = bs at hx
  cases hx with
  | narrow he =>
    rw [hdec, he]
  | @spelled c _ he hs =>
    have hk : k.decoder = some (c.keeping []) := by
      rw [hdec, he]
      rfl
    rw [hk]
    dsimp only
    rw [hs.feed_text, hs.finish, List.append_nil]

variable {σ : Type} [ByteSource σ] [ByteStream σ] [Stocked σ]

/-- The decoding has handed up so many characters of the text and used so many bytes for them and
for what it keeps. Before it has begun it has used none. -/
structure Placed (k : Course) (text handed : List Char) (used : List UInt8)
    (s : Decoding × Rewind × σ) : Prop where
  spent : Spent k.stream k.marker used s.2
  begins : handed ++ s.1.surplus <+: text
  start : s.1.atStart = true → used = [] ∧ handed = [] ∧ s.1.surplus = [] ∧ s.1.half = []
  bytes : s.1.atStart = false → ∀ front, upToMarker k.marker k.stream = front ++ k.body →
    used = front ++ k.encoding.unread (handed ++ s.1.surplus) ++ s.1.half
  finished : s.1.finished = true → s.1.half = []

variable {k : Course} {text cs : List Char} {s : Decoding × Rewind × σ}

/-- How the bytes used so far are cut, and that the decoder keeps what is cut off. -/
theorem Spells.parts {d : Decoding} {c : Charset} {spell : Char → List UInt8}
    (hs : c.SpellsBy spell) (hk : k.decoder = some (c.keeping [])) {bs more : List UInt8}
    (h : Spells k bs (cs ++ d.surplus) d) (hbody : text.flatMap spell = bs ++ more)
    (hend : d.finished = true → more = []) :
    ∃ behind, Charset.Parts spell text bs more (cs ++ d.surplus) behind d.half ∧
      (d.finished = false → d.decoder = some (c.keeping d.half)) ∧
      (d.finished = true → d.half = []) := by
  obtain ⟨before, behind, half, hparts⟩ := Charset.exists_parts hbody
  have hfeed := hs.feed hparts
  by_cases hf : d.finished = true
  · obtain ⟨hdec, htext⟩ := (spells_of_finished hk hf).1 h
    rw [hend hf] at hparts
    obtain rfl := hparts.half_of_end
    rw [hfeed, hs.finish] at hdec htext
    have hhalf : d.half = [] := by
      rw [half, hdec]
      rfl
    dsimp only at htext
    rw [List.append_nil] at htext
    rw [htext, hhalf, hend hf]
    exact ⟨behind, hparts, fun hn => by simp [hf] at hn, fun _ => rfl⟩
  · have hf := Bool.eq_false_iff.2 hf
    obtain ⟨hdec, htext⟩ := (spells_of_unfinished hk hf).1 h
    rw [hfeed] at hdec htext
    have hhalf : d.half = half := by
      rw [Decoding.half, hdec]
      rfl
    rw [htext, hhalf]
    exact ⟨behind, hparts, fun _ => hdec, fun hn => by simp [hf] at hn⟩

/-- A decoding that has not begun has handed up nothing. -/
theorem Account.nothing {used bs : List UInt8} (h : Account k cs used bs s)
    (hstart : s.1.atStart = true) : cs ++ s.1.surplus = [] := by
  obtain ⟨hd, rfl, rfl⟩ := h.fresh hstart
  have hspells := h.spells
  cases hk : k.decoder with
  | none => simpa using ((spells_of_none hk).1 hspells).2.2
  | some state => exact ((spells_of_unfinished hk (by simp [hd, init])).1 hspells).2

/-- A decoding along bytes that spell a text has a place among them. -/
theorem Handed.placed (hp : k.Plain text) (h : Handed k cs s) : ∃ used, Placed k text cs used s := by
  obtain ⟨used, bs, hacc⟩ := h
  refine ⟨used, ?_⟩
  obtain ⟨hx, hdec⟩ := hp
  by_cases hstart : s.1.atStart = true
  · have hnone := hacc.nothing hstart
    obtain ⟨hd, rfl, rfl⟩ := hacc.fresh hstart
    obtain ⟨hcs, hsur⟩ := List.append_eq_nil_iff.1 hnone
    have hhalf : s.1.half = [] := by
      rw [hd, half, init]
      cases k.encoding <;> rfl
    refine ⟨hacc.spent, ?_, fun _ => ⟨rfl, hcs, hsur, hhalf⟩, fun hn => by simp [hstart] at hn,
      fun _ => hhalf⟩
    rw [hnone]
    exact List.nil_prefix
  · have hstart := Bool.eq_false_iff.2 hstart
    have hbehind := hacc.behind
    rw [entering_of_atStart hstart] at hbehind
    -- what was used are the mark and the bytes behind it
    have hused : ∀ front, upToMarker k.marker k.stream = front ++ k.body → used = front ++ bs := by
      intro front hfront
      rw [hbehind, hacc.spent.coming, ← List.append_assoc] at hfront
      exact List.append_cancel_right hfront
    have hmade : cs ++ s.1.surplus <+: text ∧
        bs = k.encoding.unread (cs ++ s.1.surplus) ++ s.1.half ∧
        (s.1.finished = true → s.1.half = []) := by
      generalize hbody : k.body = body at hx
      cases hx with
      | narrow he =>
        obtain ⟨hnone, -, hspells⟩ := (spells_of_none (hdec.trans he)).1 hacc.spells
        have hhalf : s.1.half = [] := by simp [half, hnone]
        rw [hspells, hhalf, Encoding.unread_map he, List.append_nil, ← hbody, hbehind, List.map_append]
        exact ⟨List.prefix_append _ _, rfl, fun _ => rfl⟩
      | @spelled c spell he hs hu =>
        have hk : k.decoder = some (c.keeping []) := by
          rw [hdec, he]
          rfl
        rw [hbehind] at hbody
        obtain ⟨behind, hparts, -, hfin⟩ := Spells.parts hs hk hacc.spells hbody.symm fun hf => by
          have hall := hacc.body_of_finished hf
          rw [hbehind] at hall
          exact List.append_right_eq_self.1 hall
        rw [hu]
        exact ⟨⟨behind, hparts.all.symm⟩, hparts.used, hfin⟩
    obtain ⟨hbegins, hbytes, hfin⟩ := hmade
    refine ⟨hacc.spent, hbegins, fun hn => by simp [hstart] at hn, fun _ front hfront => ?_, hfin⟩
    rw [hused front hfront, hbytes, List.append_assoc]

section Tidy
variable [Settled σ] {n : Nat}

omit [Settled σ] in
/-- Where bytes are characters as they stand nothing is left over. -/
theorem Handed.tidy (hk : k.decoder = none) (h : Handed k cs s) :
    s.1.surplus = [] ∧ s.1.half = [] := by
  obtain ⟨used, bs, hacc⟩ := h
  obtain ⟨hdec, hsur, -⟩ := (spells_of_none hk).1 hacc.spells
  exact ⟨hsur, by simp [half, hdec]⟩

section Spelled
variable {c : Charset} {spell : Char → List UInt8} (hs : c.SpellsBy spell)
  (hk : k.decoder = some (c.keeping [])) (hbody : k.body = text.flatMap spell)
include hs hk hbody

omit [Settled σ] in
/-- How the bytes used are cut as long as more are to come. -/
theorem Account.parts {d : Decoding} {s : Rewind × σ} {used bs : List UInt8}
    (h : Account k cs used bs (d, s)) (ha : d.atStart = false) (hf : d.finished = false) :
    ∃ behind, Charset.Parts spell text bs (ByteStream.coming s).units (cs ++ d.surplus) behind d.half ∧
      d.decoder = some (c.keeping d.half) := by
  have hbehind := h.behind
  rw [entering_of_atStart ha, hbody] at hbehind
  obtain ⟨behind, hparts, hdec, -⟩ :=
    Spells.parts hs hk h.spells hbehind fun hend => absurd (hf.symm.trans hend) (by decide)
  exact ⟨behind, hparts, hdec hf⟩

omit [Settled σ] in
/-- No more bytes than characters are wanted leave no surplus, and the beginning of a character only
if they bring fewer. -/
theorem decode_tidy {d : Decoding} {s s' : Rewind × σ} {used bs us : List UInt8}
    (h : Account k cs used bs (d, s)) (hw : d.Waiting) (ha : d.atStart = false)
    (hspent : Spent k.stream k.marker (used ++ us) s') (hlen : us.length ≤ n) :
    (d.decode n us).2.surplus = [] ∧ ((d.decode n us).1 ≠ [] →
      (d.decode n us).2.half = [] ∨ (d.decode n us).1.length < n) := by
  obtain ⟨behind, hparts, hdec⟩ := h.parts hs hk hbody ha hw.2
  have hnext := h.decode hk hw ha hspent n
  rw [decode_of_some hdec] at hnext ⊢
  obtain ⟨behind', hparts', -⟩ := hnext.parts hs hk hbody ha hw.2
  generalize (c.keeping d.half).feed us = r at hnext hparts' ⊢
  simp only [hw.1, List.nil_append, List.append_nil, List.append_assoc, List.take_append_drop]
    at hparts hparts' ⊢
  by_cases hnew : r.1 = []
  · simp [hnew]
  · have hcount := hparts.length_le hs hparts' hnew
    have hfit : r.1.length ≤ n := by omega
    refine ⟨List.drop_eq_nil_of_le hfit, fun _ => ?_⟩
    rw [List.take_of_length_le hfit]
    rcases Nat.eq_zero_or_pos r.1.length with hzero | hpos
    · exact absurd (List.length_eq_zero_iff.1 hzero) hnew
    · by_cases hlt : r.1.length < n
      · exact .inr hlt
      · exact .inl (List.length_eq_zero_iff.1 (by omega))

/-- One request for bytes leaves no surplus, and the beginning of a character only if it brings
fewer than were asked for. -/
theorem advance_tidy (hn : 0 < n) (hunit : k.encoding.bytesPerChar = 1) (h : Handed k cs s)
    (hw : s.1.Waiting) (ha : s.1.atStart = false) :
    let r := advance n s
    r.2.1.surplus = [] ∧ ∀ us, r.1 = some (.got us) → r.2.1.half = [] ∨ us.length < n := by
  obtain ⟨d, s⟩ := s
  obtain ⟨used, bs, hacc⟩ := h
  have hbytes : d.bytesFor n ≤ n := by
    simp only [bytesFor, show d.encoding = k.encoding from hacc.encoding, hunit]
    omega
  have htakes := ByteStream.fetch_takes (d.bytesFor n) s (d.bytesFor_pos n)
  obtain ⟨hspent, hend, -⟩ := hacc.spent.fetch (d.bytesFor_pos n)
  simp only [advance]
  rcases hf : ByteSource.fetch (d.bytesFor n) s with ⟨us | _ | _ | error, s'⟩
  all_goals rw [hf] at hspent hend htakes
  · obtain ⟨-, hlen, -⟩ := htakes
    obtain ⟨hsur, htidy⟩ := decode_tidy hs hk hbody hacc hw ha hspent (Nat.le_trans hlen hbytes)
    refine ⟨hsur, fun vs hvs => ?_⟩
    by_cases hnone : (d.decode n us).1 = []
    · simp [hnone] at hvs
    · have hgot : some (Fetch.got (d.decode n us).1) = some (Fetch.got vs) := by simpa [hnone] using hvs
      cases hgot
      exact htidy hnone
  · exact ⟨hw.1, by simp⟩
  · -- at the end nothing is cut off, and there is nothing to finish
    obtain ⟨behind, hparts, hdec⟩ := hacc.parts hs hk hbody ha hw.2
    have hnil : (ByteStream.coming s).units = [] := by
      have hall := hacc.spent.coming
      rw [hend rfl] at hall
      exact List.self_eq_append_right.1 hall
    rw [hnil] at hparts
    rw [hparts.half_of_end] at hdec
    dsimp only
    rw [finish_of_some hdec, hs.finish]
    simp [show d.surplus = [] from hw.1]
  · exact ⟨hw.1, by simp⟩

/-- So does a fetch that looks for no mark, which is requests for bytes until one brings something. -/
theorem fetchPlain_tidy (he : k.encoding = .charset c) (hn : 0 < n)
    (hunit : k.encoding.bytesPerChar = 1) (h : Handed k cs s) (hw : s.1.Waiting)
    (ha : s.1.atStart = false) :
    let r := fetchPlain n s
    r.2.1.surplus = [] ∧ ∀ us, r.1 = .got us → r.2.1.half = [] ∨ us.length < n := by
  have henc : s.1.encoding = .charset c := by
    obtain ⟨used, bs, hacc⟩ := h
    exact hacc.encoding.trans he
  obtain ⟨s', h', hw', ha', hr⟩ := fetchText_last hn hk h hw ha
  obtain ⟨hsur', htidy⟩ := advance_tidy hs hk hbody hn hunit h' hw' ha'
  simp only [fetchPlain, henc, hr]
  refine ⟨hsur', fun us hus => ?_⟩
  cases hq : (advance n s').1 with
  | none => simp [hq] at hus
  | some f =>
    rw [hq, Option.getD_some] at hus
    exact htidy us (by rw [hq, hus])

end Spelled

/-- A fetch of characters of a byte at least leaves no surplus, and the beginning of a character only
if it brings fewer than were asked for. -/
theorem fetch_tidy (hn : 0 < n) (hp : k.Plain text) (hunit : k.encoding.bytesPerChar = 1)
    (h : Handed k cs s) (hsur : s.1.surplus = []) :
    let r := fetch n s
    r.2.1.surplus = [] ∧ ∀ us, r.1 = .got us → r.2.1.half = [] ∨ us.length < n := by
  obtain ⟨hx, hdec⟩ := hp
  generalize hbody : k.body = body at hx
  cases hx with
  | narrow he =>
    obtain ⟨hsur', hhalf⟩ := (fetch_handed hn h).adds.tidy (hdec.trans he)
    exact ⟨hsur', fun _ _ => .inl hhalf⟩
  | @spelled c spell he hs hu =>
    have hk : k.decoder = some (c.keeping []) := by
      rw [hdec, he]
      rfl
    obtain ⟨d, s⟩ := s
    dsimp only at hsur
    simp only [fetch]
    rw [if_neg (Nat.pos_iff_ne_zero.1 hn), if_neg (by simp [hsur])]
    by_cases hf : d.finished = true
    · rw [if_pos hf]
      exact ⟨hsur, by simp⟩
    · rw [if_neg hf]
      have hw : d.Waiting := ⟨hsur, Bool.eq_false_iff.2 hf⟩
      by_cases ha : d.atStart = true
      · rw [if_pos ha]
        obtain ⟨hnext, hdis, hsome⟩ := skipMark_handed h ha
        rcases hq : skipMark (d, s) with ⟨_ | f, d', s'⟩
        · rw [hq] at hnext hdis
          obtain rfl : d' = d.disarm := hdis rfl
          exact fetchPlain_tidy hs hk hbody he hn hunit hnext hw rfl
        · have hsame := skipMark_surplus (d, s)
          rw [hq] at hsome hsame
          obtain rfl := hsome f rfl
          exact ⟨hsame.trans hsur, by simp⟩
      · rw [if_neg ha]
        exact fetchPlain_tidy hs hk hbody he hn hunit h hw (Bool.eq_false_iff.2 ha)

end Tidy

end Input.Decoding

end ScriptChannel
