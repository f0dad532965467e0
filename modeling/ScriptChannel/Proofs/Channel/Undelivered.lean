import ScriptChannel.Proofs.Channel.Clear

/-!
# What was not delivered

A stream that is a text is at any time what was delivered of it and what was not. Of the latter some
waits as characters, some in the decoder, some as bytes in the stages below, and the rest in the
device, in this order.
-/

namespace ScriptChannel

/-- What is behind the bytes in front of the marker begins with the marker. -/
theorem marker_of_rest {m b : UInt8} {bs rest : List UInt8} (h : bs = upToMarker m bs ++ b :: rest) :
    b = m := by
  by_cases hm : m = 0
  · rw [upToMarker, if_pos hm] at h
    exact absurd (List.self_eq_append_right.1 h) (List.cons_ne_nil b rest)
  · rw [upToMarker, if_neg hm] at h
    induction bs with
    | nil => simp at h
    | cons x xs ih =>
      by_cases hx : x = m
      · subst hx
        simp only [List.takeWhile_cons, bne_self_eq_false, Bool.false_eq_true, if_false,
          List.nil_append, List.cons.injEq] at h
        exact h.1.symm
      · apply ih
        simpa [hx] using h

namespace Encoding

/-- The mark in front of a stream is left out. -/
theorem exists_skipMark_utf8 (bs : List UInt8) :
    ∃ front, bs = front ++ Encoding.utf8.skipMark bs ∧
      (front = utf8Mark ∨ front = [] ∧ ¬ utf8Mark <+: bs) := by
  by_cases h : utf8Mark <+: bs
  · obtain ⟨rest, rfl⟩ := h
    refine ⟨utf8Mark, ?_, .inl rfl⟩
    rw [skipMark_utf8_of_marked]
  · exact ⟨[], by rw [skipMark_utf8_of_unmarked h]; rfl, .inr ⟨rfl, h⟩⟩

/-- What is left of a stream is read on as it is, unless all of it is left. -/
def resume (e : Encoding) (used bs : List UInt8) : List UInt8 :=
  if used = [] then e.skipMark bs else bs

theorem resume_of_bytes {e : Encoding} (he : e.decoder? = none) (used bs : List UInt8) :
    e.resume used bs = bs := by
  unfold resume
  rw [skipMark_of_bytes he]
  split <;> rfl

end Encoding

namespace Input

/-- The bytes that the decoder keeps. -/
def Decoding.half (d : Decoding) : List UInt8 := (d.decoder.map (·.pending)).getD []

namespace Chain
variable {δ : Type} [Transport δ] [StockedDevice δ]

/-- What was not delivered, as bytes: the characters that wait, what the decoder keeps, what waits
below, and what the device still has. -/
def undelivered (e : Encoding) (c : Chain) (d : δ) : List UInt8 :=
  e.unread c.decoded ++ c.decoding.half ++ c.rewind.ahead ++ c.readAhead.cache ++ c.cutoff.held ++
    RawStock.stock d

theorem undelivered_eq (e : Encoding) (c : Chain) (d : δ) :
    c.undelivered e d =
      e.unread c.decoded ++ (c.decoding.half ++ Stocked.stock (c.lower d)) := by
  simp [undelivered, Stocked.stock, Rewind.stock, ReadAhead.stock, Cutoff.stock, lower]

section Bytes
variable {e : Encoding} {stream : List UInt8} {m : UInt8} {told : List Char} {c : Chain} {d : δ}

/-- Where bytes are characters as they stand. -/
theorem Tallied.position_of_bytes (he : e.decoder? = none)
    (h : c.Tallied (.fresh e stream m) told d) :
    c.decoding.decoder = none ∧ (∀ x ∈ told, Encoding.Narrow x) ∧
      stream = told.map Encoding.lowByte ++ c.undelivered e d := by
  obtain ⟨⟨used, bs, hacc⟩, -⟩ := h
  change Decoding.Account _ (told ++ c.lines.pending) used bs (c.decoding, c.lower d) at hacc
  obtain ⟨hdec, -, hspells⟩ := (Decoding.spells_of_none (k := .fresh e stream m) he).1 hacc.spells
  dsimp only at hdec hspells
  rw [List.append_assoc] at hspells
  change told ++ c.decoded = _ at hspells
  have hused : bs = used := by
    have hbody : (Decoding.Course.fresh e stream m).body = upToMarker m stream :=
      Encoding.skipMark_of_bytes he _
    have hm : e.markedCharset? = none := by
      cases e with
      | charset => simp [Encoding.decoder?] at he
      | binary | latin1 => rfl
    have hent : c.decoding.entering (ByteStream.coming (c.lower d)) = ByteStream.coming (c.lower d) := by
      simp [Decoding.entering, show c.decoding.encoding = e from hacc.encoding, hm]
    have hbehind := hacc.behind
    rw [hbody, hent, show upToMarker m stream = _ from hacc.spent.coming] at hbehind
    exact (List.append_cancel_right hbehind).symm
  subst hused
  have hnarrow : ∀ x ∈ told ++ c.decoded, Encoding.Narrow x := by
    intro x hx
    rw [hspells] at hx
    obtain ⟨b, -, rfl⟩ := List.mem_map.1 hx
    exact Encoding.narrow_charOfByte b
  have hbs : bs = told.map Encoding.lowByte ++ c.decoded.map Encoding.lowByte := by
    rw [← List.map_append, hspells, Encoding.map_lowByte_charOfByte]
  refine ⟨hdec, fun x hx => hnarrow x (List.mem_append_left _ hx), ?_⟩
  have hunread : e.unread c.decoded = c.decoded.map Encoding.lowByte :=
    Encoding.unread_of_narrow he fun x hx => hnarrow x (List.mem_append_right _ hx)
  have hhalf : c.decoding.half = [] := by simp [Decoding.half, hdec]
  have hstock : stream = bs ++ Stocked.stock (c.lower d) := hacc.spent.stock
  rw [undelivered_eq, hunread, hhalf, List.nil_append, ← List.append_assoc, ← hbs]
  exact hstock

end Bytes

section Utf8
open Charset

/-- How the input side stands in a stream of UTF-8: behind the mark, the text that was delivered and
the characters that wait. The rest begins with what the decoder keeps. -/
structure Stance (stream : List UInt8) (told : List Char) (front : List UInt8) (rest : List Char)
    (c : Chain) (d : δ) : Prop where
  parts : stream = front ++ Utf8.bytes told ++ (Utf8.bytes c.decoded ++ Utf8.bytes rest)
  cut : Utf8.Cut [] rest c.decoding.half c.decoding.half (Stocked.stock (c.lower d))
  decoder : c.decoding.finished = false → c.decoding.decoder = some (Utf8.holding c.decoding.half)
  finished : c.decoding.finished = true → c.decoding.half = []
  start : c.decoding.atStart = true →
    front = [] ∧ told = [] ∧ c.decoded = [] ∧ c.decoding.half = []
  front : front = Encoding.utf8Mark ∨
    front = [] ∧ (c.decoding.atStart = true ∨ ¬ Encoding.utf8Mark <+: stream)

variable {stream : List UInt8} {m : UInt8} {told : List Char} {c : Chain} {d : δ}

/-- The mark has no ASCII marker in it. -/
theorem mark_of_mark_upToMarker (hm : m.toNat < 0x80)
    (h : ¬ Encoding.utf8Mark <+: upToMarker m stream) : ¬ Encoding.utf8Mark <+: stream := by
  rintro ⟨rest, rfl⟩
  apply h
  have hfree : m ∉ Encoding.utf8Mark := by
    intro hmem
    simp only [Encoding.utf8Mark, List.mem_cons, List.not_mem_nil, or_false] at hmem
    rcases hmem with rfl | rfl | rfl <;> exact absurd hm (by decide)
  rw [upToMarker_append_of_free (.inr hfree)]
  exact List.prefix_append _ _

/-- Bytes up to an end or an ASCII marker do not stop inside a character. -/
theorem half_of_upToMarker (hm : m.toNat < 0x80) {as rest : List Char} {half bs left : List UInt8}
    (hcut : Utf8.Cut as rest half bs left) (h : stream = upToMarker m stream ++ left) : half = [] := by
  cases hcut with
  | between => rfl
  | inside x xs _ q hp hq hx =>
    cases q with
    | nil => exact absurd rfl hq
    | cons b q =>
      have htrail := Utf8.isTrail_of_cut hx hp b (List.mem_cons_self ..)
      obtain rfl : b = m := marker_of_rest h
      exact absurd htrail.1 (Nat.not_le.2 hm)

section Account
variable {cs : List Char} {used bs : List UInt8}
  (hacc : Decoding.Account (.fresh .utf8 stream m) (told ++ c.lines.pending) used bs
    (c.decoding, c.lower d))
include hacc

/-- Before anything was read over nothing was delivered, and nothing waits. -/
theorem stance_of_atStart (hstart : c.decoding.atStart = true) (hv : Utf8.bytes cs = stream) :
    Stance stream told [] cs c d := by
  have hk : (Decoding.Course.fresh .utf8 stream m).decoder = some (Utf8.holding []) := rfl
  have hstock : stream = used ++ Stocked.stock (c.lower d) := hacc.spent.stock
  obtain ⟨hd, rfl, rfl⟩ := hacc.fresh hstart
  change c.decoding = .init .utf8 at hd
  have hspells := ((Decoding.spells_of_unfinished hk (by simp [hd, Decoding.init])).1 hacc.spells).2
  dsimp only at hspells
  rw [List.append_assoc] at hspells
  obtain ⟨htold, hdecoded⟩ := List.append_eq_nil_iff.1 hspells
  change c.decoded = [] at hdecoded
  have hhalf : c.decoding.half = [] := by
    rw [hd]
    rfl
  rw [List.nil_append] at hstock
  refine ⟨?_, ?_, ?_, fun _ => hhalf, fun _ => ⟨rfl, htold, hdecoded, hhalf⟩, ?_⟩
  · simp [htold, hdecoded, hv]
  · rw [hhalf, ← hstock, ← hv]
    exact .between [] cs
  · intro _
    rw [hhalf, hd]
    rfl
  · exact .inr ⟨rfl, .inl hstart⟩

/-- Later on the bytes used are a mark, if there is one, and those that were decoded. -/
theorem exists_front (hstart : c.decoding.atStart = false) :
    ∃ front, used = front ++ bs ∧ (front = Encoding.utf8Mark ∨
      front = [] ∧ ¬ Encoding.utf8Mark <+: upToMarker m stream) := by
  have hbehind : Encoding.utf8.skipMark (upToMarker m stream) =
      bs ++ (c.decoding.entering (ByteStream.coming (c.lower d))).units := hacc.behind
  rw [Decoding.entering_of_atStart hstart] at hbehind
  obtain ⟨front, hsplit, hfront⟩ := Encoding.exists_skipMark_utf8 (upToMarker m stream)
  have hcoming : upToMarker m stream = used ++ (ByteStream.coming (c.lower d)).units :=
    hacc.spent.coming
  rw [hbehind, hcoming, ← List.append_assoc] at hsplit
  exact ⟨front, List.append_cancel_right hsplit, hfront⟩

/-- Where the stream is cut in a character, the decoder keeps the beginning of it, and the characters
in front of it were delivered or wait. -/
theorem decoded_of_cut {as rest : List Char} {half left : List UInt8}
    (hcut : Utf8.Cut as rest half bs left) (hwhole : c.decoding.finished = true → half = []) :
    c.decoding.half = half ∧ told ++ c.decoded = as ∧
      (c.decoding.finished = false → c.decoding.decoder = some (Utf8.holding half)) := by
  have hk : (Decoding.Course.fresh .utf8 stream m).decoder = some (Utf8.holding []) := rfl
  have hfeed := hcut.feed
  by_cases hf : c.decoding.finished = true
  · obtain ⟨hdec, htext⟩ := (Decoding.spells_of_finished hk hf).1 hacc.spells
    dsimp only at hdec htext
    rw [hfeed] at hdec htext
    rw [hwhole hf] at htext ⊢
    refine ⟨by rw [Decoding.half, hdec]; rfl, ?_, fun hn => by simp [hf] at hn⟩
    rw [List.append_assoc, Utf8.finish_holding, if_pos rfl, List.append_nil] at htext
    exact htext
  · obtain ⟨hdec, htext⟩ :=
      (Decoding.spells_of_unfinished hk (Bool.eq_false_iff.2 hf)).1 hacc.spells
    dsimp only at hdec htext
    rw [hfeed] at hdec htext
    refine ⟨by rw [Decoding.half, hdec]; rfl, ?_, fun _ => hdec⟩
    rw [List.append_assoc] at htext
    exact htext

end Account

theorem Tallied.stance (h : c.Tallied (.fresh .utf8 stream m) told d) {cs : List Char}
    (hv : Utf8.bytes cs = stream) (hm : m.toNat < 0x80) :
    ∃ front rest, Stance stream told front rest c d := by
  obtain ⟨⟨used, bs, hacc⟩, -⟩ := h
  change Decoding.Account _ (told ++ c.lines.pending) used bs (c.decoding, c.lower d) at hacc
  have hstock : stream = used ++ Stocked.stock (c.lower d) := hacc.spent.stock
  by_cases hstart : c.decoding.atStart = true
  · exact ⟨[], cs, stance_of_atStart hacc hstart hv⟩
  · obtain ⟨front, hused, hfront⟩ := exists_front hacc (Bool.eq_false_iff.2 hstart)
    rw [hused, List.append_assoc] at hstock
    -- behind the mark there is a text
    obtain ⟨es, hes⟩ : ∃ es, bs ++ Stocked.stock (c.lower d) = Utf8.bytes es := by
      rcases hfront with rfl | ⟨rfl, -⟩
      · rw [← Encoding.bytes_feff, ← hv] at hstock
        obtain ⟨es, -, hes⟩ := Utf8.exists_of_append hstock
        exact ⟨es, hes⟩
      · exact ⟨cs, by rw [hv, hstock]; rfl⟩
    obtain ⟨as, rest, half, -, hcut⟩ := Utf8.exists_cut hes.symm
    have hwhole : c.decoding.finished = true → half = [] := by
      intro hf
      have hall : used = upToMarker m stream := hacc.ended hf
      apply half_of_upToMarker hm hcut
      rw [← hall, hused, List.append_assoc]
      exact hstock
    obtain ⟨hhalf, htext, hdec⟩ := decoded_of_cut hacc hcut hwhole
    refine ⟨front, rest, ?_, ?_, ?_, ?_, fun ht => absurd ht hstart, ?_⟩
    · rw [hstock, hcut.used, List.append_assoc, hcut.left, ← htext, Utf8.bytes_append]
      simp only [List.append_assoc]
    · rw [hhalf]
      exact hcut.behind
    · rw [hhalf]
      exact hdec
    · rw [hhalf]
      exact hwhole
    · rcases hfront with rfl | ⟨rfl, hnone⟩
      · exact .inl rfl
      · exact .inr ⟨rfl, .inr (mark_of_mark_upToMarker hm hnone)⟩

namespace Stance
variable {front : List UInt8} {rest : List Char} (h : Stance stream told front rest c d)
include h

theorem undelivered : c.undelivered .utf8 d = Utf8.bytes c.decoded ++ Utf8.bytes rest := by
  rw [undelivered_eq, Encoding.unread_utf8, h.cut.left]

theorem decode_used : Encoding.utf8.decode (Encoding.utf8.skipMark (front ++ Utf8.bytes told)) = told := by
  have hplain : Encoding.utf8.decode (Utf8.bytes told) = told := Utf8.readFrom_bytes told
  rcases h.front with rfl | ⟨rfl, hstart | hnone⟩
  · rw [Encoding.skipMark_utf8_of_marked, hplain]
  · rw [(h.start hstart).2.1]
    rfl
  · have hunmarked : ¬ Encoding.utf8Mark <+: [] ++ Utf8.bytes told := by
      intro hmark
      apply hnone
      rw [h.parts]
      exact hmark.trans (List.prefix_append _ _)
    rw [Encoding.skipMark_utf8_of_unmarked hunmarked]
    exact hplain

theorem resume {bs : List UInt8} (hbs : bs <+: c.undelivered .utf8 d) :
    Encoding.utf8.resume (front ++ Utf8.bytes told) bs =
      if c.decoding.atStart then Encoding.utf8.skipMark bs else bs := by
  unfold Encoding.resume
  by_cases hstart : c.decoding.atStart = true
  · obtain ⟨hfront, htold, -⟩ := h.start hstart
    rw [if_pos hstart, if_pos (by simp [hfront, htold])]
  · rw [if_neg hstart]
    by_cases hused : front ++ Utf8.bytes told = []
    · -- nothing was read over, and there is no mark to be found
      rw [if_pos hused]
      apply Encoding.skipMark_utf8_of_unmarked
      intro hmark
      rcases h.front with rfl | ⟨-, hs | hnone⟩
      · simp [Encoding.utf8Mark] at hused
      · exact hstart hs
      · apply hnone
        rw [h.parts, hused, List.nil_append, ← h.undelivered]
        exact hmark.trans hbs
    · rw [if_neg hused]

end Stance

end Utf8

/-- Of a stream that is a text something has been delivered, and the rest is what was not. -/
theorem Tallied.position {e : Encoding} {stream : List UInt8} {m : UInt8} {told : List Char}
    {c : Chain} {d : δ} (h : c.Tallied (.fresh e stream m) told d) (hv : e.Valid stream)
    (hm : e.Spares m) :
    ∃ used, stream = used ++ c.undelivered e d ∧ e.decode (e.skipMark used) = told ∧
      ∀ bs, bs <+: c.undelivered e d →
        e.resume used bs = if c.decoding.atStart then e.skipMark bs else bs := by
  have hbytes : e.decoder? = none → ∃ used, stream = used ++ c.undelivered e d ∧
      e.decode (e.skipMark used) = told ∧ ∀ bs, bs <+: c.undelivered e d →
        e.resume used bs = if c.decoding.atStart then e.skipMark bs else bs := by
    intro he
    obtain ⟨-, hnarrow, hstream⟩ := h.position_of_bytes he
    refine ⟨told.map Encoding.lowByte, hstream, ?_, fun bs _ => ?_⟩
    · rw [Encoding.skipMark_of_bytes he, Encoding.decode_of_bytes he,
        Encoding.map_charOfByte_lowByte hnarrow]
    · rw [Encoding.resume_of_bytes he, Encoding.skipMark_of_bytes he, ite_self]
  cases hv with
  | binary | latin1 => exact hbytes rfl
  | utf8 cs =>
    obtain ⟨front, rest, hstance⟩ := h.stance rfl (hm rfl)
    refine ⟨front ++ Charset.Utf8.bytes told, ?_, hstance.decode_used, fun bs hbs => hstance.resume hbs⟩
    rw [hstance.undelivered]
    exact hstance.parts

end Chain

end Input

end ScriptChannel
