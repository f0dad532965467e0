import ScriptChannel.Channel.Position
import ScriptChannel.Proofs.Channel.Clear
import ScriptChannel.Proofs.Channel.Closing
import ScriptChannel.Proofs.Input.Paging
import ScriptChannel.Proofs.Page

/-!
# A channel at a bookmark

A channel over a memory stands at a bookmark in the text of that memory. Its position is told by what
the memory has given and what the stages keep of it, which comes to the bytes in front of the
bookmark, but for the beginning of a character in the decoder. Where there is none the channel may be
sent to where it stands, and stands there.
-/

namespace ScriptChannel
open Transport Input

/-- How many bytes of a page lie in front of a bookmark. The mark does, once something was asked
for. -/
def Bookmark.position (e : Encoding) (mark : List UInt8) (begun : Bool) (b : Bookmark) : Nat :=
  if begun then mark.length + (e.unread b.taken).length else 0

namespace Channel

/-- The channel is on its way along a course that begins at a place of the page, behind this much of
its text. -/
structure Along (bs mark : List UInt8) (begun : Bool) (b : Bookmark) (ch : Channel Complete)
    (k : Decoding.Course) (before behind : List Char) (place : Nat) : Prop where
  encoding : k.encoding = ch.settings.encoding
  marker : k.marker = ch.settings.inputMarker
  stream : k.stream = bs.drop place
  within : place ≤ bs.length
  plain : k.Plain behind
  facing : Lines.At (Chain.telling k before behind place) 0 b.gathered (ch.chain.whole ch.device)
  front : ∃ front, upToMarker k.marker k.stream = front ++ k.body ∧
    place + front.length = mark.length + (k.encoding.unread before).length
  start : ch.chain.decoding.atStart = true → begun = true → mark = []
  begins : before <+: b.taken

/-- A channel of a reader who waits stands at a bookmark in the text of a page. -/
structure Stands (bs mark : List UInt8) (text : List Char) (begun : Bool) (b : Bookmark)
    (ch : Channel Complete) : Prop where
  readable : ch.Readable
  blocking : ch.settings.blocking = true
  pristine : Pristine bs ch.settings.inputMarker (ch.chain.cutoff, ch.device)
  translation : ch.chain.lines.translation = ch.settings.inputTranslation
  partialLine : ch.chain.lines.partialLine = b.aside
  aside : ch.settings.encoding.isBinary = false → b.aside = []
  ended : ch.ended = true → begun = true ∧ b.aside = [] ∧ b.left = []
  fresh : begun = false → ch.chain.decoding.atStart = true
  along : ∃ k before behind place, text = before ++ behind ∧
    Along bs mark begun b ch k before behind place

section Tell

variable {bs mark : List UInt8} {text : List Char} {begun : Bool} {b : Bookmark}
  {ch : Channel Complete}

/-- What the memory has given is what was used and what the lower stages keep. -/
theorem Along.readPos {k : Decoding.Course} {before behind : List Char} {place : Nat}
    (h : Along bs mark begun b ch k before behind place)
    (hpristine : Pristine bs ch.settings.inputMarker (ch.chain.cutoff, ch.device))
    {used : List UInt8} (hspent : Spent k.stream k.marker used (ch.chain.lower ch.device)) :
    ch.device.memory.readPos = place + used.length + ch.chain.rewind.ahead.length +
      ch.chain.readAhead.cache.length + ch.chain.cutoff.held.length := by
  have hstock := congrArg List.length hspent.stock
  have hrest : ch.device.rest.length = bs.length - ch.device.memory.readPos := by
    rw [Complete.rest, hpristine.bytes, List.length_drop]
  have hlower : (Stocked.stock (ch.chain.lower ch.device)).length =
      ch.chain.rewind.ahead.length + (ch.chain.readAhead.cache.length +
        (ch.chain.cutoff.held.length + ch.device.rest.length)) := by
    simp [Stocked.stock, Rewind.stock, ReadAhead.stock, Cutoff.stock, Chain.lower, RawStock.stock]
  have hwithin := hpristine.within
  dsimp only at hwithin
  have hplace := h.within
  rw [h.stream, List.length_drop, List.length_append, hlower, hrest] at hstock
  omega

/-- The bytes used are those in front of the bookmark, those of what was decoded and not delivered,
and the beginning of a character. -/
theorem Stands.counts {k : Decoding.Course} {before behind us : List Char} {place : Nat}
    {used : List UInt8}
    (hpage : Page ch.settings.encoding ch.settings.inputMarker bs mark (before ++ behind))
    (h : Stands bs mark (before ++ behind) begun b ch)
    (halong : Along bs mark begun b ch k before behind place)
    (hplaced : Decoding.Placed k behind us used (ch.chain.whole ch.device).2)
    (hus : b.gathered.taken ++ ch.chain.lines.ahead = before ++ us)
    (hfirst : ch.chain.decoding.atStart = true → place = 0 ∧ before = []) :
    place + used.length =
      b.position ch.settings.encoding mark begun + ch.chain.decoding.half.length +
        (ch.settings.encoding.unread ch.chain.decoded).length := by
  have hdecoded : ch.chain.decoded = b.aside ++ ch.chain.lines.ahead ++ ch.chain.decoding.surplus := by
    rw [Chain.decoded, Lines.pending, h.partialLine]
  have htaken : b.taken ++ (b.aside ++ ch.chain.lines.ahead) = before ++ us := by
    rw [← List.append_assoc]
    exact hus
  by_cases hstart : ch.chain.decoding.atStart = true
  · obtain ⟨rfl, rfl, hsur, hhalf⟩ := hplaced.start hstart
    obtain ⟨rfl, rfl⟩ := hfirst hstart
    obtain ⟨htaken, hrest⟩ := List.append_eq_nil_iff.1 htaken
    have hsur : ch.chain.decoding.surplus = [] := hsur
    have hhalf : ch.chain.decoding.half = [] := hhalf
    rw [hdecoded, hrest, hsur, hhalf, Bookmark.position, htaken]
    split
    · simp [halong.start hstart ‹_›]
    · simp
  · obtain ⟨front, hfront, hplace⟩ := halong.front
    have hused := hplaced.bytes (Bool.eq_false_iff.2 hstart) front hfront
    have hbegun : begun = true := by
      cases hb : begun with
      | true => rfl
      | false => exact absurd (h.fresh hb) hstart
    -- the characters decoded so far are cut in two places
    obtain ⟨rest, hrest⟩ := hplaced.begins
    have hexact := hpage.exact
    rw [← hrest, ← List.append_assoc before] at hexact
    have hdelivered : b.taken ++ (b.aside ++ ch.chain.lines.ahead ++ ch.chain.decoding.surplus) =
        before ++ (us ++ ch.chain.decoding.surplus) := by
      rw [← List.append_assoc, htaken, List.append_assoc]
    have hbefore := congrArg List.length
      (hexact.unread_append (rfl : before ++ (us ++ ch.chain.decoding.surplus) = _))
    have hbookmark := congrArg List.length (hexact.unread_append hdelivered)
    change (ch.settings.encoding.unread (before ++ (us ++ ch.chain.decoding.surplus))).length = _
      at hbefore hbookmark
    rw [halong.encoding] at hplace hused
    have hlen := congrArg List.length hused
    simp only [List.length_append] at hbefore hbookmark hlen
    rw [hdecoded, Bookmark.position, if_pos hbegun]
    change used.length = front.length +
      (ch.settings.encoding.unread (us ++ ch.chain.decoding.surplus)).length +
        ch.chain.decoding.half.length at hlen
    omega

/-- What the memory has given comes to the bytes in front of the bookmark, the beginning of a character
and the backlog. -/
theorem Stands.readPos (hpage : Page ch.settings.encoding ch.settings.inputMarker bs mark text)
    (h : Stands bs mark text begun b ch) :
    ch.device.memory.readPos =
      b.position ch.settings.encoding mark begun + ch.chain.decoding.half.length + ch.backlog := by
  obtain ⟨k, before, behind, place, rfl, halong⟩ := h.along
  obtain ⟨us, hus, hhanded, -, hfirst⟩ := halong.facing.below
  obtain ⟨used, hplaced⟩ := hhanded.placed halong.plain
  have hpos := halong.readPos h.pristine hplaced.spent
  have hcounts : place + used.length =
      b.position ch.settings.encoding mark begun + ch.chain.decoding.half.length +
        (ch.settings.encoding.unread ch.chain.decoded).length :=
    h.counts hpage halong hplaced hus hfirst
  rw [backlog_eq, Chain.backlog]
  omega

theorem Stands.device_position (h : Stands bs mark text begun b ch) :
    ch.device.memory.position = ch.device.memory.readPos := by
  rw [Memory.position, if_neg (by simp [show ch.device.memory.wroteLast = false from h.pristine.readLast])]

/-- The position is that of the bookmark, and the beginning of a character further on. -/
theorem Stands.tell (hpage : Page ch.settings.encoding ch.settings.inputMarker bs mark text)
    (hlen : 2 * bs.length < UInt64.size) (h : Stands bs mark text begun b ch) :
    ch.tell = .ok ((b.position ch.settings.encoding mark begun + ch.chain.decoding.half.length : Nat)) := by
  have hpos := h.readPos hpage
  have htell : Transport.tell ch.device = .ok (some ch.device.memory.readPos) := by
    rw [← h.device_position]
    rfl
  have hwithin := h.pristine.within
  dsimp only at hwithin
  have hbmod : Int.bmod (ch.device.memory.readPos : Nat) UInt64.size = ch.device.memory.readPos :=
    Int.bmod_eq_of_le (by simp) (by simp [UInt64.size] at hlen ⊢; omega)
  have hout : ch.bufferedOutput = 0 := by simp [bufferedOutput, h.readable.quiet]
  simp only [Channel.tell, checkOpen, h.readable.opened, htell, hbmod, hout, Bool.false_eq_true,
    if_false]
  refine congrArg Except.ok ?_
  clear hbmod htell
  push_cast
  omega

end Tell

section Clear
variable {bs mark : List UInt8} {text : List Char} {begun : Bool} {b : Bookmark}
  {ch : Channel Complete}

/-- The bytes behind a bookmark, as far as the decoding has them in front of it, are the text that is
left. -/
theorem body_of_clear {e : Encoding} {m : UInt8} {d : Decoding} {place : Nat}
    (hpage : Page e m bs mark text) (htext : text = b.taken ++ b.left) (henc : d.encoding = e)
    (hdec : d.decoder.isSome = d.encoding.decoder?.isSome)
    (hstart : d.atStart = true → place = 0 ∧ b.taken = [])
    (hplace : d.atStart = false → place = mark.length + (e.unread b.taken).length) :
    let k := Decoding.Course.of d hdec (bs.drop place) m
    e.Exact b.left k.body ∧ ∃ front, upToMarker m (bs.drop place) = front ++ k.body ∧
      place + front.length = mark.length + (e.unread b.taken).length := by
  have hupTo := hpage.upTo
  obtain ⟨hcut, -, hleft⟩ := (htext ▸ hpage.exact : e.Exact (b.taken ++ b.left) _).cut
  by_cases hs : d.atStart = true
  · obtain ⟨rfl, htaken⟩ := hstart hs
    rw [htaken, List.nil_append] at htext
    subst htext
    simp only [Decoding.Course.of, hs, if_true, List.drop_zero, henc, hpage.skip]
    exact ⟨hpage.exact, mark, hupTo, by simp [htaken]⟩
  · have hs := Bool.eq_false_iff.2 hs
    simp only [Decoding.Course.of, hs, Bool.false_eq_true, if_false]
    rw [← htext] at hcut
    rw [hcut, ← List.append_assoc] at hupTo
    have hdrop := upToMarker_drop hupTo
    rw [List.length_append, ← hplace hs] at hdrop
    rw [hdrop]
    exact ⟨hleft, [], rfl, by simp [hplace hs]⟩

/-- With nothing left over a channel stands where its memory is. -/
theorem stands_of_clear (hpage : Page ch.settings.encoding ch.settings.inputMarker bs mark text)
    (hr : ch.Readable) (hblocking : ch.settings.blocking = true) (hended : ch.ended = false)
    (hpristine : Pristine bs ch.settings.inputMarker (ch.chain.cutoff, ch.device))
    (hclear : ch.chain.Clear) (hheld : ch.chain.cutoff.held = [])
    (henc : ch.chain.decoding.encoding = ch.settings.encoding)
    (hdec : ch.chain.decoding.decoder = ch.settings.encoding.decoder?)
    (htranslation : ch.chain.lines.translation = ch.settings.inputTranslation)
    (htext : text = b.taken ++ b.left) (haside : b.aside = [])
    (hpeeked : ch.settings.encoding.isBinary = true → b.peeked = false)
    (hmode : ch.chain.lines.mode = b.mode)
    (hfresh : begun = false → ch.chain.decoding.atStart = true)
    (hstart : ch.chain.decoding.atStart = true →
      ch.device.memory.readPos = 0 ∧ b.taken = [] ∧ (begun = true → mark = []))
    (hplace : ch.chain.decoding.atStart = false →
      ch.device.memory.readPos = mark.length + (ch.settings.encoding.unread b.taken).length) :
    Stands bs mark text begun b ch := by
  obtain ⟨hpartial, hahead⟩ := List.append_eq_nil_iff.1 hclear.pending
  have hrest : RawStock.stock ch.device = bs.drop ch.device.memory.readPos := by
    change ch.device.memory.bytes.drop _ = _
    rw [show ch.device.memory.bytes = bs from hpristine.bytes]
  have hmarker : ch.chain.cutoff.marker = ch.settings.inputMarker := hpristine.marker
  obtain ⟨hexact, hfront⟩ := body_of_clear (d := ch.chain.decoding) hpage htext henc hclear.decodes
    (fun hs => ⟨(hstart hs).1, (hstart hs).2.1⟩) hplace
  have hspent := Chain.spent_nil (d := ch.device) trivial hclear.ahead hclear.cache hclear.readAhead
    hclear.cutoff
  rw [hheld, List.nil_append, hrest, hmarker] at hspent
  have haccount := Decoding.account_of hclear.decodes hclear.waiting hclear.fresh hspent
  have hnone : ch.chain.decoding.half = [] := by
    rw [Decoding.half, hdec]
    cases ch.settings.encoding <;> rfl
  refine ⟨hr, hblocking, hpristine, htranslation, hpartial.trans haside.symm, fun _ => haside,
    fun he => by simp [hended] at he, hfresh,
    .of ch.chain.decoding hclear.decodes (bs.drop ch.device.memory.readPos) ch.settings.inputMarker,
    b.taken, b.left, ch.device.memory.readPos, htext, ?_⟩
  exact
    { encoding := henc
      marker := rfl
      stream := rfl
      within := hpristine.within
      plain := by
        refine ⟨?_, hdec.trans (congrArg Encoding.decoder? henc.symm)⟩
        change ch.chain.decoding.encoding.Exact _ _
        rw [henc]
        exact hexact
      facing :=
        { below := ⟨[], by simp [Bookmark.gathered, haside, Chain.whole, hahead],
            ⟨[], [], haccount⟩, fun _ => hclear.waiting.1, fun hs => ⟨(hstart hs).1, (hstart hs).2.1⟩⟩
          text := by simp [Decoding.telling, Bookmark.gathered, haside]
          mode := hmode
          ended := fun he => by simp [Chain.whole, hclear.lines] at he
          whole := .inl fun _ => hnone
          peeked := fun hb => by
            change ch.chain.decoding.encoding.isBinary = true at hb
            simp [Chain.whole, hahead, Bookmark.gathered, hpeeked (henc ▸ hb)] }
      front := by
        obtain ⟨front, hfront, hlen⟩ := hfront
        refine ⟨front, hfront, ?_⟩
        change _ = mark.length + (ch.chain.decoding.encoding.unread b.taken).length
        rw [henc]
        exact hlen
      start := fun hs => (hstart hs).2.2
      begins := List.prefix_refl _ }

theorem stands_opened {mode : OpenMode} {s : Settings}
    (hpage : Page s.encoding s.inputMarker bs mark text) (hm : mode.isReadable = true)
    (hblocking : s.blocking = true) :
    Stands bs mark text false (.front s.inputTranslation text)
      (opened (⟨Memory.ofBytes bs, rfl⟩ : Complete) mode s) :=
  stands_of_clear hpage (opened_readable rfl hm s) hblocking rfl
    ⟨by simp [Memory.ofBytes, Memory.bytes, opened, init], rfl, Nat.zero_le _, rfl⟩ (clear_newInput s) rfl
    rfl rfl rfl rfl rfl (fun _ => rfl) rfl (fun _ => rfl) (fun _ => ⟨rfl, rfl, fun hn => by simp at hn⟩)
    fun hn => by simp [chain, opened, init, newInput, Decoding.init] at hn

end Clear

section Seek
variable {bs mark : List UInt8} {text : List Char} {begun : Bool} {b : Bookmark}
  {ch : Channel Complete}

/-- A channel that waits for nothing to be written goes where its memory goes. -/
theorem Stands.seek_eq (hpage : Page ch.settings.encoding ch.settings.inputMarker bs mark text)
    (hlen : 2 * bs.length < UInt64.size) (h : Stands bs mark text begun b ch)
    (hhalf : ch.chain.decoding.half = []) :
    let n := b.position ch.settings.encoding mark begun
    ∃ d j, ch.seek (.fromCurrent 0) = (.ok n,
        { ch with device := d, input := ch.input.map (·.resumed n), ended := false, journal := j }) ∧
      d.memory = { ch.device.memory with readPos := n, writePos := n } := by
  intro n
  have hpos := h.readPos hpage
  rw [hhalf, List.length_nil, Nat.add_zero] at hpos
  change _ = n + _ at hpos
  have hwithin := h.pristine.within
  dsimp only at hwithin
  have haddress : ch.device.memory.address (ch.deviceRelative (.fromCurrent 0)) = n := by
    simp only [deviceRelative, Memory.address, h.device_position]
    omega
  have hseek : ∃ d, Transport.seek (ch.deviceRelative (.fromCurrent 0)) ch.device = (.ok n, d) ∧
      d.memory = { ch.device.memory with readPos := n, writePos := n } := by
    have hmemory : Memory.seek (ch.deviceRelative (.fromCurrent 0)) ch.device.memory =
        (.ok n, { ch.device.memory with readPos := n, writePos := n }) := by
      simp only [Memory.seek, haddress, Int.toNat_natCast]
      rw [if_pos ⟨Int.natCast_nonneg _, by simp [UInt64.size] at hlen ⊢; omega⟩]
    refine ⟨(Transport.seek (ch.deviceRelative (.fromCurrent 0)) ch.device).2, Prod.ext ?_ rfl, ?_⟩
    · exact (congrArg Prod.fst hmemory :)
    · exact (congrArg Prod.snd hmemory :)
  obtain ⟨d, hd, hmemory⟩ := hseek
  have hflush : ch.flushOutput = (.ok (), ch) := by simp [flushOutput, h.readable.quiet]
  obtain ⟨j, hj⟩ := Channel.seek_eq h.readable.opened hflush hd
  exact ⟨d, j, hj, hmemory⟩

/-- At the start of a page nothing is in front of the bookmark. -/
theorem Stands.of_atStart (h : Stands bs mark text begun b ch)
    (hs : ch.chain.decoding.atStart = true) : b.taken = [] ∧ (begun = true → mark = []) := by
  obtain ⟨k, before, behind, place, -, halong⟩ := h.along
  obtain ⟨us, hus, hhanded, -, hfirst⟩ := halong.facing.below
  obtain ⟨used, hplaced⟩ := hhanded.placed halong.plain
  obtain ⟨-, rfl, -⟩ := hplaced.start hs
  obtain ⟨-, rfl⟩ := hfirst hs
  obtain ⟨htaken, -⟩ := List.append_eq_nil_iff.1 hus
  exact ⟨(List.append_eq_nil_iff.1 htaken).1, halong.start hs⟩

/-- Only there is the position 0. -/
theorem Stands.position_eq_zero (hpage : Page ch.settings.encoding ch.settings.inputMarker bs mark text)
    (h : Stands bs mark text begun b ch) :
    b.position ch.settings.encoding mark begun = 0 ↔ b.taken = [] ∧ (begun = true → mark = []) := by
  unfold Bookmark.position
  cases begun with
  | false => simpa using (h.of_atStart (h.fresh rfl)).1
  | true =>
    obtain ⟨k, before, behind, place, rfl, halong⟩ := h.along
    have hall : before ++ behind = b.taken ++ (b.aside ++ b.left) := by
      rw [← List.append_assoc]
      exact halong.facing.text
    have hexact := hpage.exact
    rw [hall] at hexact
    have htaken := hexact.cut.2.1
    rw [if_pos rfl, Nat.add_eq_zero_iff, List.length_eq_zero_iff, List.length_eq_zero_iff]
    constructor
    · rintro ⟨hmark, hunread⟩
      rw [hunread] at htaken
      exact ⟨htaken.eq_nil, fun _ => hmark⟩
    · rintro ⟨hb, hmark⟩
      rw [hb]
      exact ⟨hmark rfl, Encoding.unread_nil _⟩

/-- The input side is begun anew, and with the mark at the beginning of the page only. -/
theorem Stands.resumed (hpage : Page ch.settings.encoding ch.settings.inputMarker bs mark text)
    (h : Stands bs mark text begun b ch) :
    let n := b.position ch.settings.encoding mark begun
    (ch.input.map (·.resumed n)).getD (newInput ch.settings) = ch.chain.resumed n ∧
      ((ch.chain.resumed n).decoding.atStart = true ↔ n = 0) := by
  intro n
  have hat : ch.chain.decoding.atStart = true → n = 0 := fun hs =>
    (h.position_eq_zero hpage).2 (h.of_atStart hs)
  cases hi : ch.input with
  | none =>
    have hnew : ch.chain = newInput ch.settings := by simp [chain, hi]
    rw [hnew] at hat ⊢
    have hzero := hat rfl
    simp only [hzero]
    exact ⟨rfl, iff_of_true rfl trivial⟩
  | some c =>
    have hsome : ch.chain = c := by simp [chain, hi]
    rw [hsome] at hat ⊢
    refine ⟨rfl, ?_⟩
    unfold Chain.resumed
    split
    · exact iff_of_true rfl ‹_›
    · exact iff_of_false (fun hs => ‹¬n = 0› (hat hs)) ‹_›

/-- With nothing half decoded and nothing set aside, a channel that is sent to where it stands stands
there. -/
theorem Stands.seek (hpage : Page ch.settings.encoding ch.settings.inputMarker bs mark text)
    (hlen : 2 * bs.length < UInt64.size) (h : Stands bs mark text begun b ch)
    (hhalf : ch.chain.decoding.half = []) (ht : ch.settings.inputTranslation ≠ .auto)
    (haside : b.aside = []) (hpeeked : ch.settings.encoding.isBinary = true → b.peeked = false) :
    let r := ch.seek (.fromCurrent 0)
    r.1 = .ok (b.position ch.settings.encoding mark begun) ∧ Stands bs mark text begun b r.2 := by
  obtain ⟨d, j, hseek, hmemory⟩ := h.seek_eq hpage hlen hhalf
  have hzero := h.position_eq_zero hpage
  have hpos := h.readPos hpage
  obtain ⟨k, before, behind, place, htext, halong⟩ := h.along
  have hall : before ++ behind = b.taken ++ b.left := by
    have hfacing := halong.facing.text
    rwa [Bookmark.gathered_of_nil haside] at hfacing
  have henc : ch.chain.decoding.encoding = ch.settings.encoding := by
    obtain ⟨us, -, ⟨used, ds, hacc⟩, -⟩ := halong.facing.below
    exact hacc.encoding.trans halong.encoding
  rw [hseek]
  obtain ⟨hresumed, hbegins⟩ := h.resumed hpage
  generalize hn : b.position ch.settings.encoding mark begun = n
    at hseek hmemory hzero hpos hresumed hbegins
  refine ⟨rfl, ?_⟩
  obtain ⟨hlines, hsame, hdec, hcutoff⟩ := ch.chain.resumed_keeps n
  have hclear := Chain.clear_resumed n ch.chain
  rw [henc] at hsame hdec
  rw [h.translation] at hlines
  have hmode : (ch.chain.resumed n).lines.mode = b.mode := by
    have hfacing : ch.chain.lines.mode = b.mode := halong.facing.mode
    rw [← hfacing]
    exact Lines.mode_of_fixed (h.translation ▸ ht) (by rw [hlines, h.translation]; rfl)
  have hpristine : Pristine bs ch.settings.inputMarker ((ch.chain.resumed n).cutoff, d) := by
    rw [hcutoff]
    have hwithin := h.pristine.within
    dsimp only at hwithin
    exact ⟨by rw [hmemory]; exact h.pristine.bytes, by rw [hmemory]; exact h.pristine.readLast,
      by rw [hmemory]; dsimp only; omega, h.pristine.marker⟩
  generalize ch.chain.resumed n = c at *
  have hread : d.memory.readPos = n := by rw [hmemory]
  obtain ⟨ch', hch⟩ : ∃ ch' : Channel Complete, { ch with
    device := d, input := ch.input.map (·.resumed n), ended := false, journal := j } = ch' := ⟨_, rfl⟩
  have hchain : ch'.chain = c := hch ▸ hresumed
  have hdevice : ch'.device = d := hch ▸ rfl
  have hsettings : ch'.settings = ch.settings := hch ▸ rfl
  rw [hch]
  rw [← hsettings] at hpage hsame hdec hlines hpristine hpeeked hn
  rw [← hchain] at hbegins hclear hpristine hmode hlines hsame hdec
  rw [← hdevice] at hpristine hread
  refine stands_of_clear hpage (hch ▸ ⟨h.readable.opened, h.readable.mode, h.readable.quiet, fun _ => rfl⟩)
    (hsettings ▸ h.blocking) (hch ▸ rfl) hpristine hclear ?_ hsame hdec ?_ (htext.trans hall) haside
    hpeeked hmode ?_ ?_ ?_
  · rw [hchain, hcutoff]
    rfl
  · rw [hlines]
    rfl
  · intro hb
    refine hbegins.2 (hzero.2 (h.of_atStart (h.fresh hb)))
  · intro hs
    have h0 := hbegins.1 hs
    exact ⟨hread.trans h0, hzero.1 h0⟩
  · intro hs
    have h0 : n ≠ 0 := fun h0 => by simp [hbegins.2 h0] at hs
    rw [hread, ← hn, Bookmark.position]
    cases hb : begun with
    | true => rfl
    | false => exact absurd (hzero.2 (h.of_atStart (h.fresh hb))) h0

end Seek

end Channel

end ScriptChannel
