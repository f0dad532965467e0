import ScriptChannel.Proofs.Channel.Paging

/-!
# The position of a reader

A reader of a memory may ask for the position at any time, and may have the channel sent to where it
stands. The position is the number of bytes that spell what he has read, and being sent there makes no
difference to what he reads, unless the beginning of a character is left in the decoder. That does not
happen where every character takes a byte for each that is asked for; in UTF-16 it does.
-/

namespace ScriptChannel

/-- A request of a reader who may return to where he stands before he reads. -/
structure Visit where
  returns : Bool
  kind : ReadKind
  dst : Data

namespace Visit
variable {δ : Type} [Transport δ]

/-- The channel where the visit reads. -/
def enter (v : Visit) (ch : Channel δ) : Channel δ :=
  if v.returns then (ch.seek (.fromCurrent 0)).2 else ch

def read (v : Visit) (ch : Channel δ) : Channel.Reading × Channel δ :=
  Channel.read v.kind v.dst (v.enter ch)

/-- The channel behind some visits. -/
def leave (visits : List Visit) (ch : Channel δ) : Channel δ :=
  visits.foldl (fun ch v => (v.read ch).2) ch

/-- The channel is sent to where it stands only if its line endings are not still to be found out. -/
def Suits (s : Settings) (v : Visit) : Prop := v.returns = true → s.inputTranslation ≠ .auto

instance (s : Settings) (v : Visit) : Decidable (v.Suits s) :=
  inferInstanceAs (Decidable (_ → _))

end Visit

/-- The mark in front of some bytes, if there is one. -/
def Encoding.markOf (e : Encoding) (bs : List UInt8) : List UInt8 :=
  bs.take (bs.length - (e.skipMark bs).length)

namespace Settings

/-- The bookmark in a stream behind some visits. -/
def bookmark (s : Settings) (bs : List UInt8) (visits : List Visit) : Bookmark :=
  visits.foldl (fun b v => (b.read s.encoding.isBinary v.kind).2)
    (.front s.inputTranslation (s.encoding.decode (s.encoding.skipMark (upToMarker s.inputMarker bs))))

/-- How many bytes of the stream were read by then. -/
def offset (s : Settings) (bs : List UInt8) (visits : List Visit) : Nat :=
  (s.bookmark bs visits).position s.encoding (s.encoding.markOf (upToMarker s.inputMarker bs))
    (visits.any (·.kind.asks))

end Settings

theorem Page.markOf_eq {e : Encoding} {m : UInt8} {bs mark : List UInt8} {text : List Char}
    (h : Page e m bs mark text) : e.markOf (upToMarker m bs) = mark := by
  rw [Encoding.markOf, h.skip, h.upTo, List.length_append, Nat.add_sub_cancel, List.take_left]

namespace Transport.Complete

theorem follows : Follows memory where
  mirrors := mirrors
  seek _ _ := rfl
  tell _ := rfl

end Transport.Complete

/-- A text takes an even number of bytes in UTF-16. -/
theorem Charset.Utf16.even_length_bytes (order : ByteOrder) (cs : List Char) :
    2 ∣ (bytes order cs).length := by
  have heach : ∀ us : List Nat, 2 ∣ (us.flatMap order.bytes).length := by
    intro us
    induction us with
    | nil => exact Nat.dvd_zero _
    | cons u us ih =>
      rw [List.flatMap_cons, List.length_append]
      exact (Nat.dvd_add_right (by cases order <;> exact ⟨1, rfl⟩)).2 ih
  induction cs with
  | nil => exact Nat.dvd_zero _
  | cons c cs ih =>
    rw [bytes, List.flatMap_cons, List.length_append]
    exact (Nat.dvd_add_right (heach _)).2 ih

namespace Channel
open Transport

/-- What a visit brings is what the bookmark reads, and if something was asked for its status says how
much that was. -/
def Brought (dst : Data) (kind : ReadKind) (q : List Char × Bool) (r : Reading) : Prop :=
  r.data.chars.drop dst.chars.length = q.1 ∧ (kind.asks = true → r.status = .ok (.of q))

section Visit
variable {s : Settings} {bs mark : List UInt8} {text : List Char} {begun : Bool} {b : Bookmark}
  {ch : Channel Complete}

theorem Stands.half_of_unit (h : Stands bs mark text begun b ch)
    (hunit : ch.settings.encoding.bytesPerChar = 1) : ch.chain.decoding.half = [] := by
  obtain ⟨k, before, behind, place, -, halong⟩ := h.along
  refine (halong.facing.whole.resolve_right (Nat.not_lt_zero _)) ?_
  rw [halong.encoding, hunit]

/-- A visit reads from the bookmark on, wherever it comes from. -/
theorem Stands.visit (hpage : Page s.encoding s.inputMarker bs mark text) (hlen : 2 * bs.length < UInt64.size)
    (h : Stands bs mark text begun b ch) (hs : ch.settings = s) {v : Visit}
    (hhalf : v.returns = true → ch.chain.decoding.half = [] ∧ s.inputTranslation ≠ .auto)
    (hsettled : s.inputTranslation ≠ .auto → b.Settled s.encoding.isBinary) :
    let q := b.read s.encoding.isBinary v.kind
    let r := v.read ch
    Stands bs mark text (begun || v.kind.asks) q.2 r.2 ∧ r.2.settings = s ∧
      Brought v.dst v.kind q.1 r.1 := by
  obtain ⟨henter, hkept⟩ : Stands bs mark text begun b (v.enter ch) ∧ (v.enter ch).settings = s := by
    unfold Visit.enter
    split
    · obtain ⟨hnone, ht⟩ := hhalf ‹_›
      have hb := hsettled ht
      subst hs
      obtain ⟨-, hstands⟩ := h.seek hpage hlen hnone ht hb.aside hb.peeked
      obtain ⟨d, j, hseek, -⟩ := h.seek_eq hpage hlen hnone
      exact ⟨hstands, by rw [hseek]⟩
    · exact ⟨h, hs⟩
  rw [← hkept] at hpage
  obtain ⟨hstands, hbrought⟩ := henter.read hpage v.kind v.dst
  rw [hkept] at hstands hbrought
  exact ⟨hstands, (read_keeps henter.readable v.kind v.dst).2.trans hkept, hbrought⟩

/-- So do all of them, and the channel stands at the bookmark behind them. -/
theorem Stands.leave (hpage : Page s.encoding s.inputMarker bs mark text) (hlen : 2 * bs.length < UInt64.size)
    (h : Stands bs mark text begun b ch) (hs : ch.settings = s)
    (hsettled : s.inputTranslation ≠ .auto → b.Settled s.encoding.isBinary) {visits : List Visit}
    (hsuits : ∀ v ∈ visits, v.Suits s)
    (hwhole : s.encoding.bytesPerChar = 1 ∨ ∀ v ∈ visits, v.returns = false) :
    let b' := visits.foldl (fun b v => (b.read s.encoding.isBinary v.kind).2) b
    Stands bs mark text (begun || visits.any (·.kind.asks)) b' (Visit.leave visits ch) ∧
      (Visit.leave visits ch).settings = s ∧
      (s.inputTranslation ≠ .auto → b'.Settled s.encoding.isBinary) := by
  induction visits generalizing begun b ch with
  | nil => exact ⟨by simpa [Visit.leave] using h, hs, hsettled⟩
  | cons v visits ih =>
    obtain ⟨hv, hothers⟩ := List.forall_mem_cons.1 hsuits
    have hhalf : v.returns = true → ch.chain.decoding.half = [] ∧ s.inputTranslation ≠ .auto := by
      intro hr
      refine ⟨h.half_of_unit ?_, hv hr⟩
      refine hs ▸ hwhole.resolve_right fun hnone => ?_
      simp [hnone v (List.mem_cons_self ..)] at hr
    obtain ⟨hnext, hkept, -⟩ := h.visit hpage hlen hs hhalf hsettled
    have hread := ih hnext hkept (fun ht => (hsettled ht).read v.kind) hothers
      (hwhole.imp_right fun hnone v hv => hnone v (List.mem_cons_of_mem _ hv))
    simp only [List.foldl_cons, List.any_cons, Visit.leave, ← Bool.or_assoc] at hread ⊢
    exact hread

end Visit

section Memory
variable {s : Settings} {bs mark : List UInt8} {text : List Char} {mode : OpenMode}

theorem seek_readable {ch : Channel Complete} (h : ch.Readable) (p : Place) :
    (ch.seek p).2.Readable := by
  have hflush : ch.flushOutput = (.ok (), ch) := by simp [flushOutput, h.quiet]
  simp only [seek, checkOpen, h.opened, hflush, Bool.false_eq_true, if_false]
  rcases Transport.seek (ch.deviceRelative p) ch.device with ⟨e | n, d⟩
  · exact ⟨rfl, h.mode, h.quiet, fun _ => rfl⟩
  · dsimp only
    split <;> exact ⟨rfl, h.mode, h.quiet, fun _ => rfl⟩

/-- A memory is visited as it is when nothing is known of it. -/
theorem visit_onto {ch : Channel Complete} (h : ch.Readable) (v : Visit) :
    v.read (ch.onto Complete.memory) = Prod.map id (onto Complete.memory) (v.read ch) ∧
      (v.read ch).2.Readable := by
  obtain ⟨henter, hready⟩ : v.enter (ch.onto Complete.memory) =
      (v.enter ch).onto Complete.memory ∧ (v.enter ch).Readable := by
    unfold Visit.enter
    split
    · exact ⟨congrArg Prod.snd (seek_onto Complete.follows h.quiet (.fromCurrent 0)),
        seek_readable h _⟩
    · exact ⟨rfl, h⟩
  rw [Visit.read, henter]
  exact ⟨read_onto Complete.mirrors hready.quiet v.kind v.dst, (read_keeps hready v.kind v.dst).1⟩

theorem leave_onto {ch : Channel Complete} (h : ch.Readable) (visits : List Visit) :
    Visit.leave visits (ch.onto Complete.memory) =
      (Visit.leave visits ch).onto Complete.memory := by
  induction visits generalizing ch with
  | nil => rfl
  | cons v visits ih =>
    obtain ⟨hread, hready⟩ := visit_onto h v
    simp only [Visit.leave, List.foldl_cons, hread]
    exact ih hready

/-- What is seen of a channel on a memory behind some visits. -/
theorem seen_behind (hpage : Page s.encoding s.inputMarker bs mark
      (s.encoding.decode (s.encoding.skipMark (upToMarker s.inputMarker bs))))
    (hlen : 2 * bs.length < UInt64.size) (hm : mode.isReadable = true) (hblocking : s.blocking = true)
    {visits : List Visit} (hsuits : ∀ v ∈ visits, v.Suits s)
    (hwhole : s.encoding.bytesPerChar = 1 ∨ ∀ v ∈ visits, v.returns = false) :
    let ch := Visit.leave visits (opened (Memory.ofBytes bs) mode s)
    let half := ch.chain.decoding.half
    (s.encoding.bytesPerChar = 1 → half = []) ∧
      ch.tell = .ok ((s.offset bs visits + half.length : Nat)) ∧
      (half = [] → s.inputTranslation ≠ .auto →
        (ch.seek (.fromCurrent 0)).1 = .ok (s.offset bs visits)) ∧
      ∀ v : Visit, (v.returns = true → half = [] ∧ s.inputTranslation ≠ .auto) →
        Brought v.dst v.kind ((s.bookmark bs visits).read s.encoding.isBinary v.kind).1
          (v.read ch).1 := by
  have hopened := stands_opened hpage hm hblocking
  have hrun := hopened.leave hpage hlen rfl (fun ht => Bookmark.settled_front ht _ _) hsuits hwhole
  have hch : Visit.leave visits (opened (Memory.ofBytes bs) mode s) = _ :=
    leave_onto hopened.readable visits
  rw [Bool.false_or] at hrun
  generalize Visit.leave visits (opened (⟨Memory.ofBytes bs, rfl⟩ : Complete) mode s) = ch at hrun hch
  obtain ⟨hstands, hs, hsettled⟩ := hrun
  rw [hch]
  change Stands _ _ _ _ (s.bookmark bs visits) _ at hstands
  have hoffset : (s.bookmark bs visits).position s.encoding mark (visits.any (·.kind.asks)) =
      s.offset bs visits := by
    rw [Settings.offset, hpage.markOf_eq]
  refine ⟨fun hunit => hstands.half_of_unit (hs ▸ hunit), ?_, fun hhalf ht => ?_, fun v hv => ?_⟩
  · have htell := hstands.tell (hs ▸ hpage) hlen
    rw [hs] at htell
    rw [tell_onto Complete.follows, ← hoffset]
    exact htell
  · have hb := hsettled ht
    obtain ⟨hseek, -⟩ := hstands.seek (hs ▸ hpage) hlen hhalf (hs ▸ ht) hb.aside (hs ▸ hb.peeked)
    rw [hs] at hseek
    rw [seek_onto Complete.follows hstands.readable.quiet, ← hoffset]
    exact hseek
  · obtain ⟨-, -, hbrought⟩ := hstands.visit hpage hlen hs (v := v) hv hsettled
    rw [(visit_onto hstands.readable v).1]
    exact hbrought

/-- In an encoding whose characters take a byte at least for each that is asked for, the position is
that of the bookmark behind what was read, at any time. The channel may be sent there as long as the
line endings are not still to be found out, and reads on from the bookmark. -/
theorem position_exact (hm : mode.isReadable = true) (hblocking : s.blocking = true)
    (hvalid : s.encoding.Valid bs) (hspares : s.encoding.Spares s.inputMarker)
    (hlen : 2 * bs.length < UInt64.size) {visits : List Visit} (hsuits : ∀ v ∈ visits, v.Suits s) :
    let ch := Visit.leave visits (opened (Memory.ofBytes bs) mode s)
    ch.tell = .ok (s.offset bs visits) ∧
      (s.inputTranslation ≠ .auto → (ch.seek (.fromCurrent 0)).1 = .ok (s.offset bs visits)) ∧
      ∀ v : Visit, v.Suits s →
        Brought v.dst v.kind ((s.bookmark bs visits).read s.encoding.isBinary v.kind).1
          (v.read ch).1 := by
  obtain ⟨mark, hpage⟩ := Page.of_valid hvalid hspares
  have hunit : s.encoding.bytesPerChar = 1 := by
    revert hvalid
    generalize s.encoding = e
    rintro (_ | _ | _) <;> rfl
  obtain ⟨hwhole, htell, hseek, hbrings⟩ := seen_behind hpage hlen hm hblocking hsuits (.inl hunit)
  have hhalf := hwhole hunit
  rw [hhalf] at htell
  exact ⟨htell, hseek hhalf, fun v hv => hbrings v fun hr => ⟨hhalf, hv hr⟩⟩

/-- A mark, a line with both characters of its ending, and a character of two bytes in small pieces. -/
theorem position_exact_behind_mark :
    let s := { Settings.default with inputTranslation := .crlf, bufferSize := 3 }
    let bs := [0xEF, 0xBB, 0xBF, 0x61, 0x0D, 0x0A, 0xC3, 0xA9, 0x62, 0x63]
    let visits : List Visit := [⟨false, .line, .text []⟩, ⟨true, .units 1, .text ['>']⟩]
    let ch := Visit.leave visits (opened (Memory.ofBytes bs) .readOnly s)
    ch.tell = .ok 8 ∧ (ch.seek (.fromCurrent 0)).1 = .ok 8 ∧
      ((⟨true, .all, .text ['>']⟩ : Visit).read ch).1.data.chars.drop 1 = ['b', 'c'] := by
  intro s bs visits ch
  have hvalid : s.encoding.Valid bs := by
    have hbs : bs = Charset.Utf8.bytes ['\uFEFF', 'a', '\r', '\n', 'é', 'b', 'c'] := by decide
    rw [hbs]
    exact .utf8 _
  have hread : OpenMode.isReadable .readOnly = true := rfl
  have hsuits : ∀ v ∈ visits, v.Suits s := by decide
  obtain ⟨htell, hseek, hbrought⟩ :=
    position_exact hread (s := s) rfl hvalid (by decide) (by decide) hsuits
  have hoffset : s.offset bs visits = 8 := by decide
  rw [hoffset] at htell hseek
  refine ⟨htell, hseek (by decide), ?_⟩
  have hq := (hbrought ⟨true, .all, .text ['>']⟩ (by decide)).1
  refine hq.trans ?_
  decide

/-- Every character takes an even number of bytes in UTF-16, and so does the mark. -/
theorem even_offset {order : Charset.Utf16.ByteOrder} {cs : List Char}
    (hpage : Page (.charset (.utf16 order)) s.inputMarker bs mark text)
    (henc : s.encoding = .charset (.utf16 order))
    (hbs : upToMarker s.inputMarker bs = Charset.Utf16.bytes order cs) (visits : List Visit) :
    2 ∣ s.offset bs visits := by
  have hmark := hpage.upTo
  rw [hbs, Encoding.unread_utf16] at hmark
  have hlen := congrArg List.length hmark
  have hall := Charset.Utf16.even_length_bytes order cs
  have htext := Charset.Utf16.even_length_bytes order text
  have htaken := Charset.Utf16.even_length_bytes order (s.bookmark bs visits).taken
  rw [List.length_append] at hlen
  rw [Settings.offset, henc, hpage.markOf_eq, Bookmark.position, Encoding.unread_utf16]
  split <;> omega

/-- In UTF-16 the beginning of a character may be left in the decoder behind a read. Only where none is
the position is that of the bookmark, the channel can be sent there, and reads on from it. -/
theorem aligned_iff_whole {order : Charset.Utf16.ByteOrder} {cs : List Char}
    (hm : mode.isReadable = true) (hblocking : s.blocking = true)
    (henc : s.encoding = .charset (.utf16 order))
    (hbs : upToMarker s.inputMarker bs = Charset.Utf16.bytes order cs) (hlen : 2 * bs.length < UInt64.size)
    (ht : s.inputTranslation ≠ .auto) {visits : List Visit}
    (hstays : ∀ v ∈ visits, v.returns = false) :
    let ch := Visit.leave visits (opened (Memory.ofBytes bs) mode s)
    let half := ch.chain.decoding.half
    let brings (v : Visit) :=
      Brought v.dst v.kind ((s.bookmark bs visits).read s.encoding.isBinary v.kind).1 (v.read ch).1
    2 ∣ s.offset bs visits ∧ ch.tell = .ok ((s.offset bs visits + half.length : Nat)) ∧
      (∀ v, v.returns = false → brings v) ∧
      ((ch.tell = .ok (s.offset bs visits) ∧ (ch.seek (.fromCurrent 0)).1 = .ok (s.offset bs visits) ∧
        ∀ v, brings v) ↔ half = []) := by
  obtain ⟨mark, hpage⟩ := Page.of_utf16 hbs
  have heven := even_offset hpage henc hbs visits
  rw [← henc] at hpage
  have hsuits : ∀ v ∈ visits, v.Suits s := fun v hv hr => by simp [hstays v hv] at hr
  obtain ⟨-, htell, hseek, hbrings⟩ := seen_behind hpage hlen hm hblocking hsuits (.inr hstays)
  refine ⟨heven, htell, fun v hv => hbrings v fun hr => by simp [hv] at hr, ?_, fun hhalf => ?_⟩
  · rintro ⟨htrue, -⟩
    rw [htell] at htrue
    have hsame := Except.ok.inj htrue
    exact List.length_eq_zero_iff.1 (by omega)
  · rw [hhalf] at htell
    exact ⟨htell, hseek hhalf ht, fun v => hbrings v fun _ => ⟨hhalf, ht⟩⟩

/-- The search for a mark takes three bytes, but the two of the first character are enough for it. -/
theorem aligned_behind_unit :
    let s := { Settings.default with
      encoding := .charset (.utf16 .little), inputTranslation := .lf }
    let bs := [0x61, 0x00, 0x0A, 0x00, 0x62, 0x00, 0x0A, 0x00]
    let ch := Visit.leave [⟨false, .units 1, .text []⟩] (opened (Memory.ofBytes bs) .readOnly s)
    ch.tell = .ok 2 ∧ (ch.seek (.fromCurrent 0)).1 = .ok 2 ∧
      ((⟨true, .units 2, .text ['>']⟩ : Visit).read ch).1.data.chars.drop 1 = ['\n', 'b'] := by
  intro s bs ch
  have hread : OpenMode.isReadable .readOnly = true := rfl
  have hbs : upToMarker s.inputMarker bs = Charset.Utf16.bytes .little ['a', '\n', 'b', '\n'] := by
    decide
  have hstays : ∀ v ∈ [(⟨false, .units 1, .text []⟩ : Visit)], v.returns = false := by decide
  obtain ⟨-, -, -, haligned⟩ :=
    aligned_iff_whole hread (s := s) rfl rfl hbs (by decide) (by decide) hstays
  obtain ⟨htell, hseek, hbrings⟩ := haligned.2 (by decide)
  have hoffset : s.offset bs [⟨false, .units 1, .text []⟩] = 2 := by decide
  rw [hoffset] at htell hseek
  refine ⟨htell, hseek, (hbrings ⟨true, .units 2, .text ['>']⟩).1.trans ?_⟩
  decide

/-- Behind a line the third of these bytes has been followed by another, and half of the next character
is in the decoder. -/
theorem misaligned_behind_line :
    let s := { Settings.default with
      encoding := .charset (.utf16 .little), inputTranslation := .lf }
    let bs := [0x61, 0x00, 0x0A, 0x00, 0x62, 0x00, 0x0A, 0x00]
    let ch := Visit.leave [⟨false, .line, .text []⟩] (opened (Memory.ofBytes bs) .readOnly s)
    s.offset bs [⟨false, .line, .text []⟩] = 4 ∧ ch.tell.toOption = some 5 ∧
      (ch.seek (.fromCurrent 0)).1.toOption = some 5 ∧
      ((⟨true, .line, .text []⟩ : Visit).read ch).1.data.chars ≠ ['b'] := by
  decide

end Memory

end Channel

end ScriptChannel
