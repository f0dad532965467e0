import ScriptChannel.Channel.Position
import ScriptChannel.Proofs.Channel.Fresh
import ScriptChannel.Proofs.Channel.Tally

/-!
# A channel with nothing left over

An input side just built holds nothing in any of its stages, and neither does one that is to look at
its stream again, but for the bytes in the first stage. From either a channel hands out the text of
those bytes and of all that its device will say.
-/

namespace ScriptChannel

namespace Input.Chain

/-- Nothing waits in any stage but the first, and no stage has seen the end. What is left is half a
character in the decoder, and the line endings settled on. -/
structure Clear (c : Chain) : Prop where
  pending : c.lines.pending = []
  lines : c.lines.ended = false
  waiting : c.decoding.Waiting
  fresh : c.decoding.atStart = true → c.decoding = .init c.decoding.encoding
  decodes : c.decoding.decoder.isSome = c.decoding.encoding.decoder?.isSome
  ahead : c.rewind.ahead = []
  cache : c.readAhead.cache = []
  readAhead : c.readAhead.ended = false
  cutoff : c.cutoff.reached = false

/-- The input side once the channel was sent to this place. -/
def resumed (n : Nat) (c : Chain) : Chain :=
  if n = 0 then { c.seekReset with decoding := c.seekReset.decoding.rearm } else c.seekReset

/-- It has forgotten all that it kept. -/
theorem clear_resumed (n : Nat) (c : Chain) : (c.resumed n).Clear := by
  have hsame : ∀ d : Decoding, d.seekReset.atStart = true →
      d.seekReset = .init d.seekReset.encoding := by
    rintro ⟨e, decoder, surplus, atStart, finished⟩ hs
    obtain rfl : atStart = true := hs
    rfl
  unfold resumed
  split
  · exact ⟨rfl, rfl, ⟨rfl, rfl⟩, fun _ => rfl, rfl, rfl, rfl, rfl, rfl⟩
  · exact ⟨rfl, rfl, ⟨rfl, rfl⟩, hsame c.decoding, rfl, rfl, rfl, rfl, rfl⟩

/-- What it is told by its settings stays. -/
theorem resumed_keeps (n : Nat) (c : Chain) :
    (c.resumed n).lines = .init c.lines.translation ∧
      (c.resumed n).decoding.encoding = c.decoding.encoding ∧
      (c.resumed n).decoding.decoder = c.decoding.encoding.decoder? ∧
      (c.resumed n).cutoff = c.cutoff.seekReset := by
  unfold resumed
  split <;> exact ⟨rfl, rfl, rfl, rfl⟩

theorem backlog_resumed (e : Encoding) (n : Nat) (c : Chain) : (c.resumed n).backlog e = 0 := by
  have hnone : (e.unread []).length = 0 := by simp
  unfold resumed
  split <;> exact hnone

/-- What is to come from a cleared input side is what the device has, up to the marker. -/
theorem Clear.coming_lower {δ : Type} [RawReader δ] [RawStream δ] {c : Chain} (hc : c.Clear)
    {marker : UInt8} (hcutoff : c.cutoff = .init marker) {d : δ} {us : List UInt8}
    (hd : RawStream.coming d = Coming.ofUnits us) :
    ByteStream.coming (c.lower d) = Coming.ofUnits (upToMarker marker us) := by
  have hunfold : ByteStream.coming (c.lower d) = c.arriving (RawStream.coming d) := rfl
  have hmarked : (if c.cutoff.reached then [] else
      (Coming.ofUnits c.cutoff.held ++ (Coming.ofUnits us).eased).upTo c.cutoff.marker) =
      Coming.ofUnits (upToMarker marker us) := by
    simp [hcutoff, Cutoff.init, Coming.upTo_ofUnits]
  have hheard := c.readAhead.heard_ofUnits_append (upToMarker marker us) []
  rw [hunfold, Chain.arriving, hc.ahead, hc.cache, hc.readAhead, hd, hmarked]
  simpa using hheard

/-- What the decoding of such an input side has in front of it, if the device has these bytes. -/
def Clear.course {c : Chain} (h : c.Clear) (bs : List UInt8) : Decoding.Course :=
  .of c.decoding h.decodes (c.cutoff.held ++ bs) c.cutoff.marker

section Clear
variable {δ : Type} [Transport δ] [StockedDevice δ] {c : Chain} {d : δ}

/-- Nothing has been handed out yet. -/
theorem Clear.told (h : c.Clear) (hd : RawStock.Lasting d) :
    c.Told (h.course (RawStock.stock d)) ⟨c.lines.mode, false⟩ [] [] d := by
  obtain ⟨hpartial, hahead⟩ := List.append_eq_nil_iff.1 h.pending
  have haccount := Decoding.account_of h.decodes h.waiting h.fresh
    (spent_nil hd h.ahead h.cache h.readAhead h.cutoff)
  have hended : c.lines.ended = true → False := fun he => by simp [h.lines] at he
  refine ⟨⟨?_, ?_, ?_, ?_, fun he => (hended he).elim⟩, rfl, ?_⟩
  · refine ⟨[], [], ?_⟩
    simp only [whole, hpartial, hahead, List.append_nil]
    exact haccount
  · simp only [whole, hpartial, List.append_nil]
    rfl
  · simp [whole, hpartial, Endings.after]
  · simp [whole, hpartial, Endings.after]
  · simp only [whole, hpartial]
    exact Endings.literal_nil _ _

end Clear

end Input.Chain

namespace Channel

/-- A channel goes where its device goes, once nothing waits to be written. -/
theorem seek_eq {δ : Type} [Transport δ] {ch ch' : Channel δ} {p : Place} {n : Nat} {d : δ}
    (hc : ch.closed = false) (hflush : ch.flushOutput = (.ok (), ch'))
    (hd : Transport.seek (ch'.deviceRelative p) ch'.device = (.ok n, d)) :
    ∃ j, ch.seek p = (.ok n, { ch' with
      device := d, input := ch'.input.map (·.resumed n), ended := false, journal := j }) := by
  simp only [seek, checkOpen, hc, hflush, hd, Bool.false_eq_true, if_false, Input.Chain.resumed]
  by_cases hn : n = 0
  · simp only [hn, if_true, rearm, seekReset, note, Option.map_map]
    exact ⟨_, rfl⟩
  · simp only [hn, if_false, seekReset, note]
    exact ⟨_, rfl⟩

/-- Where its device cannot go it stays as it is. -/
theorem seek_eq_error {δ : Type} [Transport δ] {ch ch' : Channel δ} {p : Place} {e : IoError} {d : δ}
    (hc : ch.closed = false) (hflush : ch.flushOutput = (.ok (), ch'))
    (hd : Transport.seek (ch'.deviceRelative p) ch'.device = (.error e, d)) :
    ch.seek p = (.error (ch'.positionError .seek e), { ch' with device := d }) := by
  simp only [seek, checkOpen, hc, hflush, hd, Bool.false_eq_true, if_false]

/-- A channel without an input side has no backlog, nor will it have one when it is built. -/
theorem backlog_eq {δ : Type} (ch : Channel δ) :
    ch.backlog = ch.chain.backlog ch.settings.encoding := by
  unfold backlog chain
  cases ch.input with
  | some c => rfl
  | none =>
    simp [newInput, Input.Chain.backlog, Input.Chain.decoded, Input.Lines.pending, Input.Lines.init,
      Input.Decoding.init, Input.ReadAhead.init, Input.Cutoff.init, Input.Rewind.init]

theorem clear_newInput (s : Settings) : (newInput s).Clear where
  pending := rfl
  lines := rfl
  waiting := ⟨rfl, rfl⟩
  fresh _ := rfl
  decodes := rfl
  ahead := rfl
  cache := rfl
  readAhead := rfl
  cutoff := rfl

variable {δ : Type} [Transport δ] [StockedDevice δ] {ch : Channel δ}

section Clear
variable (hc : ch.chain.Clear) (hr : ch.Readable) (hd : RawStock.Lasting ch.device)
  (he : ch.settings.encoding = ch.chain.decoding.encoding) (hended : ch.ended = false)
include hr hd he hended

theorem ledger_of_clear :
    Ledger (hc.course (RawStock.stock ch.device)) ⟨ch.chain.lines.mode, false⟩ [] [] ch where
  readable := hr
  encoding := he
  told := hc.told hd
  ended h := by simp [hended] at h

theorem tally_of_clear :
    Tally (hc.course (RawStock.stock ch.device)) ch.chain.lines.mode [] ch where
  readable := hr
  encoding := he
  tallied := (hc.told hd).tallied
  settled := .inl rfl
  ended h := by simp [hended] at h

end Clear

end Channel

end ScriptChannel
