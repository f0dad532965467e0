import ScriptChannel.Channel.Read
import ScriptChannel.Proofs.Input.Chain
import ScriptChannel.Proofs.Transport.Rehearsed

/-!
# Reading from a channel, signal by signal

A read of a channel takes what it delivers from what is to come. Nothing is to come once the channel
has ended. That the input side is built by the first read makes no difference.
-/

namespace ScriptChannel

/-- A device with an account of what it will say, which opening it does not change. -/
class InputDevice (δ : Type) [Transport δ] extends RawStream δ where
  coming_openInput (d : δ) : coming (Transport.openInput d).2 = coming d

instance : InputDevice Transport.Rehearsed where
  coming_openInput _ := rfl

namespace Channel
variable {δ : Type}

/-- The input side, or what it will be. -/
def chain (ch : Channel δ) : Input.Chain := ch.input.getD (newInput ch.settings)

/-- How many units a read asks for, unless it asks for a line. -/
def wanted : ReadKind → Option Nat
  | .all => some ReadKind.everything
  | .units n => some n
  | .line => none

/-- A read through the input side `c`. -/
def readThrough [Transport δ] (dst : Data) (c : Input.Chain) (ch : Channel δ) :
    Option Nat → Reading × Channel δ
  | none => readLine dst c ch
  | some n => readUnits n dst c ch

/-- What a channel reports of a line. -/
def lineReading (e : Encoding) (dst : Data) : Input.LineRead → Reading
  | .line cs =>
    ⟨.ok (.data cs.length),
      if e.isBinary then dst.appendBytes (cs.map Encoding.lowByte) else dst.appendText cs⟩
  | .blocked => ⟨.ok (.data 0), dst⟩
  | .ended => ⟨.ok .ended, dst⟩
  | .failed e => ⟨.error (.io e), dst⟩

variable [Transport δ]

section Unhindered
variable {ch ch₁ ch' : Channel δ} (hcheck : ch.checkRead = .ok ()) (he : ch.ended = false)
  (hflush : (if ch.mode.isWritable then ch.flushOutput else (.ok (), ch)) = (.ok (), ch₁))
include hcheck he hflush

/-- A read that nothing is in the way of goes through the input side; the rest is notes. -/
theorem read_through {c : Input.Chain} (hbuild : ch₁.buildInput = (.ok c, ch')) (kind : ReadKind)
    (dst : Data) :
    ∃ j, read kind dst ch =
      let r := readThrough dst c ch' (wanted kind)
      (r.1, { r.2 with journal := j }) := by
  unfold read
  rw [hcheck]
  dsimp only
  rw [if_neg (by simp [he]), hflush]
  dsimp only
  rw [hbuild]
  cases kind with
  | all | line =>
    dsimp only
    split <;> exact ⟨_, rfl⟩
  | units n =>
    dsimp only
    split <;> exact ⟨_, rfl⟩

theorem read_refused {e : ChannelError} (hbuild : ch₁.buildInput = (.error e, ch')) (kind : ReadKind)
    (dst : Data) : read kind dst ch = (⟨.error e, dst⟩, ch') := by
  unfold read
  rw [hcheck]
  dsimp only
  rw [if_neg (by simp [he]), hflush]
  dsimp only
  rw [hbuild]

end Unhindered

/-- A channel that nothing but its device can keep from reading. -/
structure Readable (ch : Channel δ) : Prop where
  opened : ch.closed = false
  mode : ch.mode.isReadable = true
  quiet : ch.output = none
  opens : ch.input = none → (Transport.openInput ch.device).1 = .ok ()

variable [InputDevice δ]

/-- What is to come from a channel, as text. -/
def coming (ch : Channel δ) : Coming Char := if ch.ended then [] else ch.chain.coming ch.device

/-- The same channel, but for its notes, with the input side built. -/
structure Built (ch ch' : Channel δ) : Prop where
  input : ch'.input = some ch.chain
  device : RawStream.coming ch'.device = RawStream.coming ch.device
  closed : ch'.closed = ch.closed
  mode : ch'.mode = ch.mode
  settings : ch'.settings = ch.settings
  output : ch'.output = ch.output
  ended : ch'.ended = ch.ended

theorem buildInput_built {ch : Channel δ} (h : ch.Readable) :
    ch.buildInput.1 = .ok ch.chain ∧ Built ch ch.buildInput.2 := by
  unfold buildInput
  cases hi : ch.input with
  | some c => exact ⟨by simp [chain, hi], ⟨by simp [chain, hi], rfl, rfl, rfl, rfl, rfl, rfl⟩⟩
  | none =>
    have hopen := h.opens hi
    have hdev := InputDevice.coming_openInput ch.device
    rcases hd : Transport.openInput ch.device with ⟨e | _, d⟩
    · simp [hd] at hopen
    · rw [hd] at hdev
      exact ⟨by simp [chain, hi], ⟨by simp [chain, hi, note], hdev, rfl, rfl, rfl, rfl, rfl⟩⟩

/-- A read of a channel that has not ended is a read of its input side; the rest is notes. -/
theorem read_eq {ch : Channel δ} (h : ch.Readable) (he : ch.ended = false) (kind : ReadKind)
    (dst : Data) :
    ∃ j, read kind dst ch =
      let r := readThrough dst ch.chain ch.buildInput.2 (wanted kind)
      (r.1, { r.2 with journal := j }) := by
  have hcheck : ch.checkRead = .ok () := by simp [checkRead, h.opened, h.mode]
  have hflush : (if ch.mode.isWritable then ch.flushOutput else (.ok (), ch)) = (.ok (), ch) := by
    simp [flushOutput, h.quiet]
  obtain ⟨hok, -⟩ := buildInput_built h
  have hbuild : ch.buildInput = (.ok ch.chain, ch.buildInput.2) := by rw [← hok]
  exact read_through hcheck he hflush hbuild kind dst

/-- What no read changes. -/
structure After (ch ch' : Channel δ) : Prop where
  readable : ch'.Readable
  settings : ch'.settings = ch.settings
  free : '\n' ∉ ch.chain.lines.partialLine → '\n' ∉ ch'.chain.lines.partialLine

/-- A channel after a read of the input side: that side, the device and the end are new. -/
def renew (c : Input.Chain) (d : δ) (ended : Bool) (j : List Event) (ch : Channel δ) : Channel δ :=
  { ch with device := d, input := some c, ended := ended, journal := j }

theorem Built.readable {ch ch' : Channel δ} (hb : Built ch ch') (h : ch.Readable) (c : Input.Chain)
    (d : δ) (ended : Bool) (j : List Event) : (ch'.renew c d ended j).Readable where
  opened := hb.closed.trans h.opened
  mode := by simp [renew, hb.mode, h.mode]
  quiet := hb.output.trans h.quiet
  opens hnone := by simp [renew] at hnone

theorem Built.after {ch ch' : Channel δ} (hb : Built ch ch') (h : ch.Readable) {c : Input.Chain}
    (hf : '\n' ∉ ch.chain.lines.partialLine → '\n' ∉ c.lines.partialLine) (d : δ) (ended : Bool)
    (j : List Event) : After ch (ch'.renew c d ended j) where
  readable := hb.readable h c d ended j
  settings := hb.settings
  free := hf

/-- What is to come is what is to come from the new input side, if an end was the end of that. -/
theorem coming_renew {c : Input.Chain} {d : δ} {ended : Bool}
    (hnil : ended = true → c.coming d = []) (j : List Event) (ch : Channel δ) :
    (ch.renew c d ended j).coming = c.coming d := by
  unfold coming
  split
  · exact (hnil ‹_›).symm
  · rfl

theorem Built.coming {ch ch' : Channel δ} (hb : Built ch ch') (he : ch.ended = false) :
    ch.chain.coming ch'.device = ch.coming := by
  rw [Input.Chain.coming_congr hb.device, Channel.coming, he]
  rfl

section Single
variable {ch : Channel δ} (h : ch.Readable) (he : ch.ended = false)
include h he

/-- A read of text for `n` units is one of the input side. -/
theorem read_text_eq (hb : ch.settings.encoding.isBinary = false) {kind : ReadKind} {n : Nat}
    (hk : wanted kind = some n) (dst : Data) :
    ∃ j, read kind dst ch =
      let r := ch.chain.readText n ch.buildInput.2.device
      (⟨statusOf r.1.1.length r.1.2, dst.appendText r.1.1⟩,
        ch.buildInput.2.renew r.2.1 r.2.2 (r.1.2 = .ended) j) := by
  obtain ⟨j, hj⟩ := read_eq h he kind dst
  obtain ⟨-, hbuilt⟩ := buildInput_built h
  have hbin : ch.buildInput.2.settings.encoding.isBinary = false := by rw [hbuilt.settings, hb]
  simp only [hk, readThrough, readUnits, hbin, Bool.false_eq_true, if_false] at hj
  refine ⟨j, hj.trans ?_⟩
  simp [renew, hbuilt.ended, he]

/-- On a binary channel it is one for bytes. -/
theorem read_bytes_eq (hb : ch.settings.encoding.isBinary = true) {kind : ReadKind} {n : Nat}
    (hk : wanted kind = some n) (dst : Data) :
    ∃ j, read kind dst ch =
      let r := ch.chain.readBytes n ch.buildInput.2.device
      (⟨statusOf r.1.1.length r.1.2, dst.appendBytes r.1.1⟩,
        ch.buildInput.2.renew r.2.1 r.2.2 (r.1.2 = .ended) j) := by
  obtain ⟨j, hj⟩ := read_eq h he kind dst
  obtain ⟨-, hbuilt⟩ := buildInput_built h
  have hbin : ch.buildInput.2.settings.encoding.isBinary = true := by rw [hbuilt.settings, hb]
  simp only [hk, readThrough, readUnits, hbin, if_true] at hj
  refine ⟨j, hj.trans ?_⟩
  simp [renew, hbuilt.ended, he]

/-- A read of a line is one of the input side. An end that is noted is the end of that. -/
theorem read_line_eq (dst : Data) :
    let r := ch.chain.readLine ch.settings.blocking ch.buildInput.2.device
    ∃ ended j, read .line dst ch =
        (lineReading ch.settings.encoding dst r.1, ch.buildInput.2.renew r.2.1 r.2.2 ended j) ∧
      (ended = true → r.1 = .ended ∨ r.2.1.lines.isEnded = true) ∧
      (r.1 = .ended → ended = true) := by
  obtain ⟨j, hj⟩ := read_eq h he .line dst
  obtain ⟨-, hbuilt⟩ := buildInput_built h
  generalize ch.buildInput.2 = ch' at hj hbuilt ⊢
  simp only [wanted, readThrough, readLine] at hj
  rw [← hbuilt.settings]
  rcases hq : ch.chain.readLine ch'.settings.blocking ch'.device with ⟨l, c, d⟩
  rw [hq] at hj
  dsimp only at hj ⊢
  cases l with
  | line text => exact ⟨_, j, hj, .inr, by simp⟩
  | blocked => exact ⟨_, j, hj, .inr, by simp⟩
  | ended => exact ⟨true, j, hj, fun _ => .inl rfl, fun _ => rfl⟩
  | failed e =>
    refine ⟨ch'.ended, j, hj, fun hend => ?_, by simp⟩
    simp [hbuilt.ended, he] at hend

/-- Of a line that was read it is noted whether it is the last. -/
theorem read_line_of_line {text : List Char} {c : Input.Chain} {d : δ}
    (hl : ch.chain.readLine ch.settings.blocking ch.buildInput.2.device = (.line text, c, d))
    (dst : Data) :
    ∃ j, read .line dst ch = (lineReading ch.settings.encoding dst (.line text),
      ch.buildInput.2.renew c d c.lines.isEnded j) := by
  obtain ⟨j, hj⟩ := read_eq h he .line dst
  obtain ⟨-, hbuilt⟩ := buildInput_built h
  generalize ch.buildInput.2 = ch' at hj hbuilt hl ⊢
  rw [← hbuilt.settings] at hl ⊢
  simp only [wanted, readThrough, readLine, hl] at hj
  exact ⟨j, hj⟩

end Single

/-- A read of text for `n` units takes what it brings from what is to come. -/
theorem read_units {ch : Channel δ} (h : ch.Readable) (he : ch.ended = false)
    (hb : ch.settings.encoding.isBinary = false) {kind : ReadKind} {n : Nat}
    (hk : wanted kind = some n) (dst : Data) :
    ∃ us halt,
      Input.Lines.Run us halt ch.coming (read kind dst ch).2.coming ∧ Fulfils n (us, halt) ∧
      (read kind dst ch).1 = ⟨statusOf us.length halt, dst.appendText us⟩ ∧
      After ch (read kind dst ch).2 := by
  obtain ⟨j, hj⟩ := read_text_eq h he hb hk dst
  obtain ⟨-, hbuilt⟩ := buildInput_built h
  obtain ⟨hrun, hsuffix, hful⟩ := ch.chain.readText_run n ch.buildInput.2.device
  rw [hbuilt.coming he] at hrun
  rcases hq : ch.chain.readText n ch.buildInput.2.device with ⟨⟨us, halt⟩, c, d⟩
  rw [hq] at hj hrun hsuffix hful
  rw [hj]
  refine ⟨us, halt, ?_, hful, rfl, hbuilt.after h ?_ d _ j⟩
  · rw [coming_renew]
    · exact hrun
    · intro hend
      apply hrun.2
      simpa using hend
  · exact fun hfree hmem => hfree (hsuffix.subset hmem)

/-- Why a read of a line stops. -/
def lineStop (ch : Channel δ) : Input.Lines.Stop :=
  ch.chain.lineStop ch.settings.blocking ch.buildInput.2.device

/-- A read of a line takes what it delivers from what is to come. -/
theorem read_line {ch : Channel δ} (h : ch.Readable) (he : ch.ended = false) (dst : Data) :
    ∃ l,
      Input.Lines.Delivers l ch.lineStop ch.coming (read .line dst ch).2.coming ∧
      (ch.lineStop = .wouldBlock → ch.settings.blocking = false) ∧
      (read .line dst ch).1 = lineReading ch.settings.encoding dst l ∧
      After ch (read .line dst ch).2 ∧
      ('\n' ∉ ch.chain.lines.partialLine → ∀ text, l = .line text → '\n' ∉ text) := by
  obtain ⟨ended, j, hj, hnote, -⟩ := read_line_eq h he dst
  obtain ⟨-, hbuilt⟩ := buildInput_built h
  obtain ⟨hdel, hpat⟩ := ch.chain.readLine_delivers ch.settings.blocking ch.buildInput.2.device
  have hfree := fun hf =>
    Input.Chain.readLine_free ch.settings.blocking (c := ch.chain) hf ch.buildInput.2.device
  rw [hbuilt.coming he] at hdel
  have hstop : ch.chain.lineStop ch.settings.blocking ch.buildInput.2.device = ch.lineStop := rfl
  rw [hstop] at hdel hpat
  rcases hq : ch.chain.readLine ch.settings.blocking ch.buildInput.2.device with ⟨l, c, d⟩
  rw [hq] at hj hdel hfree hnote
  dsimp only at hdel hnote
  have hnil : ended = true → c.coming d = [] := by
    intro hend
    rcases hnote hend with rfl | hlast
    · cases hs : ch.lineStop with
      | ended =>
        rw [hs] at hdel
        exact hdel.1
      | newline =>
        rw [hs] at hdel
        obtain ⟨text, htext, -⟩ := hdel
        simp at htext
      | wouldBlock | failed =>
        rw [hs] at hdel
        exact absurd hdel.1 (by simp)
    · exact Input.Chain.coming_of_isEnded hlast d
  rw [hj]
  refine ⟨l, ?_, hpat, rfl, hbuilt.after h (fun hf => (hfree hf).1) d ended j, fun hf => (hfree hf).2⟩
  rw [coming_renew hnil]
  exact hdel

omit [InputDevice δ] in
/-- A read through the input side renews it, and changes nothing else. -/
theorem exists_renew_readThrough (dst : Data) (c : Input.Chain) (ch : Channel δ) (n : Option Nat)
    (j : List Event) :
    ∃ c' d ended, { (readThrough dst c ch n).2 with journal := j } = ch.renew c' d ended j := by
  cases n with
  | some n =>
    simp only [readThrough, readUnits]
    split <;> exact ⟨_, _, _, rfl⟩
  | none =>
    simp only [readThrough, readLine]
    split <;> exact ⟨_, _, _, rfl⟩

omit [InputDevice δ] in
/-- A channel that has ended answers so at once, and stays as it is. -/
theorem read_ended {ch : Channel δ} (h : ch.Readable) (he : ch.ended = true) (kind : ReadKind)
    (dst : Data) : read kind dst ch = (⟨.ok .ended, dst⟩, ch) := by
  have hcheck : ch.checkRead = .ok () := by simp [checkRead, h.opened, h.mode]
  simp [read, hcheck, he]

/-- No read changes the settings, or keeps the channel from being read. -/
theorem read_keeps {ch : Channel δ} (h : ch.Readable) (kind : ReadKind) (dst : Data) :
    (read kind dst ch).2.Readable ∧ (read kind dst ch).2.settings = ch.settings := by
  by_cases he : ch.ended = true
  · rw [read_ended h he]
    exact ⟨h, rfl⟩
  · obtain ⟨j, hj⟩ := read_eq h (Bool.eq_false_iff.2 he) kind dst
    obtain ⟨-, hbuilt⟩ := buildInput_built h
    obtain ⟨c, d, ended, hrenew⟩ :=
      exists_renew_readThrough dst ch.chain ch.buildInput.2 (wanted kind) j
    dsimp only at hj
    rw [hj, hrenew]
    exact ⟨hbuilt.readable h c d ended j, hbuilt.settings⟩

end Channel

end ScriptChannel
