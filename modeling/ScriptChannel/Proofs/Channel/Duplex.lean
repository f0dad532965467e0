import ScriptChannel.Proofs.Channel.Clear
import ScriptChannel.Proofs.Channel.Stored
import ScriptChannel.Proofs.Input.Remaining

/-!
# A channel that is read and written

A read of a channel that is written to as well sends off first what waits to be written. Then it is the
read of a channel that has no output side. Whichever side a call is for, the cursors of the memory stay
within its bytes, and no more is left over on the input side than was read.
-/

namespace ScriptChannel.Channel
open Transport Input

section Output
variable {δ : Type} [Transport δ]

/-- The channel with this output side. -/
def withOutput (o : Option Output) (ch : Channel δ) : Channel δ := { ch with output := o }

theorem buildInput_withOutput (o : Option Output) (ch : Channel δ) :
    (ch.withOutput o).buildInput = Prod.map id (withOutput o) ch.buildInput := by
  obtain ⟨d, m, s, name, owners, ended, closed, input, output, j⟩ := ch
  cases input with
  | some c => rfl
  | none =>
    simp only [buildInput, withOutput]
    rcases Transport.openInput d with ⟨e | _, d'⟩ <;> rfl

theorem readUnits_withOutput (o : Option Output) (n : Nat) (dst : Data) (c : Chain) (ch : Channel δ) :
    readUnits n dst c (ch.withOutput o) = Prod.map id (withOutput o) (readUnits n dst c ch) := by
  have hsame : (ch.withOutput o).settings = ch.settings := rfl
  simp only [readUnits, hsame]
  split <;> rfl

theorem readLine_withOutput (o : Option Output) (dst : Data) (c : Chain) (ch : Channel δ) :
    readLine dst c (ch.withOutput o) = Prod.map id (withOutput o) (readLine dst c ch) := by
  obtain ⟨d, m, s, name, owners, ended, closed, input, output, j⟩ := ch
  simp only [readLine, withOutput]
  rcases c.readLine s.blocking d with ⟨l, c', d'⟩
  cases l <;> rfl

/-- Once the output was sent off a read has nothing to do with the output side. -/
theorem read_of_flush {ch ch' : Channel δ} (hw : ch.mode.isWritable = true)
    (hcheck : ch.checkRead = .ok ()) (hcheck' : ch'.checkRead = .ok ()) (he : ch.ended = false)
    (he' : ch'.ended = false) (hflush : ch.flushOutput = (.ok (), ch')) (kind : ReadKind)
    (dst : Data) :
    read kind dst ch = Prod.map id (withOutput ch'.output) (read kind dst (ch'.withOutput none)) := by
  have hnone : (ch'.withOutput none).flushOutput = (.ok (), ch'.withOutput none) := rfl
  have hapart : (ch'.withOutput none).checkRead = .ok () := hcheck'
  have hended : (ch'.withOutput none).ended = false := he'
  have hback : ch' = (ch'.withOutput none).withOutput ch'.output := rfl
  simp only [read, hcheck, hapart, he, hended, hw, hflush, hnone, if_true, Bool.false_eq_true, if_false,
    ite_self]
  generalize ch'.withOutput none = ch₀ at hback ⊢
  rw [hback, buildInput_withOutput]
  change _ = Prod.map id (withOutput ch'.output) _
  generalize ch'.output = o
  rcases ch₀.buildInput with ⟨e | c, ch₁⟩
  · rfl
  have hline := readLine_withOutput o dst c ch₁
  have hunits := fun n => readUnits_withOutput o n dst c ch₁
  cases kind with
  | line =>
    simp only [Prod.map_apply, Prod.map_fst, Prod.map_snd, id, hline]
    split <;> rfl
  | all | units n =>
    simp only [Prod.map_apply, Prod.map_fst, Prod.map_snd, id, hunits]
    split <;> rfl

end Output

section Memory

/-- Sending the output off has to do with the output side and the memory alone. -/
theorem drained_eq (ch : Channel Memory) :
    ch.drained = { ch with output := ch.drained.output, device := ch.drained.device } := by
  obtain ⟨d, m, s, name, owners, ended, closed, input, output, j⟩ := ch
  cases output <;> rfl

theorem openEnded_drained (ch : Channel Memory) :
    ch.drained.device.openEnded = ch.device.openEnded := by
  unfold drained
  cases ch.output <;> simp

/-- The channel as a read finds it: what waited was sent off, and the output side is set apart. -/
def shadow (ch : Channel Memory) (h : ch.device.openEnded = false) : Channel Complete :=
  { device := ⟨ch.drained.device, (openEnded_drained ch).trans h⟩, mode := ch.mode,
    settings := ch.settings, name := ch.name, owners := ch.owners, ended := ch.ended,
    closed := ch.closed, input := ch.input, output := none, journal := ch.journal }

variable {ch : Channel Memory}

theorem shadow_readable (hc : ch.closed = false) (hr : ch.mode.isReadable = true)
    (h : ch.device.openEnded = false) : (ch.shadow h).Readable :=
  ⟨hc, hr, rfl, fun _ => rfl⟩

/-- A read is one of its shadow. -/
theorem read_shadow (hc : ch.closed = false) (hr : ch.mode.isReadable = true)
    (hw : ch.mode.isWritable = true) (he : ch.ended = false) (h : ch.device.openEnded = false)
    (kind : ReadKind) (dst : Data) :
    read kind dst ch = Prod.map id (fun q => (q.onto Complete.memory).withOutput ch.drained.output)
      (read kind dst (ch.shadow h)) := by
  have hdrains := drains_drained ch
  have hended : ch.drained.ended = ch.ended := (congrArg Channel.ended ch.drained_eq :)
  have hshadow : ch.drained.withOutput none = (ch.shadow h).onto Complete.memory :=
    congrArg (withOutput none) ch.drained_eq
  have hcheck : ch.checkRead = .ok () := by simp [checkRead, hc, hr]
  have hcheck' : ch.drained.checkRead = .ok () := by
    simp [checkRead, hdrains.mode, hdrains.closed, hc, hr]
  rw [read_of_flush hw hcheck hcheck' he (hended.trans he) (flushOutput_memory ch), hshadow,
    read_onto Complete.mirrors rfl]
  rfl

/-- A channel of bytes over a memory that does not go on, with both cursors within the bytes. -/
structure Duplex (ch : Channel Memory) : Prop where
  opened : ch.closed = false
  readable : ch.mode.isReadable = true
  writable : ch.mode.isWritable = true
  append : ch.mode.isAppend = false
  binary : ch.settings.encoding = .binary
  finite : ch.device.openEnded = false
  writer : ch.device.writePos ≤ ch.device.bytes.length
  trails : Chain.Trails ch.device.bytes ch.device.writePos ch.chain ch.device

theorem duplex_opened {bs : List UInt8} {mode : OpenMode} {s : Settings}
    (hr : mode.isReadable = true) (hw : mode.isWritable = true) (ha : mode.isAppend = false)
    (hb : s.encoding = .binary) : (opened (Memory.ofBytes bs) mode s).Duplex where
  opened := rfl
  readable := hr
  writable := hw
  append := ha
  binary := hb
  finite := rfl
  writer := Nat.zero_le _
  trails := ⟨hb, rfl, rfl, Nat.zero_le _, Nat.zero_le _⟩

/-- With the same settings it depends on the memory and the input side. -/
theorem Duplex.remade {ch' : Channel Memory} (h : ch.Duplex) (hclosed : ch'.closed = ch.closed)
    (hmode : ch'.mode = ch.mode) (hsettings : ch'.settings = ch.settings)
    (hfinite : ch'.device.openEnded = false)
    (hwriter : ch'.device.writePos ≤ ch'.device.bytes.length)
    (htrails : Chain.Trails ch'.device.bytes ch'.device.writePos ch'.chain ch'.device) :
    ch'.Duplex :=
  ⟨hclosed.trans h.opened, hmode ▸ h.readable, hmode ▸ h.writable, hmode ▸ h.append,
    hsettings ▸ h.binary, hfinite, hwriter, htrails⟩

theorem chain_drained (ch : Channel Memory) : ch.drained.chain = ch.chain := by
  rw [drained_eq]
  rfl

theorem readPos_drained (ch : Channel Memory) : ch.drained.device.readPos = ch.device.readPos := by
  unfold drained
  cases ch.output <;> simp

/-- Sending off what waits moves the write cursor with the bytes. -/
theorem Duplex.drained (h : ch.Duplex) : ch.drained.Duplex := by
  have hdrains := drains_drained ch
  have hlen := Memory.length_le_stored ch.waiting ch.device
  have hwriter := Memory.writePos_le_stored h.writer ch.waiting
  rw [← hdrains.bytes] at hlen hwriter
  rw [Memory.writePos_stored, ← writePos_drained] at hwriter
  have hwithin := h.trails.within
  have hbacklog := h.trails.backlog
  rw [← readPos_drained] at hwithin hbacklog
  refine h.remade hdrains.closed hdrains.mode hdrains.settings
    ((openEnded_drained ch).trans h.finite) hwriter ?_
  rw [chain_drained]
  exact ⟨h.trails.encoding, rfl, rfl, Nat.le_trans hwithin hlen, hbacklog⟩

/-- The memory as a read finds it. -/
def Duplex.found (h : ch.Duplex) : Complete := ⟨ch.drained.device, h.drained.finite⟩

theorem Duplex.trails_found (h : ch.Duplex) : Chain.Trails ch.drained.device.bytes
    ch.drained.device.writePos ch.chain h.found.memory := by
  have htrails := h.drained.trails
  rwa [chain_drained] at htrails

theorem buildInput_complete (ch : Channel Complete) :
    ∃ j, ch.buildInput.2 = { ch with input := some ch.chain, journal := j } := by
  unfold buildInput chain
  cases hi : ch.input with
  | none => exact ⟨_, rfl⟩
  | some c => exact ⟨ch.journal, by dsimp only; rw [Option.getD_some, ← hi]⟩

theorem Duplex.read_ended (h : ch.Duplex) (he : ch.ended = true) (kind : ReadKind) (dst : Data) :
    Channel.read kind dst ch = (⟨.ok .ended, dst⟩, ch) := by
  simp [Channel.read, checkRead, h.opened, h.readable, he]

section Read
variable (h : ch.Duplex) (he : ch.ended = false) (dst : Data)
include h he

/-- A read for bytes is one of the input side. -/
theorem Duplex.read_units_eq {kind : ReadKind} {n : Nat} (hk : wanted kind = some n) :
    let r := ch.chain.readBytes n h.found
    ∃ j, read kind dst ch = (⟨statusOf r.1.1.length r.1.2, dst.appendBytes r.1.1⟩,
      ch.drained.renew r.2.1 r.2.2.memory (r.1.2 = .ended) j) := by
  have hready := shadow_readable h.opened h.readable h.finite
  obtain ⟨j, hj⟩ := read_bytes_eq hready he (by simp [shadow, h.binary, Encoding.isBinary]) hk dst
  obtain ⟨j', hbuild⟩ := buildInput_complete (ch.shadow h.finite)
  rw [hbuild] at hj
  refine ⟨j, ?_⟩
  rw [read_shadow h.opened h.readable h.writable he h.finite, hj, drained_eq]
  rfl

/-- And so is a read of a line. -/
theorem Duplex.read_line_eq :
    let r := ch.chain.readLine ch.settings.blocking h.found
    ∃ ended j, read .line dst ch =
      (lineReading ch.settings.encoding dst r.1, ch.drained.renew r.2.1 r.2.2.memory ended j) := by
  have hready := shadow_readable h.opened h.readable h.finite
  obtain ⟨ended, j, hj, -, -⟩ := Channel.read_line_eq hready he dst
  obtain ⟨j', hbuild⟩ := buildInput_complete (ch.shadow h.finite)
  rw [hbuild] at hj
  refine ⟨ended, j, ?_⟩
  rw [read_shadow h.opened h.readable h.writable he h.finite, hj, drained_eq]
  rfl

end Read

/-- Behind a read, or a look at the end that was seen before, the cursors are within the bytes. -/
theorem Duplex.read (h : ch.Duplex) (kind : ReadKind) (dst : Data) :
    (read kind dst ch).2.Duplex := by
  by_cases he : ch.ended = true
  · rwa [h.read_ended he]
  have he := Bool.eq_false_iff.2 he
  have hdrained := h.drained
  have hrenewed : ∀ (c : Chain) (d : Complete) (ended : Bool) (j : List Event),
      Chain.Trails ch.drained.device.bytes ch.drained.device.writePos c d.memory →
        (ch.drained.renew c d.memory ended j).Duplex := by
    intro c d ended j htrails
    have hwriter := hdrained.writer
    rw [← htrails.writePos, ← htrails.bytes] at hwriter
    refine hdrained.remade rfl rfl rfl d.finite hwriter ?_
    exact ⟨htrails.encoding, rfl, rfl, htrails.bytes.symm ▸ htrails.within, htrails.backlog⟩
  cases hk : wanted kind with
  | some n =>
    obtain ⟨j, hread⟩ := h.read_units_eq he dst hk
    rw [hread]
    exact hrenewed _ _ _ _ (h.trails_found.readBytes n)
  | none =>
    obtain rfl : kind = .line := by cases kind <;> simp [wanted] at hk ⊢
    obtain ⟨ended, j, hread⟩ := h.read_line_eq he dst
    rw [hread]
    exact hrenewed _ _ _ _ (h.trails_found.readLine _)

/-- A write has to do with the output side and what it sends off, if it sends off anything. -/
theorem Duplex.write_eq (h : ch.Duplex) (p : Payload) :
    ∃ o sync sent j, (ch.write p).2 =
      { ch with output := o, device := ch.device.flushed sync sent, journal := j } := by
  by_cases hb : ch.settings.blocking = true
  · have haimed : ch.aimed = ch := if_neg (by simp [h.append])
    have hcheck : ch.checkWrite = .ok () := by simp [checkWrite, h.opened, h.writable, hb]
    obtain ⟨sent, kept, j, -, hwrite⟩ := write_memory hcheck p
    rw [haimed] at hwrite
    rw [hwrite]
    exact ⟨_, _, sent, j, rfl⟩
  · have hrefused : (ch.write p).2 = ch := by simp [Channel.write, checkWrite, h.opened, h.writable, hb]
    rw [hrefused]
    exact ⟨ch.output, false, [], ch.journal, by rw [Memory.flushed_nil]⟩

/-- What it sends off ends at the write cursor, so that is within the bytes again. -/
theorem Duplex.write (h : ch.Duplex) (p : Payload) : (ch.write p).2.Duplex := by
  obtain ⟨o, sync, sent, j, hwrite⟩ := h.write_eq p
  have hlen := Memory.length_le_stored sent ch.device
  have hwriter := Memory.writePos_le_stored h.writer sent
  rw [hwrite]
  refine h.remade rfl rfl rfl (by simp [h.finite]) (by simpa using hwriter)
    ⟨h.trails.encoding, rfl, rfl, ?_, ?_⟩
  · simpa using Nat.le_trans h.trails.within hlen
  · rw [Memory.readPos_flushed]
    exact h.trails.backlog

theorem Duplex.flush_eq (h : ch.Duplex) : ch.flush = (.ok (), ch.drained) := by
  simp [flush, checkOpen, h.opened, h.writable, flushOutput_memory]

/-- Behind a seek within the bytes nothing is left over, unless it was out of reach. -/
theorem Duplex.seek (h : ch.Duplex) {n : Nat} (hn : n ≤ ch.drained.device.bytes.length) :
    (ch.seek (.fromStart n)).2.Duplex := by
  have hdrained := h.drained
  rcases Memory.seek_cases (ch.drained.deviceRelative (.fromStart n)) ch.drained.device with
    ⟨e, hq⟩ | hq
  · rw [seek_eq_error h.opened (flushOutput_memory ch) hq]
    exact hdrained
  · obtain ⟨j, hseek⟩ := seek_eq h.opened (flushOutput_memory ch) hq
    rw [hseek]
    have haddress : (ch.drained.device.address (ch.drained.deviceRelative (.fromStart n))).toNat = n :=
      Int.toNat_natCast n
    rw [haddress]
    refine hdrained.remade rfl rfl rfl hdrained.finite hn ?_
    have hencoding := hdrained.trails.encoding
    unfold chain at hencoding ⊢
    cases hi : ch.drained.input with
    | none => exact ⟨hdrained.binary, rfl, rfl, hn, Nat.zero_le _⟩
    | some c =>
      rw [hi] at hencoding
      refine ⟨(c.resumed_keeps n).2.1.trans hencoding, rfl, rfl, hn, ?_⟩
      exact Nat.le_trans (Nat.le_of_eq (c.backlog_resumed .binary n)) (Nat.zero_le n)

end Memory

end ScriptChannel.Channel
