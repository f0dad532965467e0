import ScriptChannel.Channel.Close
import ScriptChannel.Channel.Write
import ScriptChannel.Proofs.Channel.Closing
import ScriptChannel.Proofs.Transport.Memory

/-!
# A channel over a memory

Nothing goes wrong over a memory. A flush puts what waits on the output side where the write cursor
is, and reads leave that cursor and the bytes alone.
-/

namespace ScriptChannel.Channel
open Transport

/-- The bytes that wait on the output side. -/
def waiting {δ : Type} (ch : Channel δ) : List UInt8 := (ch.output.map (·.buffer)).getD []

/-- The channel with its output flushed. -/
def drained (ch : Channel Memory) : Channel Memory :=
  match ch.output with
  | none => ch
  | some o => { ch with
      output := some { o with buffer := [] }
      device := ch.device.flushed o.sync o.buffer }

theorem flushOutput_memory (ch : Channel Memory) : ch.flushOutput = (.ok (), ch.drained) := by
  unfold flushOutput drained
  cases ch.output with
  | none => rfl
  | some o =>
    simp only [Output.flush_memory]
    rfl

/-- The second channel is the first after its output was flushed, wherever its cursors are. -/
structure Drains (ch ch' : Channel Memory) : Prop where
  bytes : ch'.device.bytes = (ch.device.stored ch.waiting).bytes
  output : ch'.output = ch.output.map ({ · with buffer := [] })
  mode : ch'.mode = ch.mode
  settings : ch'.settings = ch.settings
  closed : ch'.closed = ch.closed

theorem drains_drained (ch : Channel Memory) : Drains ch ch.drained := by
  unfold drained
  cases ho : ch.output with
  | none => exact ⟨by simp [waiting, ho], by simp [ho], rfl, rfl, rfl⟩
  | some o => exact ⟨by simp [waiting, ho], by simp [ho], rfl, rfl, rfl⟩

theorem writePos_drained (ch : Channel Memory) :
    ch.drained.device.writePos = ch.device.writePos + ch.waiting.length := by
  unfold drained
  cases ho : ch.output with
  | none => simp [waiting, ho]
  | some o => simp [waiting, ho]

theorem Drains.waiting {ch ch' : Channel Memory} (h : Drains ch ch') : ch'.waiting = [] := by
  rw [Channel.waiting, h.output]
  cases ch.output <;> rfl

/-- The second channel is the first after its output was flushed and the memory was sought through. -/
structure Moves (p : Place) (ch ch' : Channel Memory) : Prop where
  device : ch'.device = (Transport.seek p ch.drained.device).2
  output : ch'.output = ch.drained.output
  mode : ch'.mode = ch.drained.mode
  settings : ch'.settings = ch.drained.settings
  closed : ch'.closed = ch.drained.closed

/-- Where the cursors are sent makes no difference to what is flushed. -/
theorem Moves.drains {p : Place} {ch ch' : Channel Memory} (h : Moves p ch ch') :
    Drains ch ch' := by
  obtain ⟨hbytes, houtput, hmode, hsettings, hclosed⟩ := drains_drained ch
  refine ⟨?_, h.output.trans houtput, h.mode.trans hmode, h.settings.trans hsettings,
    h.closed.trans hclosed⟩
  rw [h.device, ← hbytes]
  rcases Memory.seek_cases p ch.drained.device with ⟨e, hq⟩ | hq
  · rw [hq]
  · rw [hq]
    rfl

theorem seek_moves {ch : Channel Memory} (h : ch.closed = false) (p : Place) :
    Moves (ch.drained.deviceRelative p) ch (ch.seek p).2 := by
  simp only [seek, checkOpen, h, Bool.false_eq_true, if_false, flushOutput_memory]
  rcases hq : Transport.seek (ch.drained.deviceRelative p) ch.drained.device with ⟨e | n, m⟩
  all_goals have hdevice := (congrArg Prod.snd hq).symm
  · exact ⟨hdevice, rfl, rfl, rfl, rfl⟩
  · dsimp only
    split <;> exact ⟨hdevice, rfl, rfl, rfl, rfl⟩

theorem seekToEnd_moves {ch : Channel Memory} (h : ch.closed = false) :
    Moves (.fromEnd 0) ch ch.seekToEnd := by
  have hrelative : ch.drained.deviceRelative (.fromEnd 0) = .fromEnd 0 := rfl
  have hmoves := seek_moves h (.fromEnd 0)
  rw [hrelative] at hmoves
  unfold seekToEnd
  rcases hq : ch.seek (.fromEnd 0) with ⟨e | n, ch'⟩
  all_goals rw [hq] at hmoves
  · exact ⟨hmoves.device, hmoves.output, hmoves.mode, hmoves.settings, hmoves.closed⟩
  · exact hmoves

theorem seek_drains {ch : Channel Memory} (h : ch.closed = false) (p : Place) :
    Drains ch (ch.seek p).2 := (seek_moves h p).drains

theorem seekToEnd_drains {ch : Channel Memory} (h : ch.closed = false) :
    Drains ch ch.seekToEnd := (seekToEnd_moves h).drains

/-- The end of a memory is found unless it is out of reach. -/
theorem seek_fromEnd (m : Memory) (h : m.bytes.length < UInt64.size) :
    Transport.seek (.fromEnd 0) m =
      (.ok m.bytes.length, { m with readPos := m.bytes.length, writePos := m.bytes.length }) := by
  rw [Memory.length_bytes] at h ⊢
  have hplace : m.address (.fromEnd 0) = m.contents.size := by simp [Memory.address]
  simp only [Transport.seek, Memory.seek, hplace, Int.toNat_natCast]
  rw [if_pos ⟨Int.natCast_nonneg _, by exact_mod_cast h⟩]

theorem writePos_seekToEnd {ch : Channel Memory} (h : ch.closed = false)
    (hlt : (ch.device.stored ch.waiting).bytes.length < UInt64.size) :
    ch.seekToEnd.device.writePos = ch.seekToEnd.device.bytes.length := by
  rw [← (drains_drained ch).bytes] at hlt
  rw [(seekToEnd_moves h).device, seek_fromEnd _ hlt]
  rfl

/-- A cursor at the end stays there when it is sent there, out of reach or not. -/
theorem atEnd_seekToEnd {ch : Channel Memory} (hc : ch.closed = false)
    (h : ch.drained.device.bytes.length = ch.drained.device.writePos) :
    ch.seekToEnd.device.bytes.length = ch.seekToEnd.device.writePos := by
  rw [(seekToEnd_moves hc).device]
  rcases Memory.seek_cases (.fromEnd 0) ch.drained.device with ⟨e, hq⟩ | hq
  · rw [hq]
    exact h
  · rw [hq, Memory.address_fromEnd]
    rfl

/-- The output side, or the one that would be built. -/
def outputSide (ch : Channel Memory) : Output :=
  ch.output.getD (newOutput ch.settings ch.device.kind.requiresSync)

theorem buffer_outputSide (ch : Channel Memory) : ch.outputSide.buffer = ch.waiting := by
  unfold outputSide waiting
  cases ch.output <;> rfl

/-- What is so of an output side just built and of the one that is there. -/
theorem outputSide_of {P : Output → Prop} {ch : Channel Memory}
    (hnew : P (newOutput ch.settings ch.device.kind.requiresSync))
    (hold : ∀ o, ch.output = some o → P o) : P ch.outputSide := by
  unfold outputSide
  cases ho : ch.output with
  | none => exact hnew
  | some o => exact hold o ho

theorem buildOutput_memory (ch : Channel Memory) :
    ∃ j, ch.buildOutput =
      (.ok ch.outputSide, { ch with output := some ch.outputSide, journal := j }) := by
  unfold buildOutput outputSide
  cases ho : ch.output with
  | none => exact ⟨_, rfl⟩
  | some o =>
    refine ⟨ch.journal, ?_⟩
    rw [Option.getD_some]
    dsimp only
    rw [← ho]

/-- The channel where a write begins. -/
def aimed {δ : Type} [Transport δ] (ch : Channel δ) : Channel δ :=
  if ch.mode.isAppend then ch.seekToEnd else ch

/-- A write that is not refused goes well. It sends off some of what waits then, or nothing. -/
theorem write_memory {ch : Channel Memory} (h : ch.checkWrite = .ok ()) (p : Payload) :
    let o := ch.aimed.outputSide
    let inked := o.encode (Output.translate o.translation p.chars)
    ∃ sent kept j, sent ++ kept = inked.buffer ∧ ch.write p = (.ok (), { ch.aimed with
      output := some { inked with buffer := kept }
      device := ch.aimed.device.flushed o.sync sent
      journal := j }) := by
  intro o inked
  obtain ⟨j, hbuild⟩ := buildOutput_memory ch.aimed
  obtain ⟨sent, kept, hwritten, hall⟩ := Output.write_memory p o ch.aimed.device
  refine ⟨sent, kept, j, hall, ?_⟩
  unfold aimed at *
  simp only [write, h, hbuild, runOutput]
  simp only [o, aimed] at hwritten
  rw [hwritten]
  rfl

/-- What closing puts behind what waits. A channel that was never written to has the end marker. -/
def ending {δ : Type} (ch : Channel δ) : List UInt8 :=
  match ch.output with
  | some o => o.ending
  | none => if ch.closed || ch.settings.outputMarker = 0 then [] else [ch.settings.outputMarker]

/-- A fresh output side has nothing but its end marker to end with. -/
theorem ending_newOutput (s : Settings) (sync : Bool) :
    (newOutput s sync).ending = if s.outputMarker = 0 then [] else [s.outputMarker] := by
  have hencoder : (newOutput s sync).encoder = s.encoding.encoder := rfl
  rw [Output.ending, hencoder, Encoding.finish_encoder]
  rfl

/-- What has to be there is there when the output side is taken down: the end marker alone is what one
is built for. -/
theorem prepareMarker_memory (ch : Channel Memory) (hw : ch.mode.isWritable = true)
    (hrunning : ∀ o, ch.output = some o → o.closed = false) :
    ∃ o? j, ch.prepareMarker = (.ok (), { ch with output := o?, journal := j }) ∧
      (o?.map (·.buffer)).getD [] = ch.waiting ∧
      (o?.map Output.ending).getD [] = ({ ch with closed := false } : Channel Memory).ending ∧
      ∀ o, o? = some o → o.closed = false := by
  unfold prepareMarker
  cases ho : ch.output with
  | some o =>
    rw [if_neg (by simp [lacksOutput, ho])]
    refine ⟨some o, ch.journal, by rw [← ho], by simp [waiting, ho], by simp [ending], ?_⟩
    rintro o' ⟨⟩
    exact hrunning o ho
  | none =>
    by_cases hm : ch.settings.outputMarker = 0
    · rw [if_neg (by simp [lacksOutput, hm])]
      exact ⟨none, ch.journal, by rw [← ho], by simp [waiting, ho], by simp [ending, hm], by simp⟩
    · obtain ⟨j, hbuild⟩ := buildOutput_memory ch
      rw [if_pos (by simp [lacksOutput, hw, hm, ho]), hbuild]
      have hfresh : ch.outputSide = newOutput ch.settings ch.device.kind.requiresSync := by
        rw [outputSide, ho, Option.getD_none]
      refine ⟨some ch.outputSide, j, rfl, buffer_outputSide ch, ?_, ?_⟩
      · simp [hfresh, ending_newOutput, hm, ending]
      · rintro o' ⟨⟩
        rw [hfresh, newOutput, Output.init]

/-- Taking down the input side changes nothing else but the journal. -/
theorem exists_releaseInput {δ : Type} [Transport δ] (ch : Channel δ) :
    ∃ j, ch.releaseInput = { ch with input := none, journal := j } := by
  unfold releaseInput
  split
  · rename_i hnone
    refine ⟨ch.journal, ?_⟩
    cases ch
    cases hnone
    rfl
  · exact ⟨_, rfl⟩

/-- Closing goes well, and sends the ending off behind what waits. -/
theorem close_memory {ch : Channel Memory} (hc : ch.closed = false)
    (hw : ch.mode.isWritable = true) (hrunning : ∀ o, ch.output = some o → o.closed = false) :
    ∃ sync j, ch.close = (.ok (), { ch with
      closed := true
      input := none
      output := none
      device := (Transport.close (ch.device.flushed sync (ch.waiting ++ ch.ending))).2
      journal := j }) := by
  obtain ⟨j, hreleased⟩ := exists_releaseInput ({ ch with closed := true } : Channel Memory)
  obtain ⟨o?, j', hprepared, hwaiting, hending, hopen⟩ := prepareMarker_memory
    { ch with closed := true, input := none, journal := j } hw hrunning
  have hsame : ({ ch with closed := false, input := none, journal := j } : Channel Memory).ending =
      ch.ending := by simp [ending, hc]
  dsimp only at hending
  rw [hsame] at hending
  simp only [close, hc, Bool.false_eq_true, if_false, hreleased, hprepared]
  rw [show ch.waiting = (o?.map (·.buffer)).getD [] from hwaiting.symm, ← hending]
  cases o? with
  | none => exact ⟨false, _, rfl⟩
  | some o =>
    simp only [releaseOutput, Output.close_memory (hopen o rfl)]
    exact ⟨o.sync, _, rfl⟩

section Frame
open Input

/-- The bytes of a memory and its write cursor are these. -/
def Fixed (bs : List UInt8) (pos : Nat) (s : Cutoff × Memory) : Prop :=
  s.2.bytes = bs ∧ s.2.writePos = pos

theorem closes_fixed (bs : List UInt8) (pos : Nat) :
    Closes (Fixed bs pos) (fun _ => True) (Cutoff.fetch (δ := Memory)) := by
  refine Cutoff.closes_of_kept (P := fun m : Memory => m.bytes = bs ∧ m.writePos = pos)
    fun n m hm => ?_
  simp only [RawReader.read, Memory.read]
  split <;> exact hm

/-- A read leaves the bytes and the write cursor alone. -/
theorem readThrough_fixed (n : Option Nat) (dst : Data) (c : Chain) (ch : Channel Memory) :
    (readThrough dst c ch n).2.device.bytes = ch.device.bytes ∧
      (readThrough dst c ch n).2.device.writePos = ch.device.writePos := by
  have hheld : Held (Fixed ch.device.bytes ch.device.writePos) (fun _ => True) c ch :=
    ⟨⟨⟨rfl, rfl⟩, fun _ => trivial⟩, fun _ => trivial⟩
  obtain ⟨c', -, hc'⟩ := readThrough_held (closes_fixed _ _) (fun _ _ _ _ => trivial) n dst hheld
  exact hc'.side.1

end Frame

theorem buildInput_memory (ch : Channel Memory) :
    ∃ c j, ch.buildInput = (.ok c, { ch with input := some c, journal := j }) := by
  unfold buildInput
  cases hi : ch.input with
  | none => exact ⟨_, _, rfl⟩
  | some c => exact ⟨c, ch.journal, by dsimp only; rw [← hi]⟩

/-- A read that is not refused flushes the output first. -/
theorem read_drains {ch : Channel Memory} (hc : ch.closed = false) (hr : ch.mode.isReadable = true)
    (hw : ch.mode.isWritable = true) (he : ch.ended = false) (kind : ReadKind) (dst : Data) :
    Drains ch (read kind dst ch).2 := by
  have hcheck : ch.checkRead = .ok () := by simp [checkRead, hc, hr]
  obtain ⟨c, j, hbuild⟩ := buildInput_memory ch.drained
  have hthrough : Drains ch
      (readThrough dst c { ch.drained with input := some c, journal := j } (wanted kind)).2 := by
    have hdrained := drains_drained ch
    obtain ⟨hbytes, -⟩ := readThrough_fixed (wanted kind) dst c
      { ch.drained with input := some c, journal := j }
    obtain ⟨c', d, ended, hrenew⟩ := exists_renew_readThrough dst c
      { ch.drained with input := some c, journal := j } (wanted kind) j
    have hkept := congrArg (fun ch => (ch.output, ch.mode, ch.settings, ch.closed)) hrenew
    simp only [renew, Prod.mk.injEq] at hkept
    obtain ⟨houtput, hmode, hsettings, hclosed⟩ := hkept
    exact ⟨hbytes.trans hdrained.bytes, houtput.trans hdrained.output, hmode.trans hdrained.mode,
      hsettings.trans hdrained.settings, hclosed.trans hdrained.closed⟩
  unfold read
  rw [hcheck]
  dsimp only
  rw [if_neg (by simp [he]), if_pos hw, flushOutput_memory]
  dsimp only
  rw [hbuild]
  cases kind with
  | all | line | units n =>
    dsimp only
    split
    · exact ⟨hthrough.bytes, hthrough.output, hthrough.mode, hthrough.settings, hthrough.closed⟩
    · exact hthrough

end ScriptChannel.Channel
