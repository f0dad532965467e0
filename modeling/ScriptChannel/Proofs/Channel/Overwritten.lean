import ScriptChannel.Proofs.Channel.Appending
import ScriptChannel.Proofs.Channel.Duplex

/-!
# Reading what was written over

Before a read all that waits is sent off, so the memory has what was written so far. What was read ahead
before that is delivered as it was then, and once the end was met nothing is looked for behind it. A
read delivers what the memory has if neither makes a difference.
-/

namespace ScriptChannel.Channel
open Transport Input

/-- The calls that read bytes, write or flush. -/
def Op.streams : Op → Bool
  | read (.units _) _ | write _ | flush => true
  | _ => false

/-- The bytes that a read puts behind what its destination has. -/
def handed (kind : ReadKind) (dst : Data) (ch : Channel Memory) : List UInt8 :=
  (read kind dst ch).1.data.octets.drop dst.octets.length

/-- How many bytes a call hands over. -/
def Op.takes : Op → Channel Memory → Nat
  | read kind dst, ch => (ch.handed kind dst).length
  | _, _ => 0

/-- How many bytes a run hands over. -/
def consumed : List Op → Channel Memory → Nat
  | [], _ => 0
  | op :: ops, ch => op.takes ch + consumed ops (op.perform ch)

/-- A channel that only bytes were read of, so many so far. Those and the ones that were read ahead are
in front of the read cursor. -/
structure Streams (offset : Nat) (ch : Channel Memory) : Prop where
  duplex : ch.Duplex
  streaming : ch.chain.Streaming
  readPos : offset + ch.chain.kept.length = ch.device.readPos

theorem streams_opened {bs : List UInt8} {mode : OpenMode} {s : Settings}
    (hr : mode.isReadable = true) (hw : mode.isWritable = true) (ha : mode.isAppend = false)
    (hb : s.encoding = .binary) (hm : s.inputMarker = 0) :
    (opened (Memory.ofBytes bs) mode s).Streams 0 where
  duplex := duplex_opened hr hw ha hb
  streaming := ⟨rfl, rfl, congrArg Cutoff.init hm⟩
  readPos := rfl

variable {ch : Channel Memory} {offset : Nat}

/-- What does not read keeps its place. -/
theorem Streams.kept {ch' : Channel Memory} (h : ch.Streams offset) (hduplex : ch'.Duplex)
    (hchain : ch'.chain = ch.chain) (hreadPos : ch'.device.readPos = ch.device.readPos) :
    ch'.Streams offset :=
  ⟨hduplex, hchain ▸ h.streaming, by rw [hchain, hreadPos, h.readPos]⟩

theorem Streams.write (h : ch.Streams offset) (p : Payload) : (ch.write p).2.Streams offset := by
  obtain ⟨o, sync, sent, j, hwrite⟩ := h.duplex.write_eq p
  have hduplex := h.duplex.write p
  rw [hwrite] at hduplex ⊢
  exact h.kept hduplex rfl (Memory.readPos_flushed sync sent ch.device)

theorem Streams.flush (h : ch.Streams offset) : ch.flush.2.Streams offset := by
  rw [h.duplex.flush_eq]
  exact h.kept h.duplex.drained (chain_drained ch) (readPos_drained ch)

/-- What a read hands over, and where it leaves the channel. -/
theorem Streams.read (h : ch.Streams offset) (n : Nat) (dst : Data) :
    ch.handed (.units n) dst = (if ch.ended then [] else
      (ch.chain.kept ++ if ch.chain.readAhead.ended then []
        else ch.drained.device.bytes.drop ch.device.readPos).take n) ∧
      (read (.units n) dst ch).2.Streams (offset + (ch.handed (.units n) dst).length) := by
  have hduplex := h.duplex.read (.units n) dst
  unfold handed
  by_cases he : ch.ended = true
  · rw [h.duplex.read_ended he, if_pos he]
    simpa using h
  have he := Bool.eq_false_iff.2 he
  obtain ⟨j, hread⟩ := h.duplex.read_units_eq he dst (rfl : wanted (.units n) = some n)
  obtain ⟨hbytes, hstreaming, hcount⟩ := h.streaming.readBytes n h.duplex.found
  have htrails := h.duplex.trails_found.readBytes n
  have hfound : h.duplex.found.rest = ch.drained.device.bytes.drop ch.device.readPos := by
    rw [← readPos_drained]
    rfl
  rw [hread] at hduplex ⊢
  rcases hq : ch.chain.readBytes n h.duplex.found with ⟨⟨us, halt⟩, c, d⟩
  rw [hq] at hbytes hstreaming hcount htrails hduplex
  rw [hfound] at hbytes hcount
  dsimp only at hbytes hstreaming hcount htrails hduplex ⊢
  have hoctets : (dst.appendBytes us).octets.drop dst.octets.length = us := List.drop_left
  rw [hoctets, he]
  refine ⟨hbytes, hduplex, hstreaming, ?_⟩
  have hstart := h.readPos
  have hend := htrails.within
  have hrest : d.rest.length = ch.drained.device.bytes.length - d.memory.readPos := by
    rw [Complete.rest, List.length_drop, htrails.bytes]
  have hbefore : ch.device.readPos ≤ ch.drained.device.bytes.length := by
    rw [← readPos_drained]
    exact h.duplex.trails_found.within
  rw [hrest, List.length_drop] at hcount
  change offset + us.length + c.kept.length = d.memory.readPos
  omega

/-- Bytes read ahead and the ones behind them are the bytes that are there if those read ahead are and,
where none are added, no more are wanted or there. -/
theorem take_ahead_eq_iff (ahead bytes : List UInt8) (met : Bool) (n : Nat) :
    (ahead ++ if met then [] else bytes.drop ahead.length).take n = bytes.take n ↔
      ahead.take n <+: bytes ∧ (met = true → n ≤ ahead.length ∨ bytes.length ≤ ahead.length) := by
  have hbegins : ahead.take n <+: (ahead ++ if met then [] else bytes.drop ahead.length).take n :=
    (List.prefix_append ahead _).take n
  constructor
  · intro heq
    refine ⟨(heq ▸ hbegins).trans (List.take_prefix n bytes), ?_⟩
    rintro rfl
    have hlen := congrArg List.length heq
    simp only [if_true, List.append_nil, List.length_take] at hlen
    omega
  · rintro ⟨hthere, hmet⟩
    rcases Nat.lt_or_ge ahead.length n with hlt | hle
    · rw [List.take_of_length_le (Nat.le_of_lt hlt)] at hthere
      obtain ⟨rest, rfl⟩ := hthere
      cases met with
      | false => simp
      | true =>
        have hnil : rest = [] := by
          have hlen := hmet rfl
          rw [List.length_append] at hlen
          exact List.length_eq_zero_iff.1 (by omega)
        simp [hnil]
    · have htake := List.prefix_iff_eq_take.1 hthere
      rw [List.length_take, Nat.min_eq_left hle] at htake
      rw [List.take_append_of_le_length hle, htake]

theorem Streams.perform (h : ch.Streams offset) {op : Op} (hop : op.streams) :
    (op.perform ch).Streams (offset + op.takes ch) := by
  cases op with
  | read kind dst =>
    cases kind with
    | units n => exact (h.read n dst).2
    | all | line => simp [Op.streams] at hop
  | write p => exact h.write p
  | flush => exact h.flush
  | _ => simp [Op.streams] at hop

theorem Streams.after (h : ch.Streams offset) {ops : List Op} (hops : ∀ op ∈ ops, op.streams) :
    (after ops ch).Streams (offset + consumed ops ch) := by
  induction ops generalizing ch offset with
  | nil => exact h
  | cons op ops ih =>
    obtain ⟨hop, hothers⟩ := List.forall_mem_cons.1 hops
    rw [consumed, ← Nat.add_assoc]
    exact ih (h.perform hop) hothers

/-- Behind any reads of bytes, writes and flushes, a read hands over what the memory has then where the
reader is, just if what was read ahead is still there and, once the end was met, no more is wanted or
there than was read ahead. -/
theorem handed_iff_current {bs : List UInt8} {mode : OpenMode} {s : Settings}
    (hr : mode.isReadable = true) (hw : mode.isWritable = true) (ha : mode.isAppend = false)
    (hb : s.encoding = .binary) (hm : s.inputMarker = 0) {ops : List Op}
    (hops : ∀ op ∈ ops, op.streams) (n : Nat) (dst : Data) :
    let start := opened (Memory.ofBytes bs) mode s
    let ch := after ops start
    let behind := ch.drained.device.bytes.drop (consumed ops start)
    ch.handed (.units n) dst = behind.take n ↔
      if ch.ended then n = 0 ∨ behind = []
      else ch.chain.kept.take n <+: behind ∧ (ch.chain.readAhead.ended = true →
        n ≤ ch.chain.kept.length ∨ behind.length ≤ ch.chain.kept.length) := by
  intro start ch behind
  have h : ch.Streams (consumed ops start) := by
    have hstart : start.Streams 0 := streams_opened hr hw ha hb hm
    have hrun := hstart.after hops
    rwa [Nat.zero_add] at hrun
  rw [(h.read n dst).1]
  split
  · rw [eq_comm, List.take_eq_nil_iff]
  · have hdrop : ch.drained.device.bytes.drop ch.device.readPos = behind.drop ch.chain.kept.length := by
      rw [List.drop_drop, h.readPos]
    rw [hdrop]
    exact take_ahead_eq_iff _ _ _ n

/-- With a buffer of one byte nothing was read ahead of the reader. -/
theorem current_behind_one :
    let start : Channel Memory := opened (Memory.ofBytes [0x61, 0x62, 0x63]) .readWrite
      { Settings.default with encoding := .binary, bufferSize := 1 }
    let ch := after [.read (.units 1) (.bytes []), .write (.text ['X', 'Y', 'Z'])] start
    ch.handed (.units 2) (.bytes []) = [0x59, 0x5A] := by
  intro start ch
  exact (handed_iff_current rfl rfl rfl rfl rfl (by decide) 2 (.bytes [])).2 (by decide)

/-- What was read ahead comes as it was before it was written over. -/
theorem stale_behind_write :
    let start : Channel Memory := opened (Memory.ofBytes [0x61, 0x62, 0x63]) .readWrite
      { Settings.default with encoding := .binary }
    let ops : List Op := [.read (.units 1) (.bytes []), .write (.text ['X', 'Y', 'Z'])]
    (after ops start).drained.device.bytes = [0x58, 0x59, 0x5A] ∧ consumed ops start = 1 ∧
      (after ops start).handed (.units 2) (.bytes []) = [0x62, 0x63] := by
  decide

end ScriptChannel.Channel
