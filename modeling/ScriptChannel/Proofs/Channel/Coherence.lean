import ScriptChannel.Proofs.Channel.Appending
import ScriptChannel.Proofs.Channel.Duplex

/-!
# The position of a channel that is read and written

The position is the cursor of the side that the memory was used by last, less what is left over on the
input side, plus what waits on the output side. Sending off what waits makes the writer the last one,
and moves the position unless both cursors were at one place. What is left over was read in front of
the read cursor, so it may be more than lies in front of the write cursor.
-/

namespace ScriptChannel.Channel
open Transport Input

/-- The calls that read, write, flush or go to a place within what was written. -/
def Op.roams : Op → Channel Memory → Bool
  | read _ _, _ | write _, _ | flush, _ => true
  | seek (.fromStart n), ch => n ≤ ch.drained.device.bytes.length
  | _, _ => false

variable {ch : Channel Memory}

theorem Duplex.perform (h : ch.Duplex) {op : Op} (hop : op.roams ch) : (op.perform ch).Duplex := by
  cases op with
  | read kind dst => exact h.read kind dst
  | write p => exact h.write p
  | flush =>
    change ch.flush.2.Duplex
    rw [h.flush_eq]
    exact h.drained
  | seek p =>
    cases p with
    | fromStart n => exact h.seek (of_decide_eq_true hop)
    | fromCurrent d | fromEnd d => simp [Op.roams] at hop
  | _ => simp [Op.roams] at hop

theorem Duplex.after (h : ch.Duplex) {ops : List Op}
    (hops : ∀ done op, done ++ [op] <+: ops → op.roams (after done ch)) :
    (after ops ch).Duplex := by
  induction ops generalizing ch with
  | nil => exact h
  | cons op ops ih =>
    refine ih (h.perform (hops [] op (List.prefix_append [op] ops))) fun done op' hdone => ?_
    exact hops (op :: done) op' (List.cons_prefix_cons.2 ⟨rfl, hdone⟩)

/-- Behind a flush the position is the writer's if there was something to send off. -/
theorem position_drained (ch : Channel Memory) : ch.drained.device.position =
    if ch.waiting = [] then ch.device.position else ch.device.writePos + ch.waiting.length := by
  unfold drained waiting
  cases ch.output with
  | none => simp
  | some o => simp [Memory.position_flushed]

theorem backlog_drained (ch : Channel Memory) : ch.drained.backlog = ch.backlog := by
  rw [backlog_eq, backlog_eq, chain_drained, (drains_drained ch).settings]

theorem Duplex.position_le (h : ch.Duplex) : ch.device.position ≤ ch.device.bytes.length := by
  unfold Memory.position
  split
  · exact h.writer
  · exact h.trails.within

/-- The position that is told. -/
theorem Duplex.tell (h : ch.Duplex) (hlen : 2 * ch.device.bytes.length < UInt64.size) :
    ch.tell = .ok (ch.device.position - ch.backlog + ch.waiting.length) := by
  have htell : Transport.tell ch.device = .ok (some ch.device.position) := rfl
  have hle := h.position_le
  have hbmod : Int.bmod (ch.device.position : Nat) UInt64.size = ch.device.position :=
    Int.bmod_eq_of_le (by simp) (by rw [Memory.length_bytes] at hle hlen; simp [UInt64.size] at hlen ⊢; omega)
  have hwaiting : ch.bufferedOutput = ch.waiting.length := by
    unfold bufferedOutput waiting
    cases ch.output <;> rfl
  simp only [Channel.tell, checkOpen, h.opened, htell, hbmod, hwaiting, Bool.false_eq_true, if_false]

/-- A channel that is sent to where it is answers where that is behind a flush, if it is anywhere. -/
theorem Duplex.seek_here (h : ch.Duplex) (hlen : 2 * ch.drained.device.bytes.length < UInt64.size)
    (n : Nat) :
    (ch.seek (.fromCurrent 0)).1 = .ok n ↔ ch.drained.device.position - (ch.backlog : Int) = n := by
  have hle := h.drained.position_le
  have haddress : ch.drained.device.address (ch.drained.deviceRelative (.fromCurrent 0)) =
      ch.drained.device.position - (ch.backlog : Int) := by
    simp only [deviceRelative, Memory.address, backlog_drained]
    omega
  rw [← haddress, ← Memory.seek_fst_eq_ok (by rw [haddress]; omega)]
  rcases hq : Transport.seek (ch.drained.deviceRelative (.fromCurrent 0)) ch.drained.device with
    ⟨e | k, d⟩
  · rw [seek_eq_error h.opened (flushOutput_memory ch) hq]
    simp
  · obtain ⟨j, hseek⟩ := seek_eq h.opened (flushOutput_memory ch) hq
    rw [hseek]
    simp

/-- After any reads, writes, flushes and seeks within what was written, a flush keeps the position and
a channel that is sent to where it is finds it, just if the side used last allows it. If that is the
reader, nothing waits or both cursors are at one place. If it is the writer, no more is left over than
lies in front of what would be written next. -/
theorem coherent_iff_meets {bs : List UInt8} {mode : OpenMode} {s : Settings}
    (hr : mode.isReadable = true) (hw : mode.isWritable = true) (ha : mode.isAppend = false)
    (hb : s.encoding = .binary) {ops : List Op}
    (hops : ∀ done op, done ++ [op] <+: ops → op.roams (after done (opened (Memory.ofBytes bs) mode s)))
    (hlen : 2 * (after ops (opened (Memory.ofBytes bs) mode s)).drained.device.bytes.length <
      UInt64.size) :
    let ch := after ops (opened (Memory.ofBytes bs) mode s)
    (∃ n : Nat, ch.tell = .ok n ∧ ch.flush.2.tell = .ok n ∧ (ch.seek (.fromCurrent 0)).1 = .ok n) ↔
      if ch.device.wroteLast then ch.backlog ≤ ch.device.writePos + ch.waiting.length
      else ch.waiting = [] ∨ ch.device.readPos = ch.device.writePos := by
  intro ch
  have h : ch.Duplex := (duplex_opened hr hw ha hb).after hops
  change 2 * ch.drained.device.bytes.length < UInt64.size at hlen
  generalize ch = ch at h hlen
  have hbytes : ch.device.bytes.length ≤ ch.drained.device.bytes.length := by
    rw [(drains_drained ch).bytes]
    exact Memory.length_le_stored _ _
  have hbacklog := h.trails.backlog
  rw [← h.binary, ← backlog_eq] at hbacklog
  -- the three agree if a flush keeps the position and that is not in front of the backlog
  have hagree : (∃ n : Nat, ch.tell = .ok n ∧ ch.flush.2.tell = .ok n ∧
      (ch.seek (.fromCurrent 0)).1 = .ok n) ↔
      ch.drained.device.position = ch.device.position + ch.waiting.length ∧
        ch.backlog ≤ ch.drained.device.position := by
    rw [h.flush_eq, h.tell (by omega), h.drained.tell hlen, backlog_drained,
      (drains_drained ch).waiting]
    simp only [h.seek_here hlen, Except.ok.injEq, List.length_nil]
    constructor
    · rintro ⟨n, htell, hflushed, -⟩
      omega
    · rintro ⟨hkept, hle⟩
      exact ⟨ch.drained.device.position - ch.backlog, by omega, by omega, by omega⟩
  rw [hagree, position_drained, Memory.position]
  by_cases hquiet : ch.waiting = []
  · cases ch.device.wroteLast <;> simp [hquiet, hbacklog]
  · cases ch.device.wroteLast with
    | true => simp [hquiet]
    | false =>
      simp only [hquiet, if_false, false_or, Bool.false_eq_true]
      omega

/-- Sent to one place, both cursors are there, and what is written then counts as it waits. -/
theorem coherent_behind_seek :
    let ch : Channel Memory := after
      [.read (.units 3) (.bytes []), .seek (.fromStart 4), .write (.text ['a', 'b'])]
      (opened (Memory.ofBytes [0x30, 0x31, 0x32, 0x33, 0x34, 0x35, 0x36]) .readWrite
        { Settings.default with encoding := .binary })
    ∃ n : Nat, ch.tell = .ok n ∧ ch.flush.2.tell = .ok n ∧
      (ch.seek (.fromCurrent 0)).1 = .ok n := by
  intro ch
  exact (coherent_iff_meets rfl rfl rfl rfl (forall_calls (by decide)) (by decide)).2 (by decide)

/-- What was read ahead puts the position in front of the memory once something written over its start
is sent off. -/
theorem position_lost_behind_flush :
    let ch : Channel Memory := after [.read (.units 3) (.bytes []), .write (.text ['a', 'b'])]
      (opened (Memory.ofBytes [0x30, 0x31, 0x32, 0x33, 0x34, 0x35, 0x36, 0x37, 0x38, 0x39])
        .readWrite { Settings.default with encoding := .binary })
    ch.tell = .ok 5 ∧ ch.flush.2.tell = .ok (-5) ∧
      (ch.seek (.fromCurrent 0)).1 = .error (.io .negativePosition) := by
  decide

end ScriptChannel.Channel
