import ScriptChannel.Proofs.Output.Delivery
import ScriptChannel.Transport.Memory

/-!
# Bytes that reach a memory

A memory accepts everything at once, so a buffer that is flushed is put over what is there from the
write cursor on. The bytes in front of the old end stay as they were if what is put over them is the
same, and in any case if the cursor is at the end or behind it.
-/

namespace ScriptChannel

namespace Transport.Memory

@[simp] theorem length_bytes (m : Memory) : m.bytes.length = m.contents.size := Array.length_toList

/-- The memory with some bytes written. Nothing is done for none of them. -/
def stored (bs : List UInt8) (m : Memory) : Memory := if bs = [] then m else (write bs m).2

@[simp] theorem stored_nil (m : Memory) : m.stored [] = m := if_pos rfl

theorem bytes_stored {bs : List UInt8} (h : bs ≠ []) (m : Memory) :
    (m.stored bs).bytes =
      m.bytes.take m.writePos ++ List.replicate (m.writePos - m.bytes.length) 0 ++ bs ++
        m.bytes.drop (m.writePos + bs.length) := by
  rw [stored, if_neg h, length_bytes]
  exact toList_overwrite m.contents m.writePos bs

@[simp] theorem writePos_stored (bs : List UInt8) (m : Memory) :
    (m.stored bs).writePos = m.writePos + bs.length := by
  unfold stored
  split
  · simp_all
  · rfl

/-- Bytes behind others that were just put down go on where those end. -/
theorem overwrite_overwrite (old : Array UInt8) (start : Nat) (as bs : List UInt8) :
    overwrite (overwrite old start as) (start + as.length) bs = overwrite old start (as ++ bs) := by
  apply Array.toList_inj.1
  obtain ⟨front, hfront⟩ : ∃ front,
      front = old.toList.take start ++ List.replicate (start - old.size) 0 ++ as := ⟨_, rfl⟩
  have hlength : front.length = start + as.length := by
    simp only [hfront, List.length_append, List.length_take, List.length_replicate,
      Array.length_toList]
    omega
  have hfirst : (overwrite old start as).toList = front ++ old.toList.drop (start + as.length) := by
    rw [toList_overwrite, hfront]
  have hzeros : start + as.length - (overwrite old start as).size = 0 := by
    rw [← Array.length_toList, hfirst, List.length_append]
    omega
  rw [toList_overwrite (overwrite old start as), hfirst, hzeros, List.take_left' hlength,
    ← List.drop_drop, List.drop_left' hlength, List.drop_drop, toList_overwrite, hfront]
  simp [Nat.add_assoc]

/-- Writing on is writing both at once. -/
theorem stored_stored (as bs : List UInt8) (m : Memory) :
    (m.stored as).stored bs = m.stored (as ++ bs) := by
  by_cases has : as = []
  · simp [has]
  by_cases hbs : bs = []
  · simp [hbs]
  rw [stored, stored, stored, if_neg has, if_neg hbs, if_neg (by simp [has])]
  simp only [write, overwrite_overwrite, List.length_append, Nat.add_assoc]

@[simp] theorem kind_stored (bs : List UInt8) (m : Memory) : (m.stored bs).kind = m.kind := by
  unfold stored
  split <;> rfl

/-- Bytes that are written make the writer the one used last. -/
theorem position_stored (bs : List UInt8) (m : Memory) :
    (m.stored bs).position = if bs = [] then m.position else m.writePos + bs.length := by
  unfold stored
  split <;> rfl

/-- Writing leaves nothing out. -/
theorem length_le_stored (bs : List UInt8) (m : Memory) :
    m.bytes.length ≤ (m.stored bs).bytes.length := by
  by_cases hbs : bs = []
  · simp [hbs]
  · rw [bytes_stored hbs]
    simp only [List.length_append, List.length_take, List.length_drop, List.length_replicate]
    omega

/-- What was written lies in front of the write cursor. -/
theorem writePos_le_stored {m : Memory} (h : m.writePos ≤ m.bytes.length) (bs : List UInt8) :
    (m.stored bs).writePos ≤ (m.stored bs).bytes.length := by
  by_cases hbs : bs = []
  · simpa [hbs] using h
  · rw [bytes_stored hbs, writePos_stored]
    simp only [List.length_append, List.length_take, List.length_drop, List.length_replicate]
    omega

/-- The memory with a buffer flushed to it. -/
def flushed (sync : Bool) (bs : List UInt8) (m : Memory) : Memory :=
  if sync = true ∧ bs ≠ [] then { m.stored bs with syncs := (m.stored bs).syncs + 1 }
  else m.stored bs

@[simp] theorem flushed_nil (sync : Bool) (m : Memory) : m.flushed sync [] = m := by simp [flushed]

@[simp] theorem bytes_flushed (sync : Bool) (bs : List UInt8) (m : Memory) :
    (m.flushed sync bs).bytes = (m.stored bs).bytes := by
  unfold flushed
  split <;> rfl

@[simp] theorem writePos_flushed (sync : Bool) (bs : List UInt8) (m : Memory) :
    (m.flushed sync bs).writePos = m.writePos + bs.length := by
  unfold flushed
  split <;> exact writePos_stored bs m

@[simp] theorem readPos_flushed (sync : Bool) (bs : List UInt8) (m : Memory) :
    (m.flushed sync bs).readPos = m.readPos := by
  unfold flushed stored
  split <;> split <;> rfl

@[simp] theorem openEnded_flushed (sync : Bool) (bs : List UInt8) (m : Memory) :
    (m.flushed sync bs).openEnded = m.openEnded := by
  unfold flushed stored
  split <;> split <;> rfl

/-- The memory as if it was never forced onto the medium. -/
def unforced (m : Memory) : Memory := { m with syncs := 0 }

theorem unforced_flushed (sync : Bool) (bs : List UInt8) (m : Memory) :
    (m.flushed sync bs).unforced = (m.stored bs).unforced := by
  unfold flushed
  split <;> rfl

theorem stored_unforced (bs : List UInt8) (m : Memory) :
    m.unforced.stored bs = (m.stored bs).unforced := by
  unfold stored
  split <;> rfl

theorem unforced_stored_flushed (sync : Bool) (as bs : List UInt8) (m : Memory) :
    ((m.flushed sync as).stored bs).unforced = (m.stored (as ++ bs)).unforced := by
  rw [← stored_unforced, unforced_flushed, stored_unforced, stored_stored]

theorem seek_unforced (p : Place) (m : Memory) :
    Transport.seek p m.unforced = ((Transport.seek p m).1, (Transport.seek p m).2.unforced) := by
  have haddress : m.unforced.address p = m.address p := by cases p <;> rfl
  simp only [Transport.seek, seek, haddress]
  split <;> rfl

/-- Bytes that are sent off make the writer the one used last. -/
theorem position_flushed (sync : Bool) (bs : List UInt8) (m : Memory) :
    (m.flushed sync bs).position =
      if bs = [] then m.position else m.writePos + bs.length := by
  rw [← position_stored]
  unfold flushed
  split <;> rfl

/-- From the end on writing is appending. -/
theorem bytes_stored_of_end {m : Memory} (h : m.bytes.length = m.writePos) (bs : List UInt8) :
    (m.stored bs).bytes = m.bytes ++ bs := by
  by_cases hbs : bs = []
  · simp [hbs]
  · rw [bytes_stored hbs, List.take_of_length_le (Nat.le_of_eq h),
      List.drop_of_length_le (by omega), h]
    simp

/-- Both cursors go to a place within reach, and stay where they are otherwise. -/
theorem seek_cases (p : Place) (m : Memory) :
    (∃ e, Transport.seek p m = (.error e, m)) ∨
      Transport.seek p m = (.ok (m.address p).toNat,
        { m with readPos := (m.address p).toNat, writePos := (m.address p).toNat }) := by
  simp only [Transport.seek, seek]
  split
  · exact .inr rfl
  · exact .inl ⟨_, rfl⟩

/-- A place within reach is found if there is one such. -/
theorem seek_fst_eq_ok {p : Place} {m : Memory} (h : m.address p < UInt64.size) (n : Nat) :
    (Transport.seek p m).1 = .ok n ↔ m.address p = n := by
  simp only [Transport.seek, seek]
  by_cases hneg : 0 ≤ m.address p
  · rw [if_pos ⟨hneg, h⟩, Except.ok.injEq]
    omega
  · rw [if_neg fun hboth => hneg hboth.1]
    exact iff_of_false (by simp) fun hn => hneg (hn ▸ Int.natCast_nonneg n)

@[simp] theorem address_fromEnd (m : Memory) : m.address (.fromEnd 0) = m.bytes.length := by
  simp [address]

/-- What is written from the cursor on is what is there, as far as both of them go. -/
def Agrees (bs : List UInt8) (m : Memory) : Prop :=
  m.bytes.drop m.writePos <+: bs ∨ bs <+: m.bytes.drop m.writePos

instance (bs : List UInt8) (m : Memory) : Decidable (m.Agrees bs) :=
  inferInstanceAs (Decidable (_ ∨ _))

/-- From the end on there is nothing to differ from. -/
theorem agrees_of_end {m : Memory} (h : m.bytes.length ≤ m.writePos) (bs : List UInt8) :
    m.Agrees bs := by
  rw [Agrees, List.drop_of_length_le h]
  exact .inl List.nil_prefix

theorem agrees_nil (m : Memory) : m.Agrees [] := .inr List.nil_prefix

/-- Put over the front of a list, some bytes leave it in front if one of the two begins the other. -/
theorem prefix_over_iff (as bs : List UInt8) :
    as <+: bs ++ as.drop bs.length ↔ as <+: bs ∨ bs <+: as := by
  constructor
  · exact fun h => List.prefix_or_prefix_of_prefix h (List.prefix_append _ _)
  · rintro (h | ⟨rest, rfl⟩)
    · exact h.trans (List.prefix_append _ _)
    · have hrest : (bs ++ rest).drop bs.length = rest := List.drop_left
      exact ⟨[], by rw [hrest, List.append_nil]⟩

/-- Only writing the same leaves what is there in front. -/
theorem prefix_stored_iff (bs : List UInt8) (m : Memory) :
    m.bytes <+: (m.stored bs).bytes ↔ m.Agrees bs := by
  by_cases hbs : bs = []
  · simp [hbs, agrees_nil]
  by_cases hend : m.bytes.length ≤ m.writePos
  · rw [bytes_stored hbs, List.take_of_length_le hend]
    simp only [List.append_assoc, List.prefix_append, true_iff]
    exact agrees_of_end hend bs
  · have hzeros : m.writePos - m.bytes.length = 0 := by omega
    have hfront : m.bytes.take m.writePos ++ m.bytes.drop m.writePos <+: m.bytes.take m.writePos ++
        (bs ++ (m.bytes.drop m.writePos).drop bs.length) ↔ m.Agrees bs :=
      (List.prefix_append_right_inj _).trans (prefix_over_iff _ bs)
    rw [List.take_append_drop] at hfront
    rw [bytes_stored hbs, hzeros, List.replicate_zero, List.append_nil, ← List.drop_drop,
      List.append_assoc]
    exact hfront

end Transport.Memory

namespace Output
open Transport

/-- One write call is enough. -/
theorem writeAll_memory (bs : List UInt8) (m : Memory) : writeAll bs m = (.ok (), m.stored bs) := by
  by_cases hbs : bs = []
  · simp [writeAll, persist, retry_of_not_again, writeSome, hbs]
  · obtain ⟨n, hn⟩ : ∃ n, bs.length = n + 1 := ⟨bs.length - 1, by
      have := List.length_pos_iff.2 hbs
      omega⟩
    have hfirst : writeSome (bs, m) = (none, [], m.stored bs) := by
      have hw : RawWriter.write bs m = (.ok (n + 1), m.stored bs) := by
        rw [Memory.stored, if_neg hbs, ← hn]
        rfl
      simp [writeSome, hbs, hw, ← hn]
    have hsecond : writeSome ([], m.stored bs) = (some (.ok ()), [], m.stored bs) := by
      simp [writeSome]
    simp only [writeAll, persist, quickAttempts, retry, hfirst, hsecond, Option.isNone_none,
      Option.isNone_some, if_true, Bool.false_eq_true, if_false, Option.getD_some]

/-- Flushing goes well, and leaves nothing in the buffer. -/
theorem flush_memory (o : Output) (m : Memory) :
    o.flush m = (.ok (), { o with buffer := [] }, m.flushed o.sync o.buffer) := by
  obtain ⟨e, encoder, t, b, size, blocking, sync, marker, buffer, closed⟩ := o
  cases buffer with
  | nil => simp [flush, RawWriter.flush, Memory.flushed]
  | cons x xs =>
    simp only [flush, List.isEmpty_cons, Bool.false_eq_true, if_false, flushBuffer, writeAll_memory]
    cases sync <;> simp [RawWriter.flush, RawWriter.sync, Memory.sync, Memory.flushed]

/-- Writing goes well, and hands over some of what waits then, or nothing. -/
theorem write_memory (p : Payload) (o : Output) (m : Memory) :
    ∃ sent kept, o.write p m =
        (.ok (), { o.encode (translate o.translation p.chars) with buffer := kept },
          m.flushed o.sync sent) ∧
      sent ++ kept = (o.encode (translate o.translation p.chars)).buffer := by
  by_cases hdue : (o.encode (translate o.translation p.chars)).isDue (p.chars.contains '\n') = true
  · refine ⟨_, [], ?_, List.append_nil _⟩
    rw [write, if_pos hdue, flush_memory]
    rfl
  · refine ⟨[], _, ?_, List.nil_append _⟩
    rw [write, if_neg hdue, Memory.flushed_nil]

/-- Closing goes well, and hands over all that waits and the ending. -/
theorem close_memory {o : Output} (h : o.closed = false) (m : Memory) :
    o.close m = (.ok (), { o.finishEncoder with closed := true, buffer := [] },
      m.flushed o.sync (o.buffer ++ o.ending)) := by
  simp only [close, h, Bool.false_eq_true, if_false, finishEncoder_eq, flush_memory, ending]
  split <;> simp

end Output

end ScriptChannel
