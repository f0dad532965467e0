import ScriptChannel.Proofs.Channel.Mirror
import ScriptChannel.Proofs.Transport.Memory

/-!
# Memories whose end is the end of the stream

Out of open mode a memory says its bytes from the read cursor on and then its end, for good. Nothing
that is done to it leads back into open mode.
-/

namespace ScriptChannel.Transport

/-- A memory that is not in open mode. -/
structure Complete where
  memory : Memory
  finite : memory.openEnded = false

namespace Complete

/-- What keeps a memory out of open mode, done to such a memory. -/
def lift {α : Type} (f : Memory → α × Memory) (h : ∀ m, (f m).2.openEnded = m.openEnded)
    (m : Complete) : α × Complete :=
  ((f m.memory).1, ⟨(f m.memory).2, (h m.memory).trans m.finite⟩)

instance : Transport Complete where
  read n := lift (RawReader.read n) fun m => by
    simp only [RawReader.read, Memory.read]
    split <;> rfl
  budget m := RawReader.budget m.memory
  write bs := lift (RawWriter.write bs) fun _ => rfl
  flush := lift RawWriter.flush fun _ => rfl
  sync := lift RawWriter.sync fun _ => rfl
  patience m := RawWriter.patience m.memory
  kind m := kind m.memory
  openInput := lift openInput fun _ => rfl
  openOutput := lift openOutput fun _ => rfl
  seek p := lift (seek p) fun m => by
    rcases Memory.seek_cases p m with ⟨e, hseek⟩ | hseek <;> rw [hseek]
  tell m := tell m.memory
  close := lift close fun _ => rfl

/-- As far as reading goes it is the memory that it is. -/
theorem mirrors : Mirrors memory where
  read _ _ := rfl
  budget _ := rfl
  kind _ := rfl
  openInput _ := rfl

/-- The bytes that are still to be read. -/
def rest (m : Complete) : List UInt8 := m.memory.bytes.drop m.memory.readPos

/-- A read call moves the read cursor on by what it brings, from the end at the latest. -/
theorem memory_read (n : Nat) (m : Complete) :
    (RawReader.read n m).2.memory = { m.memory with
      wroteLast := false
      readPos := min m.memory.readPos m.memory.contents.size + (m.memory.coming n).length } := by
  change (Memory.read n m.memory).2 = _
  simp [Memory.read, m.finite]

/-- It stays within the bytes. -/
theorem readPos_read_le (n : Nat) (m : Complete) :
    (RawReader.read n m).2.memory.readPos ≤ m.memory.bytes.length := by
  rw [memory_read, Memory.coming_eq]
  simp only [List.length_take, List.length_drop, Memory.length_bytes]
  omega

theorem length_rest (m : Complete) : m.rest.length = RawReader.budget m := by
  rw [rest, List.length_drop, Memory.length_bytes]
  rfl

/-- A read takes off the front of what is still to be read. -/
theorem read_rest (n : Nat) (m : Complete) :
    (RawReader.read n m).1 = .ok (m.rest.take n) ∧ (RawReader.read n m).2.rest = m.rest.drop n := by
  have hcoming := m.memory.coming_eq n
  constructor
  · change (Memory.read n m.memory).1 = _
    simp [Memory.read, m.finite, hcoming, rest]
  · rw [rest, memory_read, hcoming, rest]
    simp only [List.length_take, List.length_drop, List.drop_drop, ← Memory.length_bytes]
    change m.memory.bytes.drop _ = _
    rcases Nat.lt_or_ge m.memory.bytes.length (m.memory.readPos + n) with hpast | hwithin
    · rw [List.drop_of_length_le (by omega), List.drop_of_length_le (by omega)]
    · congr 1
      omega

theorem eq_of_memory {m m' : Complete} (h : m.memory = m'.memory) : m = m' := by
  cases m
  cases m'
  simpa using h

/-- It goes where the memory goes. -/
theorem seek_cases (p : Place) (m : Complete) :
    (∃ e, Transport.seek p m = (.error e, m)) ∨
      ∃ m' : Complete, Transport.seek p m = (.ok (m.memory.address p).toNat, m') ∧
        m'.memory = { m.memory with
          readPos := (m.memory.address p).toNat
          writePos := (m.memory.address p).toNat } := by
  rcases Memory.seek_cases p m.memory with ⟨e, hseek⟩ | hseek
  · exact .inl ⟨e, Prod.ext (congrArg Prod.fst hseek :) (eq_of_memory (congrArg Prod.snd hseek :))⟩
  · exact .inr ⟨(Transport.seek p m).2, Prod.ext (congrArg Prod.fst hseek :) rfl,
      (congrArg Prod.snd hseek :)⟩

instance : RawStream Complete where
  coming m := Coming.ofUnits m.rest
  read_takes n m hn := by
    obtain ⟨hread, hrest⟩ := read_rest n m
    rw [hread, hrest]
    cases hall : m.rest with
    | nil =>
      rw [List.take_nil]
      rfl
    | cons b bs =>
      obtain ⟨k, rfl⟩ := Nat.exists_eq_succ_of_ne_zero (Nat.pos_iff_ne_zero.1 hn)
      refine ⟨by simp, List.length_take_le _ _, ?_⟩
      rw [← Coming.ofUnits_append, List.take_append_drop]
  length_coming_le m := Nat.le_of_eq ((Coming.length_ofUnits _).trans m.length_rest)

instance : InputDevice Complete where
  coming_openInput _ := rfl

end Complete

end ScriptChannel.Transport
