import ScriptChannel.Proofs.Transport.Memory

/-!
# A byte store with two cursors

The memory in use: it is read, written, fed, positioned and asked for its position, in any order. Each
use does to the bytes and to the cursors what is said of it, with one exception. A read that starts behind
the end finds nothing and takes the read cursor back to the end.
-/

namespace ScriptChannel.Transport.Memory

/-- What is done with a memory. -/
inductive Use
  | read (size : Nat)
  | write (bs : List UInt8)
  | feed (bs : List UInt8)
  | seek (place : Place)
  | tell
  deriving DecidableEq, Repr

/-- The memory after a use. -/
def use (m : Memory) : Use → Memory
  | .read n => (RawReader.read n m).2
  | .write bs => (RawWriter.write bs m).2
  | .feed bs => m.feed bs
  | .seek p => (Transport.seek p m).2
  | .tell => m

/-- Zeros up to a cursor behind the end. -/
def padded (w : Nat) (bs : List UInt8) : List UInt8 := bs ++ List.replicate (w - bs.length) 0

/-- What a use is to do. -/
def Obeys (m : Memory) : Use → Prop
  | .read n =>
    let us := (m.bytes.drop m.readPos).take n
    let m' := m.use (.read n)
    (RawReader.read n m).1 =
        (if us = [] ∧ n ≠ 0 ∧ m.openEnded = true then .error .wouldBlock else .ok us) ∧
      m'.readPos = m.readPos + us.length ∧ m'.bytes = m.bytes ∧ m'.writePos = m.writePos ∧
      m'.wroteLast = false
  | .write bs =>
    let old := padded m.writePos m.bytes
    let m' := m.use (.write bs)
    bs ≠ [] → (RawWriter.write bs m).1 = .ok bs.length ∧
      m'.bytes = old.take m.writePos ++ bs ++ old.drop (m.writePos + bs.length) ∧
      m'.writePos = m.writePos + bs.length ∧ m'.readPos = m.readPos ∧ m'.wroteLast = true
  | .feed bs =>
    let m' := m.use (.feed bs)
    m'.bytes = m.bytes ++ bs ∧ m'.readPos = m.readPos ∧ m'.writePos = m.writePos ∧
      m'.wroteLast = m.wroteLast
  | .seek p =>
    let m' := m.use (.seek p)
    match (Transport.seek p m).1 with
    | .ok n => (n : Int) = m.address p ∧ m'.readPos = n ∧ m'.writePos = n ∧ m'.bytes = m.bytes ∧
        m'.wroteLast = m.wroteLast
    | .error _ => m' = m
  | .tell => Transport.tell m = .ok (some m.position) ∧ m.use .tell = m

/-- A read that starts behind the end, and is not put off there. -/
def Overshoots (m : Memory) : Use → Prop
  | .read n => m.bytes.length < m.readPos ∧ ¬ (n ≠ 0 ∧ m.openEnded = true)
  | _ => False

instance (m : Memory) : DecidablePred m.Overshoots
  | .read _ => inferInstanceAs (Decidable (_ ∧ ¬ _))
  | .write _ | .feed _ | .seek _ | .tell => inferInstanceAs (Decidable False)

/-- What such a read does: it finds nothing, and the read cursor is at the end then. -/
def FallsBack (m : Memory) (u : Use) : Prop :=
  ∃ n, u = .read n ∧ RawReader.read n m =
    (.ok [], { m with readPos := m.bytes.length, wroteLast := false })

/-- At each of some uses, in the memory as it is then. -/
def Along (P : Memory → Use → Prop) : Memory → List Use → Prop
  | _, [] => True
  | m, u :: us => P m u ∧ Along P (m.use u) us

theorem along_iff {P Q : Memory → Use → Prop} (h : ∀ m u, P m u ↔ Q m u) (m : Memory) (us : List Use) :
    Along P m us ↔ Along Q m us := by
  induction us generalizing m with
  | nil => exact Iff.rfl
  | cons u us ih => exact and_congr (h m u) (ih (m.use u))

theorem along_of {P : Memory → Use → Prop} (h : ∀ m u, P m u) (m : Memory) (us : List Use) :
    Along P m us := by
  induction us generalizing m with
  | nil => trivial
  | cons u us ih => exact ⟨h m u, ih (m.use u)⟩

section Read
variable (m : Memory) (n : Nat)

theorem read_eq : RawReader.read n m =
    let us := (m.bytes.drop m.readPos).take n
    if us = [] ∧ n ≠ 0 ∧ m.openEnded = true then (.error .wouldBlock, { m with wroteLast := false })
    else (.ok us, { m with readPos := min m.readPos m.bytes.length + us.length, wroteLast := false }) := by
  change read n m = _
  simp only [read, coming_eq, length_bytes]
  split
  · rename_i h
    rw [if_pos (by simpa [and_assoc] using h)]
  · rename_i h
    rw [if_neg (by simpa [and_assoc] using h)]

/-- A read falls back where it overshoots, and else does what it is to do. -/
theorem obeys_read (h : ¬ m.Overshoots (.read n)) : m.Obeys (.read n) := by
  simp only [Obeys, use, read_eq]
  split
  · rename_i hwaits
    refine ⟨rfl, ?_, rfl, rfl, rfl⟩
    simp [hwaits.1]
  · rename_i hfound
    refine ⟨rfl, ?_, rfl, rfl, rfl⟩
    by_cases hin : m.readPos ≤ m.bytes.length
    · simp only [Nat.min_eq_left hin]
    · -- behind the end there is nothing, so the read would be put off
      have hnone : (m.bytes.drop m.readPos).take n = [] := by
        rw [List.drop_of_length_le (by omega), List.take_nil]
      exact absurd ⟨Nat.lt_of_not_le hin, fun hwaits => hfound ⟨hnone, hwaits⟩⟩ h

theorem fallsBack_of_overshoots (h : m.Overshoots (.read n)) :
    m.FallsBack (.read n) ∧ ¬ m.Obeys (.read n) := by
  obtain ⟨hpast, hgo⟩ := h
  have hnone : (m.bytes.drop m.readPos).take n = [] := by
    rw [List.drop_of_length_le (Nat.le_of_lt hpast), List.take_nil]
  have hread : RawReader.read n m =
      (.ok [], { m with readPos := m.bytes.length, wroteLast := false }) := by
    rw [read_eq]
    simp only [hnone]
    rw [if_neg fun hwaits => hgo hwaits.2, Nat.min_eq_right (Nat.le_of_lt hpast)]
    rfl
  refine ⟨⟨n, rfl, hread⟩, fun hobeys => ?_⟩
  obtain ⟨-, hstays, -⟩ := hobeys
  simp only [use, hread, hnone, List.length_nil] at hstays
  omega

end Read

theorem obeys_write (m : Memory) (bs : List UInt8) : m.Obeys (.write bs) := by
  intro _
  refine ⟨rfl, ?_, rfl, rfl, rfl⟩
  have hbytes : (m.use (.write bs)).bytes = m.bytes.take m.writePos ++
      List.replicate (m.writePos - m.bytes.length) 0 ++ bs ++ m.bytes.drop (m.writePos + bs.length) := by
    rw [length_bytes]
    exact toList_overwrite m.contents m.writePos bs
  -- the zeros are all in front of the cursor
  have hzeros : m.writePos - m.bytes.length - (m.writePos + bs.length - m.bytes.length) = 0 := by omega
  rw [hbytes, padded, List.take_append, List.drop_append, List.take_replicate, List.drop_replicate,
    Nat.min_self, hzeros, List.replicate_zero, List.append_nil]

theorem obeys_seek (m : Memory) (p : Place) : m.Obeys (.seek p) := by
  by_cases h : 0 ≤ m.address p ∧ m.address p < UInt64.size
  · have hok : Transport.seek p m = (.ok (m.address p).toNat,
        { m with readPos := (m.address p).toNat, writePos := (m.address p).toNat }) := if_pos h
    simp only [Obeys, use, hok]
    exact ⟨Int.toNat_of_nonneg h.1, trivial, trivial, rfl, trivial⟩
  · have herror : Transport.seek p m = (.error .negativePosition, m) := if_neg h
    simp only [Obeys, use, herror]

/-- One use. -/
theorem obeys_iff (m : Memory) (u : Use) : m.Obeys u ↔ ¬ m.Overshoots u := by
  cases u with
  | read n =>
    exact ⟨fun hobeys hover => (fallsBack_of_overshoots m n hover).2 hobeys, obeys_read m n⟩
  | write bs => exact iff_of_true (obeys_write m bs) id
  | feed bs => exact iff_of_true ⟨by simp [use, feed, bytes], rfl, rfl, rfl⟩ id
  | seek p => exact iff_of_true (obeys_seek m p) id
  | tell => exact iff_of_true ⟨rfl, rfl⟩ id

/-- Along any uses of any memory: all of them do what they are to do if and only if no read overshoots,
and those that do fall back. -/
theorem obeys_along_iff (m : Memory) (us : List Use) :
    (Along Obeys m us ↔ Along (fun m u => ¬ m.Overshoots u) m us) ∧
      Along (fun m u => if m.Overshoots u then m.FallsBack u else m.Obeys u) m us := by
  refine ⟨along_iff obeys_iff m us, along_of (fun m u => ?_) m us⟩
  by_cases hover : m.Overshoots u
  · rw [if_pos hover]
    cases u with
    | read n => exact (fallsBack_of_overshoots m n hover).1
    | write _ | feed _ | seek _ | tell => exact hover.elim
  · rw [if_neg hover]
    exact (obeys_iff m u).2 hover

/-- The read cursor does not stay behind the end. -/
theorem cursor_falls_back :
    ¬ Along Obeys (ofBytes [97, 98, 99]) [.seek (.fromStart 10), .read 4] := by
  rintro ⟨-, ⟨-, hcursor, -⟩, -⟩
  exact absurd hcursor (by decide)

/-- Zeros fill the gap in front of what is written there, and reading goes on from its own cursor. -/
example :
    let m := [.read 2, .seek (.fromEnd 2), .write [120], .seek (.fromCurrent (-4)), .read 9].foldl use
      (ofBytes [97, 98, 99])
    m.bytes = [97, 98, 99, 0, 0, 120] ∧ m.readPos = 6 ∧ m.writePos = 2 := by
  decide

end ScriptChannel.Transport.Memory
