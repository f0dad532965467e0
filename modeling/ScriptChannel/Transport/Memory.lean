import ScriptChannel.Transport.Basic

/-!
# Bytes in memory

One sequence of bytes with a cursor for reading and one for writing. Writing replaces or extends
from its cursor on, after filling up with zeros if that lies past the end. Going to a place moves
both cursors; the position is that of the side used last.

In open mode the end of the bytes is not the end of the stream: more may be fed at any time.
-/

namespace ScriptChannel.Transport

structure Memory where
  kind : TransportKind
  contents : Array UInt8
  readPos : Nat
  writePos : Nat
  /-- Writing was last. -/
  wroteLast : Bool
  openEnded : Bool
  closed : Bool
  /-- How often it was forced onto the medium. -/
  syncs : Nat
  deriving DecidableEq, Repr

namespace Memory

def ofBytes (bs : List UInt8) : Memory := ⟨.memory, bs.toArray, 0, 0, false, false, false, 0⟩

def bytes (m : Memory) : List UInt8 := m.contents.toList

def empty : Memory := ofBytes []

instance : Inhabited Memory := ⟨empty⟩

/-- Appends bytes to be read; no cursor moves. -/
def feed (m : Memory) (bs : List UInt8) : Memory := { m with contents := m.contents ++ bs }

/-- Leaves open mode. -/
def complete (m : Memory) : Memory := { m with openEnded := false }

def position (m : Memory) : Nat := if m.wroteLast then m.writePos else m.readPos

/-- At most `n` bytes from the read cursor on. -/
def coming (n : Nat) (m : Memory) : List UInt8 :=
  (m.contents.extract m.readPos (m.readPos + n)).toList

theorem coming_eq (n : Nat) (m : Memory) : m.coming n = (m.bytes.drop m.readPos).take n := by
  simp [coming, bytes, List.extract_eq_take_drop]

/-- A read from past the end leaves the cursor at the end. -/
def read (n : Nat) (m : Memory) : Except IoError (List UInt8) × Memory :=
  let bs := m.coming n
  let m := { m with wroteLast := false }
  if bs.isEmpty && n != 0 && m.openEnded then (.error .wouldBlock, m)
  else (.ok bs, { m with readPos := min m.readPos m.contents.size + bs.length })

/-- `bs` put over `old` from `start` on, with zeros in between if `old` is shorter. -/
def overwrite (old : Array UInt8) (start : Nat) (bs : List UInt8) : Array UInt8 :=
  old.extract 0 start ++ Array.replicate (start - old.size) 0 ++ bs ++
    old.extract (start + bs.length) old.size

theorem toList_overwrite (old : Array UInt8) (start : Nat) (bs : List UInt8) :
    (overwrite old start bs).toList =
      old.toList.take start ++ List.replicate (start - old.size) 0 ++ bs ++
        old.toList.drop (start + bs.length) := by
  simp [overwrite, List.extract_eq_take_drop, List.take_of_length_le]

def write (bs : List UInt8) (m : Memory) : Except IoError Nat × Memory :=
  (.ok bs.length,
    { m with
      contents := overwrite m.contents m.writePos bs
      writePos := m.writePos + bs.length
      wroteLast := true })

/-- The address of a place, inside the memory or not. -/
def address (m : Memory) : Place → Int
  | .fromStart n => n
  | .fromEnd d => m.contents.size + d
  | .fromCurrent d => m.position + d

def seek (p : Place) (m : Memory) : Except IoError Nat × Memory :=
  let target := m.address p
  if 0 ≤ target ∧ target < UInt64.size then
    (.ok target.toNat, { m with readPos := target.toNat, writePos := target.toNat })
  else (.error .negativePosition, m)

def sync (m : Memory) : Except IoError Unit × Memory := (.ok (), { m with syncs := m.syncs + 1 })

def close (m : Memory) : Except IoError Unit × Memory := (.ok (), { m with closed := true })

instance : Transport Memory where
  read := read
  budget m := m.contents.size - m.readPos
  write := write
  flush m := (.ok (), m)
  sync := sync
  patience _ := 0
  kind := kind
  openInput m := (.ok (), m)
  openOutput m := (.ok (), m)
  seek := seek
  tell m := .ok (some m.position)
  close := close

end Memory

end ScriptChannel.Transport
