/-!
# How a channel was opened

A mode is a set of seven bits in a byte. Reading and writing are decided by the first three bits
alone; `append` moves every write to the end; the rest is for the device that opens itself.
-/

namespace ScriptChannel

structure OpenMode where
  bits : UInt8
  deriving DecidableEq, Repr, Inhabited

namespace OpenMode

def readOnly : OpenMode := ⟨1⟩
def writeOnly : OpenMode := ⟨2⟩
def readWrite : OpenMode := ⟨4⟩
def append : OpenMode := ⟨8⟩
def create : OpenMode := ⟨16⟩
def exclusive : OpenMode := ⟨32⟩
def truncate : OpenMode := ⟨64⟩

/-- Every bit of `b` is in `a`. -/
def contains (a b : OpenMode) : Bool :=
  a.bits &&& b.bits == b.bits

def union (a b : OpenMode) : OpenMode :=
  ⟨a.bits ||| b.bits⟩

def isReadable (m : OpenMode) : Bool :=
  m.contains readOnly || m.contains readWrite

def isWritable (m : OpenMode) : Bool :=
  m.contains writeOnly || m.contains readWrite

def isAppend (m : OpenMode) : Bool :=
  m.contains append

/-- The debug form. -/
def debug (m : OpenMode) : String :=
  s!"OpenMode({m.bits.toNat})"

end OpenMode

end ScriptChannel
