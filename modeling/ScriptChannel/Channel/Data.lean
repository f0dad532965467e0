import ScriptChannel.Encoding

/-!
# What is read and where it goes

A read asks for everything, for a number of units or for a line. It appends to a destination that
holds text or bytes; one of the wrong sort becomes one of the right sort first, characters up to
U+00FF and bytes standing for each other.
-/

namespace ScriptChannel

inductive ReadKind
  | all
  /-- Bytes of a binary channel, characters of any other. -/
  | units (count : Nat)
  /-- The line ending is dropped. -/
  | line
  deriving DecidableEq, Repr

namespace ReadKind

/-- The largest count there is stands for everything. -/
def everything : Nat := UInt64.size - 1

/-- The debug form. -/
def debug : ReadKind → String
  | all => "All"
  | units n => s!"Bytes({n})"
  | line => "Line"

end ReadKind

inductive ReadStatus
  /-- That many units were read; none if none are there yet. -/
  | data (count : Nat)
  /-- The stream has ended and nothing was read. -/
  | ended
  deriving DecidableEq, Repr

/-- The number that scripts see. -/
def ReadStatus.code : ReadStatus → Int
  | data n => n
  | ended => -1

inductive Data
  | text (cs : List Char)
  | bytes (bs : List UInt8)
  deriving DecidableEq, Repr

namespace Data

instance : Inhabited Data := ⟨text []⟩

def length : Data → Nat
  | text cs => cs.length
  | bytes bs => bs.length

def isEmpty : Data → Bool
  | text cs => cs.isEmpty
  | bytes bs => bs.isEmpty

/-- The characters; a byte is the character of its number. -/
def chars : Data → List Char
  | text cs => cs
  | bytes bs => bs.map Encoding.charOfByte

/-- The bytes; of a character the low eight bits. -/
def octets : Data → List UInt8
  | text cs => cs.map Encoding.lowByte
  | bytes bs => bs

def appendText (d : Data) (cs : List Char) : Data := text (d.chars ++ cs)

def appendBytes (d : Data) (bs : List UInt8) : Data := bytes (d.octets ++ bs)

end Data

end ScriptChannel
