import ScriptChannel.Input.Cutoff
import ScriptChannel.Input.ReadAhead
import ScriptChannel.Input.Decoding
import ScriptChannel.Input.Lines

/-!
# The input side

The stages between a device and the reader of a channel: the end marker, reading ahead, going back,
decoding and line endings, from the device up. Each keeps some of the stream to itself. What they
keep between them is the backlog: read from the device and not delivered.
-/

namespace ScriptChannel.Input

structure Chain where
  lines : Lines
  decoding : Decoding
  rewind : Rewind
  readAhead : ReadAhead
  cutoff : Cutoff
  deriving DecidableEq, Repr

namespace Chain

/-- The most units asked for at once. -/
def piece : Nat := 8192

def seekReset (c : Chain) : Chain :=
  { lines := c.lines.seekReset, decoding := c.decoding.seekReset, rewind := .init,
    readAhead := c.readAhead.seekReset, cutoff := c.cutoff.seekReset }

/-- The characters decoded and not delivered, in the order of the stream. -/
def decoded (c : Chain) : List Char := c.lines.pending ++ c.decoding.surplus

/-- How many bytes were read from the device and not delivered. Characters count by what they take
in the encoding; what the decoder keeps does not count. -/
def backlog (e : Encoding) (c : Chain) : Nat :=
  (e.unread c.decoded).length + c.rewind.ahead.length + c.readAhead.cache.length +
    c.cutoff.held.length

/-- How many units wait in the stages, and one for an end marker that was met. -/
def buffered (c : Chain) : Nat :=
  c.decoded.length + c.rewind.ahead.length + c.readAhead.cache.length +
    if c.cutoff.reached then 1 else 0

/-- Puts another end marker in force: all that is not delivered goes back to the first stage, in
the order of the stream, to be looked at again, and no stage has seen the end any more. -/
def rescan (e : Encoding) (marker : UInt8) (c : Chain) : Chain :=
  let bytes := e.unread c.decoded ++ c.rewind.ahead ++ c.readAhead.cache
  { lines := (c.lines.takePending c.lines.pending.length).2.cancelEnd
    decoding := c.decoding.takeSurplus.2.cancelEnd
    rewind := c.rewind.takeReplay.2
    readAhead := c.readAhead.takeCached.2.cancelEnd
    cutoff := (c.cutoff.setMarker marker).unread bytes }

section Device
variable {δ : Type} [RawReader δ]

/-- The stages below the line endings, in front of their device. -/
abbrev Lower (δ : Type) := Rewind × ReadAhead × Cutoff × δ

def lower (c : Chain) (d : δ) : Lower δ := (c.rewind, c.readAhead, c.cutoff, d)

/-- All stages, in front of their device. -/
abbrev Whole (δ : Type) := Lines × Decoding × Lower δ

def whole (c : Chain) (d : δ) : Whole δ := (c.lines, c.decoding, c.lower d)

def ofWhole : Whole δ → Chain × δ
  | (l, g, r, b, c, d) => (⟨l, g, r, b, c⟩, d)

/-- Up to `n` characters. -/
def readText (n : Nat) (c : Chain) (d : δ) : (List Char × Halt) × Chain × δ :=
  let r := collect piece Lines.read n (c.whole d)
  (r.1, ofWhole r.2)

/-- Up to `n` bytes, around the decoding. What reading by lines has left above it comes first. Once
bytes were read, no byte order mark can follow. -/
def readBytes (n : Nat) (c : Chain) (d : δ) : (List UInt8 × Halt) × Chain × δ :=
  let p := c.lines.takePending n
  let front := p.1.map Encoding.lowByte
  let r := collect piece ByteSource.run (n - front.length) (c.lower d)
  let bs := front ++ r.1.1
  let decoding := match r.1.2 with
    | .failed _ => c.decoding
    | _ => if bs.isEmpty then c.decoding else c.decoding.disarm
  ((bs, r.1.2), ofWhole (p.2, decoding, r.2))

/-- A line, without its ending. -/
def readLine (blocking : Bool) (c : Chain) (d : δ) : LineRead × Chain × δ :=
  let r := Lines.readLine blocking (c.whole d)
  (r.1, ofWhole r.2)

end Device

end Chain

end ScriptChannel.Input
