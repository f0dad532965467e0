import ScriptChannel.Charset.Label
import ScriptChannel.Charset.Decoder
import ScriptChannel.Charset.Encoder
import ScriptChannel.Text.Quoted

/-!
# The encoding of a channel

A channel carries raw bytes, or text in Latin-1 or in a standard set. Raw bytes and Latin-1 both
pair each byte with the character of that number, on writing the one keeps the low eight bits and
the other has no bytes for what lies beyond. Latin-1 takes its labels away from the standard set
that claims them.

There are two ways to put text into bytes. Output writes a question mark for a character without
bytes. Text that was read but not delivered is put back into bytes as a whole, and there the
standard sets write a character reference instead.
-/

namespace ScriptChannel

inductive Encoding
  | binary
  | latin1
  | charset (c : Charset)
  deriving DecidableEq, Repr

namespace Encoding

def utf8 : Encoding := charset .utf8

instance : Inhabited Encoding := ⟨utf8⟩

/-- The canonical name; raw bytes have none. -/
def name? : Encoding → Option String
  | binary => none
  | latin1 => some "iso8859-1"
  | charset c => some c.name

/-- The debug form. -/
def debug? (e : Encoding) : Option String :=
  e.name?.map fun name => s!"TextEncoding({Text.quoted name})"

def isBinary (e : Encoding) : Bool := e = binary

/-- The names that scripts use beside the standard labels. -/
def aliases : List (String × String) :=
  [("unicode", "utf-16le"), ("shiftjis", "shift_jis"), ("euc-cn", "gb2312"),
    ("iso2022-jp", "iso-2022-jp")]

def binaryNames : List String := ["binary", "identity"]

def latin1Names : List String := ["iso8859-1", "iso-8859-1", "iso_8859-1", "latin1", "l1"]

/-- Puts in the hyphen that scripts leave out of the names of the ISO 8859 family. -/
def hyphenated (label : List Char) : List Char :=
  match "iso8859-".toList.isPrefixOf? label with
  | some part => "iso-8859-".toList ++ part
  | none => label

/-- The encoding of a name, if it names one. -/
def lookup? (name : String) : Option Encoding :=
  let key := String.ofList ((Text.trim Text.isBlank name.toList).map Text.lowerAscii)
  if binaryNames.contains key then some binary
  else if latin1Names.contains key then some latin1
  else
    let label := (aliases.lookup key).getD key
    (Charset.ofLabel? (hyphenated label.toList)).map charset

/-- The least number of bytes a character takes. -/
def bytesPerChar : Encoding → Nat
  | charset c => if c.isUtf16 then 2 else 1
  | _ => 1

/-- The set whose byte order mark may stand at the start of the stream. -/
def markedCharset? : Encoding → Option Charset
  | charset c => if c.mark?.isSome then some c else none
  | _ => none

/-- The decoder for a stream, if its bytes are not characters as they stand. -/
def decoder? : Encoding → Option Charset.Decoder
  | charset c => some c.decoder
  | _ => none

/-- The character of a byte's number. -/
def charOfByte (b : UInt8) : Char := Char.ofNat b.toNat

/-- The low eight bits of a character. -/
def lowByte (c : Char) : UInt8 := .ofNat c.toNat

/-- What takes the place of a character without bytes on output. -/
def questionMark (_ : Char) : List UInt8 := [0x3F]

/-- A decimal character reference. -/
def reference (c : Char) : List UInt8 :=
  (['&', '#'] ++ Nat.toDigits 10 c.toNat ++ [';']).map lowByte

inductive Encoder
  | lowBytes
  | latin1
  | charset (e : Charset.Encoder)
  deriving DecidableEq, Repr

def encoder : Encoding → Encoder
  | binary => .lowBytes
  | latin1 => .latin1
  | charset c => .charset c.encoder

/-- The bytes of a text, with `substitute` for each character that has none. -/
def Encoder.feed (substitute : Char → List UInt8) : Encoder → List Char → List UInt8 × Encoder
  | .lowBytes, cs => (cs.map lowByte, .lowBytes)
  | .latin1, cs => (cs.flatMap fun c => if c.toNat < 256 then [lowByte c] else substitute c, .latin1)
  | .charset e, cs =>
    let r := e.feed substitute cs
    (r.1, .charset r.2)

/-- Tells the encoder that there is no more text. -/
def Encoder.finish : Encoder → List UInt8 × Encoder
  | .charset e =>
    let r := e.finish
    (r.1, .charset r.2)
  | e => ([], e)

/-- It was told that there is no more text. Raw bytes and Latin-1 know no end. -/
def Encoder.spent : Encoder → Bool
  | .charset e => e.spent
  | _ => false

/-- An encoding that was not used yet is not ended with anything. -/
theorem finish_encoder (e : Encoding) : e.encoder.finish.1 = [] := by
  cases e <;> rfl

theorem Encoder.spent_feed (substitute : Char → List UInt8) (e : Encoder)
    (cs : List Char) : (e.feed substitute cs).2.spent = e.spent := by
  cases e with
  | charset e => exact e.spent_feed substitute cs
  | _ => rfl

theorem spent_encoder (e : Encoding) : e.encoder.spent = false := by
  cases e <;> rfl

/-- What takes the place of a character without bytes when text is put back into bytes. -/
def substitute : Encoding → Char → List UInt8
  | charset _ => reference
  | _ => questionMark

/-- Puts a text that was read back into bytes. -/
def unread (e : Encoding) (cs : List Char) : List UInt8 :=
  let r := e.encoder.feed e.substitute cs
  r.1 ++ r.2.finish.1

@[simp] theorem unread_nil (e : Encoding) : e.unread [] = [] := by cases e <;> rfl

/-- The text of a whole stream. -/
def decode : Encoding → List UInt8 → List Char
  | charset c, bs => c.decode bs
  | _, bs => bs.map charOfByte

end Encoding

end ScriptChannel
