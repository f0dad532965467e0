import ScriptChannel.Encoding
import ScriptChannel.Policy

/-!
# The text of a whole stream

What a stream of bytes says once all of it is there. The end marker and what lies behind it are not
read, a byte order mark in front that belongs to the encoding is no text, and every line ending is a
newline. Nothing waits here and nothing comes in pieces: this is what reading piece by piece is
measured by, and it says nothing about when the text is delivered.
-/

namespace ScriptChannel

namespace Translation

/-- Each carriage return as a newline. -/
def readCr (cs : List Char) : List Char :=
  cs.map fun c => if c = '\r' then '\n' else c

/-- Each carriage return with a newline behind it as one newline. -/
def readCrlf : List Char → List Char
  | [] => []
  | '\r' :: '\n' :: cs => '\n' :: readCrlf cs
  | c :: cs => c :: readCrlf cs

/-- The first line ending, whichever it is, as a newline, and from then on endings of its sort. -/
def readAuto : List Char → List Char
  | [] => []
  | '\n' :: cs => '\n' :: cs
  | '\r' :: '\n' :: cs => '\n' :: readCrlf cs
  | '\r' :: cs => '\n' :: readCr cs
  | c :: cs => c :: readAuto cs

/-- Every line ending of a text as a newline. -/
def read : Translation → List Char → List Char
  | auto, cs => readAuto cs
  | cr, cs => readCr cs
  | crlf, cs => readCrlf cs
  | lf, cs | binary, cs | platform, cs => cs

end Translation

/-- The bytes in front of the end marker. -/
def upToMarker (marker : UInt8) (bs : List UInt8) : List UInt8 :=
  if marker = 0 then bs else bs.takeWhile (· != marker)

namespace Encoding

/-- What is left of a stream without the byte order mark that belongs to the encoding. -/
def skipMark (e : Encoding) (bs : List UInt8) : List UInt8 :=
  match e.markedCharset?.bind Charset.mark? with
  | some mark => (mark.isPrefixOf? bs).getD bs
  | none => bs

/-- The text of a whole stream. -/
def textOf (e : Encoding) (marker : UInt8) (t : Translation) (bs : List UInt8) : List Char :=
  t.read (e.decode (e.skipMark (upToMarker marker bs)))

end Encoding

end ScriptChannel
