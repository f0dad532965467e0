import ScriptChannel.Encoding
import ScriptChannel.Policy
import ScriptChannel.Source

/-!
# The output side

What is written has its newlines translated, is encoded and gathered in a buffer, which goes to the
device when the buffering calls for it. The buffer is emptied only when the device has accepted all
of it; data is then forced onto the medium if the channel asks for that.

Closing ends the encoding, appends the end marker if there is one, and flushes. It happens once.
-/

namespace ScriptChannel

/-- Something to write. Bytes are the characters of their numbers. -/
inductive Payload
  | text (cs : List Char)
  | bytes (bs : List UInt8)
  deriving DecidableEq, Repr

def Payload.chars : Payload → List Char
  | text cs => cs
  | bytes bs => bs.map Encoding.charOfByte

structure Output where
  encoding : Encoding
  encoder : Encoding.Encoder
  translation : Translation
  buffering : Buffering
  size : Nat
  blocking : Bool
  /-- Flushed data is forced onto the medium. -/
  sync : Bool
  /-- Appended on closing; 0 for no marker. -/
  marker : UInt8
  buffer : List UInt8
  closed : Bool
  deriving DecidableEq, Repr

namespace Output

def init (e : Encoding) (t : Translation) (b : Buffering) (size : Nat) : Output :=
  { encoding := e, encoder := e.encoder, translation := t, buffering := b, size := size,
    blocking := true, sync := false, marker := 0, buffer := [], closed := false }

/-- Newlines as the translation has them. -/
def translate (t : Translation) (cs : List Char) : List Char :=
  cs.flatMap fun c => if c = '\n' then t.ending else [c]

theorem translate_append (t : Translation) (as bs : List Char) :
    translate t (as ++ bs) = translate t as ++ translate t bs :=
  List.flatMap_append

/-- Encodes text behind what is in the buffer. -/
def encode (o : Output) (cs : List Char) : Output :=
  let r := o.encoder.feed Encoding.questionMark cs
  { o with encoder := r.2, buffer := o.buffer ++ r.1 }

/-- Tells the encoder the end; what that takes stays in the buffer. -/
def endEncoder (o : Output) : Output :=
  let r := o.encoder.finish
  { o with encoder := r.2, buffer := o.buffer ++ r.1 }

/-- Puts a new encoder in the place of the old one. -/
def renewEncoder (o : Output) : Output := { o with encoder := o.encoding.encoder }

/-- Ends the encoding; a new encoder stands ready. -/
def finishEncoder (o : Output) : Output := o.endEncoder.renewEncoder

theorem finishEncoder_eq (o : Output) :
    o.finishEncoder =
      { o with encoder := o.encoding.encoder, buffer := o.buffer ++ o.encoder.finish.1 } := rfl

def setEncoding (o : Output) (e : Encoding) : Output :=
  { o.finishEncoder with encoding := e, encoder := e.encoder }

/-- After a payload, with a newline in it or not, the buffer is to be flushed. -/
def isDue (o : Output) (newline : Bool) : Bool :=
  match o.buffering with
  | .full => o.size ≤ o.buffer.length
  | .line => newline || o.size ≤ o.buffer.length
  | .none => true

section Device
variable {δ : Type} [RawWriter δ]

/-- One write call for the bytes that are left; no answer if more are to follow. -/
def writeSome : List UInt8 × δ → Option (Except IoError Unit) × List UInt8 × δ
  | (bs, d) =>
    if bs.isEmpty then (some (.ok ()), bs, d)
    else match RawWriter.write bs d with
      | (.ok 0, d) => (some (.error .writeZero), bs, d)
      | (.ok n, d) => (none, bs.drop n, d)
      | (.error e, d) => (if e.kind = .interrupted then none else some (.error e), bs, d)

/-- Write calls until all bytes are accepted or one fails; interrupted ones are tried again. -/
def writeAll (bs : List UInt8) (d : δ) : Except IoError Unit × δ :=
  let r := persist Option.isNone (fun s => s.1.length + RawWriter.patience s.2) writeSome (bs, d)
  (r.1.getD (.error .interrupted), r.2.2)

/-- Flushes a buffer that is not empty. -/
def flushBuffer (o : Output) (d : δ) : Except IoError Unit × Output × δ :=
  match writeAll o.buffer d with
  | (.error e, d) => (.error e, o, d)
  | (.ok (), d) =>
    let o := { o with buffer := [] }
    match RawWriter.flush d with
    | (.error e, d) => (.error e, o, d)
    | (.ok (), d) =>
      if o.sync then
        let r := RawWriter.sync d
        (r.1, o, r.2)
      else (.ok (), o, d)

/-- Hands the buffer to the device. -/
def flush (o : Output) (d : δ) : Except IoError Unit × Output × δ :=
  if o.buffer.isEmpty then
    let r := RawWriter.flush d
    (r.1, o, r.2)
  else o.flushBuffer d

def write (p : Payload) (o : Output) (d : δ) : Except IoError Unit × Output × δ :=
  let o := o.encode (translate o.translation p.chars)
  if o.isDue (p.chars.contains '\n') then o.flush d else (.ok (), o, d)

/-- Closing appends the end marker. -/
def appendsMarker (o : Output) : Bool := !o.closed && o.marker != 0

def close (o : Output) (d : δ) : Except IoError Unit × Output × δ :=
  if o.closed then (.ok (), o, d)
  else
    let o := { o.finishEncoder with closed := true }
    (if o.marker = 0 then o else { o with buffer := o.buffer ++ [o.marker] }).flush d

end Device

end Output

end ScriptChannel
