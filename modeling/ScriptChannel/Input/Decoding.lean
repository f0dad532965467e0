import ScriptChannel.Encoding
import ScriptChannel.Input.Rewind

/-!
# From bytes to characters

Bytes are asked for by the number of characters wanted and decoded; characters beyond that number
are the surplus, which goes first next time. Where bytes are characters as they stand, nothing is
decoded. At the start of the stream a byte order mark that belongs to the encoding is skipped, once;
telling it from text takes up to three bytes, which are handed back through the mark below.

At the end of the stream the decoder is finished, and the stream stays ended until that is
cancelled.
-/

namespace ScriptChannel.Input

structure Decoding where
  encoding : Encoding
  /-- Its state, when the encoding needs one. -/
  decoder : Option Charset.Decoder
  surplus : List Char
  /-- No byte of the stream was read yet, so a byte order mark may come. -/
  atStart : Bool
  finished : Bool
  deriving DecidableEq, Repr

namespace Decoding

/-- The most bytes asked for at once. -/
def maxChunk : Nat := 16384

/-- The length of the longest byte order mark. -/
def markLength : Nat := 3

def init (e : Encoding) : Decoding := ⟨e, e.decoder?, [], true, false⟩

/-- A new encoding for the bytes to come; what the old one had begun is dropped. -/
def setEncoding (d : Decoding) (e : Encoding) : Decoding :=
  { d with encoding := e, decoder := e.decoder? }

/-- Takes back the end of the stream, and with it the finished decoder. -/
def cancelEnd (d : Decoding) : Decoding :=
  if d.finished then { d with finished := false, decoder := d.encoding.decoder? } else d

/-- Forgets what was read. -/
def seekReset (d : Decoding) : Decoding :=
  { d with surplus := [], finished := false, decoder := d.encoding.decoder? }

def rearm (d : Decoding) : Decoding := { d with atStart := true }

def disarm (d : Decoding) : Decoding := { d with atStart := false }

def takeSurplus (d : Decoding) : List Char × Decoding := (d.surplus, { d with surplus := [] })

/-- Decodes bytes; answers up to `n` characters and keeps the rest. -/
def decode (d : Decoding) (n : Nat) (bs : List UInt8) : List Char × Decoding :=
  match d.decoder with
  | none => ([], d)
  | some state =>
    let r := state.feed bs
    (r.1.take n, { d with decoder := some r.2, surplus := d.surplus ++ r.1.drop n })

/-- Finishes the decoder; answers up to `n` characters and keeps the rest. -/
def finish (d : Decoding) (n : Nat) : List Char × Decoding :=
  match d.decoder with
  | none => ([], { d with finished := true })
  | some state =>
    let r := state.finish
    (r.1.take n,
      { d with decoder := some r.2, surplus := d.surplus ++ r.1.drop n, finished := true })

section Fetch
variable {σ : Type} [ByteSource σ]

/-- Skips the byte order mark of the encoding; answers why it could not, if it could not. -/
def skipMark : Decoding × Rewind × σ → Option (Fetch Char) × Decoding × Rewind × σ
  | (d, r, s) =>
    match d.encoding.markedCharset? with
    | none => (none, d.disarm, r, s)
    | some expected =>
      match collect markLength ByteSource.run markLength (r.mark markLength, s) with
      | ((_, .failed e), r, s) => (some (.failed e), d, r.reset.2, s)
      | ((bs, halt), r, s) =>
        match r.reset with
        | (.error e, r) => (some (.failed e), d, r, s)
        | (.ok (), r) =>
          let found := Charset.ofMark? bs
          if halt = .wouldBlock ∧ found.isNone ∧ Charset.couldBecomeMark bs then
            (some .wouldBlock, d, r, s)
          else if found = some expected then
            match Rewind.fetch (expected.mark?.getD []).length (r, s) with
            | (.failed e, r, s) => (some (.failed e), d.disarm, r, s)
            | (_, r, s) => (none, d.disarm, r, s)
          else (none, d.disarm, r, s)

/-- Bytes that are characters as they stand. -/
def fetchBytes (n : Nat) : Decoding × Rewind × σ → Fetch Char × Decoding × Rewind × σ
  | (d, s) =>
    match ByteSource.fetch (min n maxChunk) s with
    | (.got bs, s) => (.got (bs.map Encoding.charOfByte), d, s)
    | (.ended, s) => (.ended, { d with finished := true }, s)
    | (.wouldBlock, s) => (.wouldBlock, d, s)
    | (.failed e, s) => (.failed e, d, s)

/-- How many bytes to ask for when `n` characters are wanted. -/
def bytesFor (d : Decoding) (n : Nat) : Nat :=
  let unit := d.encoding.bytesPerChar
  max unit (min (n * unit) maxChunk)

/-- One request for bytes, decoded. No answer if they made no character yet. -/
def advance (n : Nat) : Decoding × Rewind × σ → Option (Fetch Char) × Decoding × Rewind × σ
  | (d, s) =>
    match ByteSource.fetch (d.bytesFor n) s with
    | (.got bs, s) =>
      let r := d.decode n bs
      (if r.1.isEmpty then none else some (.got r.1), r.2, s)
    | (.ended, s) =>
      let r := d.finish n
      (some (if r.1.isEmpty then .ended else .got r.1), r.2, s)
    | (.wouldBlock, s) => (some .wouldBlock, d, s)
    | (.failed e, s) => (some (.failed e), d, s)

/-- Decodes until there is a character. -/
def fetchText (n : Nat) (s : Decoding × Rewind × σ) : Fetch Char × Decoding × Rewind × σ :=
  let r := persist Option.isNone (fun s => ByteSource.budget s.2) (advance n) s
  (r.1.getD .wouldBlock, r.2)

/-- Characters from where a byte order mark may no longer stand. -/
def fetchPlain (n : Nat) (s : Decoding × Rewind × σ) : Fetch Char × Decoding × Rewind × σ :=
  match s.1.encoding with
  | .charset _ => fetchText n s
  | _ => fetchBytes n s

def fetch (n : Nat) : Decoding × Rewind × σ → Fetch Char × Decoding × Rewind × σ
  | (d, s) =>
    if n = 0 then (.got [], d, s)
    else if !d.surplus.isEmpty then
      (.got (d.surplus.take n), { d with surplus := d.surplus.drop n }, s)
    else if d.finished then (.ended, d, s)
    else if d.atStart then
      match skipMark (d, s) with
      | (some f, s) => (f, s)
      | (none, s) => fetchPlain n s
    else fetchPlain n (d, s)

/-- Bytes that the decoder keeps to itself. -/
def pending (d : Decoding) : Nat :=
  (d.decoder.map (·.pending.length)).getD 0

instance : CharSource (Decoding × Rewind × σ) where
  fetch := fetch
  available s := s.1.surplus.length + ByteSource.available s.2
  budget s := s.1.surplus.length + s.1.pending + ByteSource.budget s.2

end Fetch

end Decoding

end ScriptChannel.Input
