import ScriptChannel.Charset.Basic

/-!
# Reading text piece by piece

A decoder is fed bytes one by one and keeps those that have not become text yet. Since its state is
all that passes from one byte to the next, how the bytes are cut into pieces makes no difference.
Reading a whole stream is feeding it and then finishing. A finished decoder is spent and yields
nothing more.
-/

namespace ScriptChannel.Charset

/-- What a set remembers between sequences. -/
inductive Shift
  | plain
  | jis (state : Iso2022Jp.State)
  /-- The one replacement character has been given. -/
  | reported
  deriving DecidableEq, Repr

def initialShift : Charset → Shift
  | .iso2022Jp => .jis Iso2022Jp.initial
  | _ => .plain

/-- The front of bytes below and above 0x80 in a single-byte set. -/
def scanByte (upper : Nat → Option Char) : List UInt8 → Scan
  | [] => .incomplete
  | b :: _ =>
    if b.toNat < 0x80 then .taken 1 [Char.ofNat b.toNat]
    else match upper b.toNat with
      | some c => .taken 1 [c]
      | none => .malformed 1

/-- The front of a byte sequence. -/
def scan : Charset → Shift → List UInt8 → Scan × Shift
  | .iso2022Jp, .jis state, bs =>
    let r := Iso2022Jp.scan state bs
    (r.1, .jis r.2)
  | .iso2022Jp, s, _ => (.incomplete, s)
  | .replaced, s, bs =>
    (if bs.isEmpty then .incomplete else if s = .reported then .taken 1 [] else .malformed 1, .reported)
  | .utf8, s, bs => (Utf8.scan bs, s)
  | .utf16 order, s, bs => (Utf16.scan order bs, s)
  | .page p, s, bs => (scanByte p.index.char? bs, s)
  | .userDefined, s, bs => (scanByte (fun n => some (Char.ofNat (0xF700 + n))) bs, s)
  | .shiftJis, s, bs => (ShiftJis.scan bs, s)
  | .eucJp, s, bs => (EucJp.scan bs, s)
  | .gbk, s, bs => (Gb.scan bs, s)
  | .gb18030, s, bs => (Gb.scan bs, s)
  | .big5, s, bs => (Big5.scan bs, s)
  | .eucKr, s, bs => (EucKr.scan bs, s)

structure Decoder where
  charset : Charset
  shift : Shift
  /-- Bytes that have not become text yet. -/
  pending : List UInt8
  spent : Bool
  deriving DecidableEq, Repr

def decoder (c : Charset) : Decoder := ⟨c, c.initialShift, [], false⟩

namespace Decoder

def step (d : Decoder) (b : UInt8) : List Char × Decoder :=
  let r := drain d.charset.scan d.shift (d.pending ++ [b])
  (r.1, { d with shift := r.2.1, pending := r.2.2 })

def feed (d : Decoder) : List UInt8 → List Char × Decoder
  | [] => ([], d)
  | b :: bs =>
    if d.spent then ([], d) else
      let r := d.step b
      let r' := feed r.2 bs
      (r.1 ++ r'.1, r'.2)

theorem feed_of_spent {d : Decoder} (h : d.spent = true) (bs : List UInt8) :
    d.feed bs = ([], d) := by
  cases bs <;> simp [feed, h]

/-- How bytes are cut into pieces makes no difference. -/
theorem feed_append (d : Decoder) (as bs : List UInt8) :
    d.feed (as ++ bs) =
      ((d.feed as).1 ++ ((d.feed as).2.feed bs).1, ((d.feed as).2.feed bs).2) := by
  induction as generalizing d with
  | nil => simp [feed]
  | cons a as ih => by_cases h : d.spent <;> simp [feed, feed_of_spent, h, ih]

/-- What the bytes left over at the end of the stream stand for. -/
def rest (d : Decoder) : List Char :=
  match d.shift with
  | .jis state => Iso2022Jp.finish state d.pending
  | _ => if d.pending.isEmpty then [] else [replacement]

/-- Ends the stream. -/
def finish (d : Decoder) : List Char × Decoder :=
  (if d.spent then [] else d.rest, { d with pending := [], spent := true })

end Decoder

/-- The text of a whole stream. -/
def decode (c : Charset) (bs : List UInt8) : List Char :=
  let r := c.decoder.feed bs
  r.1 ++ r.2.finish.1

end ScriptChannel.Charset
