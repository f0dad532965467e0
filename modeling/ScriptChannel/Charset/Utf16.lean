import ScriptChannel.Charset.Scan

/-!
# UTF-16

Two bytes are a unit, in either order. A high surrogate waits for the whole unit behind it before
anything is said about it; if that is no low surrogate it is looked at on its own.
-/

namespace ScriptChannel.Charset.Utf16

inductive ByteOrder
  | little
  | big
  deriving DecidableEq, Repr

def ByteOrder.unit : ByteOrder → UInt8 → UInt8 → Nat
  | little, a, b => a.toNat + 256 * b.toNat
  | big, a, b => 256 * a.toNat + b.toNat

def ByteOrder.bytes : ByteOrder → Nat → List UInt8
  | little, u => [.ofNat (u % 256), .ofNat (u / 256)]
  | big, u => [.ofNat (u / 256), .ofNat (u % 256)]

def isHigh (u : Nat) : Bool := 0xD800 ≤ u && u < 0xDC00

def isLow (u : Nat) : Bool := 0xDC00 ≤ u && u < 0xE000

/-- The code point of a surrogate pair. -/
def pair (high low : Nat) : Nat := 0x10000 + (high - 0xD800) * 0x400 + (low - 0xDC00)

def scan (order : ByteOrder) : List UInt8 → Scan
  | a :: b :: rest =>
    let u := order.unit a b
    if isLow u then .malformed 2
    else if isHigh u then
      match rest with
      | c :: d :: _ =>
        let v := order.unit c d
        if isLow v then .taken 4 [Char.ofNat (pair u v)] else .malformed 2
      | _ => .incomplete
    else .taken 2 [Char.ofNat u]
  | _ => .incomplete

/-- The units of a character. -/
def units (c : Char) : List Nat :=
  let n := c.toNat
  if n < 0x10000 then [n]
  else [0xD800 + (n - 0x10000) / 0x400, 0xDC00 + (n - 0x10000) % 0x400]

def encode (order : ByteOrder) (c : Char) : List UInt8 :=
  (units c).flatMap order.bytes

end ScriptChannel.Charset.Utf16
