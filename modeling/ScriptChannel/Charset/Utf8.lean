import ScriptChannel.Charset.Scan

/-!
# UTF-8

A lead byte fixes how many bytes follow and, for four leads, narrows the range of the second one, so
that overlong forms, surrogates and values past U+10FFFF are refused at that byte. A broken sequence
is as long as its longest valid beginning.
-/

namespace ScriptChannel.Charset.Utf8

/-- How a sequence goes on after its lead byte. -/
structure Lead where
  trails : Nat
  /-- Bounds of the second byte. -/
  low : Nat
  high : Nat
  /-- The bits that the lead contributes. -/
  value : Nat

def lead? (b : Nat) : Option Lead :=
  if b < 0xC2 then none
  else if b < 0xE0 then some ⟨1, 0x80, 0xBF, b - 0xC0⟩
  else if b = 0xE0 then some ⟨2, 0xA0, 0xBF, 0⟩
  else if b = 0xED then some ⟨2, 0x80, 0x9F, 0xD⟩
  else if b < 0xF0 then some ⟨2, 0x80, 0xBF, b - 0xE0⟩
  else if b = 0xF0 then some ⟨3, 0x90, 0xBF, 0⟩
  else if b < 0xF4 then some ⟨3, 0x80, 0xBF, b - 0xF0⟩
  else if b = 0xF4 then some ⟨3, 0x80, 0x8F, 4⟩
  else none

/-- Goes on with `trails` more bytes after `count` of value `value`. -/
def scanTrails : (trails low high count value : Nat) → List UInt8 → Scan
  | 0, _, _, count, value, _ => .taken count [Char.ofNat value]
  | _ + 1, _, _, _, _, [] => .incomplete
  | k + 1, low, high, count, value, b :: bs =>
    if low ≤ b.toNat ∧ b.toNat ≤ high then
      scanTrails k 0x80 0xBF (count + 1) (value * 64 + (b.toNat - 0x80)) bs
    else .malformed count

def scan : List UInt8 → Scan
  | [] => .incomplete
  | b :: bs =>
    if b.toNat < 0x80 then .taken 1 [Char.ofNat b.toNat]
    else match lead? b.toNat with
      | none => .malformed 1
      | some l => scanTrails l.trails l.low l.high 1 l.value bs

def encode (c : Char) : List UInt8 :=
  let n := c.toNat
  if n < 0x80 then [.ofNat n]
  else if n < 0x800 then [.ofNat (0xC0 + n / 64), .ofNat (0x80 + n % 64)]
  else if n < 0x10000 then
    [.ofNat (0xE0 + n / 4096), .ofNat (0x80 + n / 64 % 64), .ofNat (0x80 + n % 64)]
  else
    [.ofNat (0xF0 + n / 262144), .ofNat (0x80 + n / 4096 % 64), .ofNat (0x80 + n / 64 % 64),
      .ofNat (0x80 + n % 64)]

end ScriptChannel.Charset.Utf8
