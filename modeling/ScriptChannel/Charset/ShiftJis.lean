import ScriptChannel.Charset.Scan
import ScriptChannel.Charset.Jis

/-!
# Shift_JIS

Single bytes for ASCII and the half-width katakana, two for everything else. A second byte that is
ASCII is never swallowed by a sequence it breaks.
-/

namespace ScriptChannel.Charset.ShiftJis

/-- The pointer of a lead and a trail byte. -/
def pointer? (lead trail : Nat) : Option Nat :=
  if 0x40 ≤ trail ∧ trail ≤ 0xFC ∧ trail ≠ 0x7F then
    some ((lead - if lead < 0xA0 then 0x81 else 0xC1) * 188 +
      (trail - if trail < 0x7F then 0x40 else 0x41))
  else none

/-- The pointers from 8836 to 10715 are private use. -/
def char? (pointer : Nat) : Option Char :=
  if 8836 ≤ pointer ∧ pointer ≤ 10715 then some (Char.ofNat (0xE000 + (pointer - 8836)))
  else Jis.char? pointer

def isLead (b : Nat) : Bool := (0x81 ≤ b && b ≤ 0x9F) || (0xE0 ≤ b && b ≤ 0xFC)

def scan : List UInt8 → Scan
  | [] => .incomplete
  | b :: rest =>
    let n := b.toNat
    if n ≤ 0x80 then .taken 1 [Char.ofNat n]
    else if 0xA1 ≤ n ∧ n ≤ 0xDF then .taken 1 [Jis.halfWidth (n - 0xA1)]
    else if isLead n then
      match rest with
      | [] => .incomplete
      | t :: _ =>
        match (pointer? n t.toNat).bind char? with
        | some c => .taken 2 [c]
        | none => .malformed (if t.toNat < 0x80 then 1 else 2)
    else .malformed 1

/-- A character that was added twice is written as it was added last. -/
def encode? (c : Char) : Option (List UInt8) :=
  let n := c.toNat
  if n ≤ 0x80 then some [.ofNat n]
  else if n = 0xA5 then some [0x5C]
  else if n = 0x203E then some [0x7E]
  else if Jis.isHalfWidth c then some [.ofNat (n - 0xFF61 + 0xA1)]
  else (Jis.pointerIn? [Jis.standard, Jis.extended] c).map fun p =>
    let lead := p / 188
    let trail := p % 188
    [.ofNat (lead + if lead < 0x1F then 0x81 else 0xC1),
      .ofNat (trail + if trail < 0x3F then 0x40 else 0x41)]

end ScriptChannel.Charset.ShiftJis
