import ScriptChannel.Charset.Scan
import ScriptChannel.Charset.Jis

/-!
# EUC-JP

Two high bytes are a cell, one after 0x8E is half-width katakana, two after 0x8F are a cell of the
supplementary set, which is read but not written.
-/

namespace ScriptChannel.Charset.EucJp

def isHigh (b : UInt8) : Bool := 0xA1 ≤ b.toNat && b.toNat ≤ 0xFE

/-- A sequence broken at `b` after `count` bytes; an ASCII byte is left to be looked at again. -/
def broken (count : Nat) (b : UInt8) : Scan :=
  .malformed (if b.toNat < 0x80 then count else count + 1)

/-- The pointer of two high bytes. -/
def pointer (lead trail : UInt8) : Nat := (lead.toNat - 0xA1) * 94 + (trail.toNat - 0xA1)

/-- The front of a sequence that 0x8F begins, by the bytes behind that. -/
def scanSupplementary : List UInt8 → Scan
  | [] => .incomplete
  | [t] => if isHigh t then .incomplete else broken 1 t
  | t :: u :: _ =>
    if isHigh t then
      if isHigh u then
        match Jis.supplementary? (pointer t u) with
        | some c => .taken 3 [c]
        | none => .malformed 3
      else broken 2 u
    else broken 1 t

def scan : List UInt8 → Scan
  | [] => .incomplete
  | b :: rest =>
    let n := b.toNat
    if n < 0x80 then .taken 1 [Char.ofNat n]
    else if n = 0x8F then scanSupplementary rest
    else if n = 0x8E ∨ isHigh b then
      match rest with
      | [] => .incomplete
      | t :: _ =>
        if n = 0x8E then
          if 0xA1 ≤ t.toNat ∧ t.toNat ≤ 0xDF then .taken 2 [Jis.halfWidth (t.toNat - 0xA1)]
          else broken 1 t
        else if isHigh t then
          match Jis.char? (pointer b t) with
          | some c => .taken 2 [c]
          | none => .malformed 2
        else broken 1 t
    else .malformed 1

def encode? (c : Char) : Option (List UInt8) :=
  let n := c.toNat
  if n < 0x80 then some [.ofNat n]
  else if n = 0xA5 then some [0x5C]
  else if n = 0x203E then some [0x7E]
  else if Jis.isHalfWidth c then some [0x8E, .ofNat (n - 0xFF61 + 0xA1)]
  else (Jis.pointer? c).map fun p => [.ofNat (p / 94 + 0xA1), .ofNat (p % 94 + 0xA1)]

end ScriptChannel.Charset.EucJp
