import ScriptChannel.Charset.Scan
import ScriptChannel.Charset.Cells.KsX1001

/-!
# EUC-KR

Two-byte cells of 190 trail bytes.
-/

namespace ScriptChannel.Charset.EucKr

def pointer? (lead trail : Nat) : Option Nat :=
  if 0x41 ≤ trail ∧ trail ≤ 0xFE then some (190 * (lead - 0x81) + (trail - 0x41)) else none

def scan : List UInt8 → Scan
  | [] => .incomplete
  | b :: rest =>
    if b.toNat < 0x80 then .taken 1 [Char.ofNat b.toNat]
    else if 0x81 ≤ b.toNat ∧ b.toNat ≤ 0xFE then
      match rest with
      | [] => .incomplete
      | t :: _ =>
        match (pointer? b.toNat t.toNat).bind standard.char? with
        | some c => .taken 2 [c]
        | none => .malformed (if t.toNat < 0x80 then 1 else 2)
    else .malformed 1

def encode? (c : Char) : Option (List UInt8) :=
  if c.toNat < 0x80 then some [.ofNat c.toNat]
  else (standard.code? c).map fun p => [.ofNat (p / 190 + 0x81), .ofNat (p % 190 + 0x41)]

end ScriptChannel.Charset.EucKr
