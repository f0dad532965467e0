import ScriptChannel.Charset.Scan
import ScriptChannel.Charset.Cells.Big5

/-!
# Big5

Two-byte cells, four of which stand for a letter and a combining mark.
-/

namespace ScriptChannel.Charset.Big5

def pointer? (lead trail : Nat) : Option Nat :=
  if (0x40 ≤ trail ∧ trail ≤ 0x7E) ∨ (0xA1 ≤ trail ∧ trail ≤ 0xFE) then
    some (157 * (lead - 0x81) + (trail - if trail < 0x7F then 0x40 else 0x62))
  else none

/-- A cell by its two bytes. -/
def cell (lead trail first count : Nat) : Stretch :=
  ⟨157 * (lead - 0x81) + (trail - if trail < 0x7F then 0x40 else 0x62), first, count⟩

/-- Characters with two cells that are written in the second. -/
def late : Index :=
  [cell 0xF9 0xF9 0x2550 1, cell 0xF9 0xE9 0x255E 1, cell 0xF9 0xEB 0x2561 1, cell 0xF9 0xEA 0x256A 1,
    cell 0xA4 0x51 0x5341 1, cell 0xA4 0xCA 0x5345 1]

/-- What a cell stands for. -/
def text? (pointer : Nat) : Option (List Char) :=
  match pointer with
  | 1133 => some ['\u00CA', '\u0304']
  | 1135 => some ['\u00CA', '\u030C']
  | 1164 => some ['\u00EA', '\u0304']
  | 1166 => some ['\u00EA', '\u030C']
  | p => ([supplement, standard].findSome? (·.char? p)).map ([·])

def scan : List UInt8 → Scan
  | [] => .incomplete
  | b :: rest =>
    if b.toNat < 0x80 then .taken 1 [Char.ofNat b.toNat]
    else if 0x81 ≤ b.toNat ∧ b.toNat ≤ 0xFE then
      match rest with
      | [] => .incomplete
      | t :: _ =>
        match (pointer? b.toNat t.toNat).bind text? with
        | some text => .taken 2 text
        | none => .malformed (if t.toNat < 0x80 then 1 else 2)
    else .malformed 1

/-- The additions in front of the standard rows are only read. -/
def encode? (c : Char) : Option (List UInt8) :=
  if c.toNat < 0x80 then some [.ofNat c.toNat]
  else ((late.code? c).or (standard.code? c)).map fun p =>
    [.ofNat (p / 157 + 0x81), .ofNat (p % 157 + if p % 157 < 0x3F then 0x40 else 0x62)]

end ScriptChannel.Charset.Big5
