import ScriptChannel.Charset.Cells.JisX0208
import ScriptChannel.Charset.Cells.JisX0212

/-!
# The Japanese sets

What the Japanese sets share: the cells of JIS X 0208 and the half-width katakana. The pointer of a
cell is `94 * (row - 1) + (cell - 1)`.
-/

namespace ScriptChannel.Charset.Jis

/-- The character of a pointer. -/
def char? (pointer : Nat) : Option Char :=
  [standard, selected, extended].findSome? (·.char? pointer)

/-- The character of a pointer into the supplementary set. -/
def supplementary? (pointer : Nat) : Option Char := supplement.char? pointer

/-- Full forms of the half-width katakana from U+FF61 on. -/
def fullWidth : List Nat :=
  [0x3002, 0x300C, 0x300D, 0x3001, 0x30FB, 0x30F2, 0x30A1, 0x30A3, 0x30A5, 0x30A7, 0x30A9, 0x30E3,
    0x30E5, 0x30E7, 0x30C3, 0x30FC, 0x30A2, 0x30A4, 0x30A6, 0x30A8, 0x30AA, 0x30AB, 0x30AD, 0x30AF,
    0x30B1, 0x30B3, 0x30B5, 0x30B7, 0x30B9, 0x30BB, 0x30BD, 0x30BF, 0x30C1, 0x30C4, 0x30C6, 0x30C8,
    0x30CA, 0x30CB, 0x30CC, 0x30CD, 0x30CE, 0x30CF, 0x30D2, 0x30D5, 0x30D8, 0x30DB, 0x30DE, 0x30DF,
    0x30E0, 0x30E1, 0x30E2, 0x30E4, 0x30E6, 0x30E8, 0x30E9, 0x30EA, 0x30EB, 0x30EC, 0x30ED, 0x30EF,
    0x30F3, 0x309B, 0x309C]

def isHalfWidth (c : Char) : Bool := 0xFF61 ≤ c.toNat && c.toNat ≤ 0xFF9F

def halfWidth (n : Nat) : Char := Char.ofNat (0xFF61 + n)

/-- The pointer of a character in the first of some grids that has it; the minus sign shares the cell of
the full-width hyphen. -/
def pointerIn? (grids : List Grid) (c : Char) : Option Nat :=
  grids.findSome? (·.code? (if c.toNat = 0x2212 then Char.ofNat 0xFF0D else c))

/-- The pointer of a character in the rows that two bytes of a plane reach. -/
def pointer? (c : Char) : Option Nat := pointerIn? [standard, selected] c

end ScriptChannel.Charset.Jis
