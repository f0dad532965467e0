/-!
# Tables of codes

A table pairs codes with code points. Where a standard assigns long runs of both in step, the table is
a list of stretches, and the first stretch that covers a code or a code point decides. Where it does
not, the table is a grid, whose rows are written out.
-/

namespace ScriptChannel.Charset

/-- `count` consecutive codes from `code` for as many code points from `first`. -/
structure Stretch where
  code : Nat
  first : Nat
  count : Nat
  deriving DecidableEq, Repr

abbrev Index := List Stretch

namespace Index

/-- The character of a code. -/
def char? (ix : Index) (code : Nat) : Option Char :=
  (ix.find? fun s => s.code ≤ code && code < s.code + s.count).map fun s =>
    Char.ofNat (s.first + (code - s.code))

/-- The code of a character. -/
def code? (ix : Index) (c : Char) : Option Nat :=
  (ix.find? fun s => s.first ≤ c.toNat && c.toNat < s.first + s.count).map fun s =>
    s.code + (c.toNat - s.first)

end Index

/-- Consecutive codes from `code` on, and the characters in their cells. -/
structure Grid where
  code : Nat
  cells : Array Char

namespace Grid

/-- What a cell without a character holds. -/
def blank : Char := ' '

/-- A grid of rows of one width. Blanks at the end of a row are left out. -/
def ofRows (code width : Nat) (rows : List String) : Grid :=
  ⟨code, (rows.flatMap fun row => row.toList.rightpad width blank).toArray⟩

/-- The character of a code. -/
def char? (g : Grid) (code : Nat) : Option Char :=
  if code < g.code then none else g.cells[code - g.code]?.filter (· ≠ blank)

/-- The first code of a character. -/
def code? (g : Grid) (c : Char) : Option Nat :=
  if c = blank then none else (g.cells.idxOf? c).map (g.code + ·)

end Grid

end ScriptChannel.Charset
