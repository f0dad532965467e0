import ScriptChannel.Charset.Scan
import ScriptChannel.Charset.Jis

/-!
# ISO-2022-JP

Seven-bit bytes whose meaning is chosen by escape sequences. Reading remembers the set in force and
whether nothing but the escape has come since it was chosen: a second escape right behind one is an
error. Writing remembers the set alone and has to end in ASCII.
-/

namespace ScriptChannel.Charset.Iso2022Jp

inductive Mode
  | ascii
  | roman
  | katakana
  | kanji
  deriving DecidableEq, Repr, Inhabited

structure State where
  mode : Mode
  /-- An escape was the last thing read. -/
  escaped : Bool
  deriving DecidableEq, Repr

def initial : State := ⟨.ascii, false⟩

/-- The set that an escape byte followed by these two selects. -/
def selected? (lead final : UInt8) : Option Mode :=
  if lead = 0x28 then
    if final = 0x42 then some .ascii
    else if final = 0x4A then some .roman
    else if final = 0x49 then some .katakana
    else none
  else if lead = 0x24 ∧ (final = 0x40 ∨ final = 0x42) then some .kanji
  else none

def isCell (b : UInt8) : Bool := 0x21 ≤ b.toNat && b.toNat ≤ 0x7E

/-- Neither shift codes nor the escape are characters. -/
def isShift (n : Nat) : Bool := n = 0x0E || n = 0x0F || n = 0x1B

/-- The front of bytes that do not begin with an escape. -/
def scanIn : Mode → UInt8 → List UInt8 → Scan
  | .ascii, b, _ =>
    if b.toNat < 0x80 ∧ !isShift b.toNat then .taken 1 [Char.ofNat b.toNat] else .malformed 1
  | .roman, b, _ =>
    if b = 0x5C then .taken 1 ['\u00A5']
    else if b = 0x7E then .taken 1 ['\u203E']
    else if b.toNat < 0x80 ∧ !isShift b.toNat then .taken 1 [Char.ofNat b.toNat]
    else .malformed 1
  | .katakana, b, _ =>
    if 0x21 ≤ b.toNat ∧ b.toNat ≤ 0x5F then .taken 1 [Jis.halfWidth (b.toNat - 0x21)]
    else .malformed 1
  | .kanji, b, rest =>
    if isCell b then
      match rest with
      | [] => .incomplete
      | t :: _ =>
        if t = 0x1B then .malformed 1
        else if isCell t then
          match Jis.char? ((b.toNat - 0x21) * 94 + (t.toNat - 0x21)) with
          | some c => .taken 2 [c]
          | none => .malformed 2
        else .malformed 2
    else .malformed 1

def scan (s : State) : List UInt8 → Scan × State
  | [] => (.incomplete, s)
  | b :: rest =>
    let quiet : State := ⟨s.mode, false⟩
    if b = 0x1B then
      match rest with
      | [] => (.incomplete, s)
      | lead :: rest =>
        if lead = 0x24 ∨ lead = 0x28 then
          match rest with
          | [] => (.incomplete, s)
          | final :: _ =>
            match selected? lead final with
            | some mode => (.taken 3 (if s.escaped then [replacement] else []), ⟨mode, true⟩)
            | none => (.malformed 1, quiet)
        else (.malformed 1, quiet)
    else (scanIn s.mode b rest, quiet)

/-- What bytes left over at the end stand for: the first is an error, and the rest is read again. -/
def finish (s : State) : List UInt8 → List Char
  | [] => []
  | _ :: rest =>
    let r := drain scan ⟨s.mode, false⟩ rest
    replacement :: r.1 ++ if r.2.2.isEmpty then [] else [replacement]

/-- The escape that selects a set. -/
def escape : Mode → List UInt8
  | .ascii => [0x1B, 0x28, 0x42]
  | .roman => [0x1B, 0x28, 0x4A]
  | .katakana => [0x1B, 0x28, 0x49]
  | .kanji => [0x1B, 0x24, 0x42]

/-- The escape from one set to another, if it takes one. -/
def shift (before after : Mode) : List UInt8 :=
  if before = after then [] else escape after

/-- The bytes for a character, or else the character to be reported as having none, and the set
that is then in force. Reporting from the kanji set goes back to ASCII first. -/
def encode (m : Mode) (c : Char) : (List UInt8 × Option Char) × Mode :=
  let n := c.toNat
  if n < 0x80 then
    let after := if m = .kanji ∨ (m = .roman ∧ (n = 0x5C ∨ n = 0x7E)) then .ascii else m
    if isShift n then ((shift m after, some replacement), after)
    else ((shift m after ++ [.ofNat n], none), after)
  else if n = 0xA5 then ((shift m .roman ++ [0x5C], none), .roman)
  else if n = 0x203E then ((shift m .roman ++ [0x7E], none), .roman)
  else
    let full := if Jis.isHalfWidth c then Char.ofNat (Jis.fullWidth.getD (n - 0xFF61) 0) else c
    match Jis.pointer? full with
    | some p =>
      ((shift m .kanji ++ [.ofNat (p / 94 + 0x21), .ofNat (p % 94 + 0x21)], none), .kanji)
    | none =>
      let after := if m = .kanji then .ascii else m
      ((shift m after, some c), after)

end ScriptChannel.Charset.Iso2022Jp
