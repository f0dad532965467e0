import ScriptChannel.Source

/-!
# The stream up to its end marker

A marker byte ends the stream for the reader before the device's own end. The marker and what came
with it behind it are held back, not lost: with another marker in force they are looked at again.
Bytes can also be handed back, and then come before those held.
-/

namespace ScriptChannel.Input

/-- Bytes between the device and the rest of the input side. -/
structure Cutoff where
  /-- 0 for no marker. -/
  marker : UInt8
  /-- The marker was met. -/
  reached : Bool
  held : List UInt8
  deriving DecidableEq, Repr

namespace Cutoff

def init (marker : UInt8) : Cutoff := ⟨marker, false, []⟩

def setMarker (c : Cutoff) (marker : UInt8) : Cutoff :=
  { c with marker := marker, reached := false }

/-- Hands bytes back. -/
def unread (c : Cutoff) (bs : List UInt8) : Cutoff :=
  { c with held := bs ++ c.held }

/-- Forgets everything but the marker. -/
def seekReset (c : Cutoff) : Cutoff :=
  { c with reached := false, held := [] }

section Fetch
variable {δ : Type} [RawReader δ]

/-- An interrupted read is to be tried again. -/
def interrupted : Except IoError (List UInt8) → Bool
  | .error e => e.kind = .interrupted
  | .ok _ => false

/-- Held bytes, or else one read of the device. -/
def take (n : Nat) : Cutoff × δ → Fetch UInt8 × Cutoff × δ
  | (c, d) =>
    if c.held.isEmpty then
      let r := persist interrupted RawReader.budget (RawReader.read n) d
      (.ofRead r.1, c, r.2)
    else (.got (c.held.take n), { c with held := c.held.drop n }, d)

/-- Holds bytes back from the marker on. -/
def screen (c : Cutoff) (bs : List UInt8) : Fetch UInt8 × Cutoff :=
  if c.marker = 0 ∨ !bs.contains c.marker then (.got bs, c)
  else
    let before := bs.takeWhile (· != c.marker)
    let c := { c with reached := true }.unread (bs.drop before.length)
    (if before.isEmpty then .ended else .got before, c)

def fetch (n : Nat) : Cutoff × δ → Fetch UInt8 × Cutoff × δ
  | (c, d) =>
    if c.reached then (.ended, c, d)
    else if n = 0 then (.got [], c, d)
    else match take n (c, d) with
      | (.got bs, c, d) =>
        let r := c.screen bs
        (r.1, r.2, d)
      | r => r

instance : ByteSource (Cutoff × δ) where
  fetch := fetch
  available _ := 0
  budget s := s.1.held.length + RawReader.budget s.2

end Fetch

end Cutoff

end ScriptChannel.Input
