/-!
# The front of a byte sequence

A character set is read by looking at the front of the bytes at hand: either they are the beginning
of something longer, or a known number of them stands for some text. A malformed sequence stands
for one replacement character; how many bytes it takes is for the set to say, and the bytes it does
not take are looked at again.
-/

namespace ScriptChannel.Charset

/-- Stands for whatever could not be read. -/
def replacement : Char := '\uFFFD'

/-- What the front of a byte sequence is. -/
inductive Scan
  /-- More bytes are needed to tell. -/
  | incomplete
  /-- `count` bytes, at least one, stand for `text`. -/
  | taken (count : Nat) (text : List Char)
  deriving DecidableEq, Repr

/-- `count` bytes that stand for nothing. -/
def Scan.malformed (count : Nat) : Scan := .taken count [replacement]

section Drain
variable {τ : Type}

/-- Takes sequences off the front until the rest is incomplete, at most `fuel` of them. The shift
state `τ` is the set's memory between sequences. Answers the text, the state and the rest. -/
def drainIn (scan : τ → List UInt8 → Scan × τ) : Nat → τ → List UInt8 → List Char × τ × List UInt8
  | 0, s, bs => ([], s, bs)
  | _ + 1, s, [] => ([], s, [])
  | fuel + 1, s, b :: bs =>
    match scan s (b :: bs) with
    | (.incomplete, _) => ([], s, b :: bs)
    | (.taken n text, s') =>
      let r := drainIn scan fuel s' ((b :: bs).drop n)
      (text ++ r.1, r.2)

/-- Takes sequences off the front until the rest is incomplete. Each takes a byte at least. -/
def drain (scan : τ → List UInt8 → Scan × τ) (s : τ) (bs : List UInt8) :
    List Char × τ × List UInt8 :=
  drainIn scan bs.length s bs

end Drain

end ScriptChannel.Charset
