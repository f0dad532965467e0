import ScriptChannel.Source

/-!
# Going back to a mark

Bytes read since a mark are kept, up to a limit, so that reading can go back to the mark and hand
them out again. `behind` holds those read since the mark, `ahead` those to be handed out again
before the source is asked. Without a mark nothing is kept behind.
-/

namespace ScriptChannel.Input

structure Rewind where
  behind : List UInt8
  ahead : List UInt8
  /-- How many bytes may be kept since the mark, if there is one. -/
  limit : Option Nat
  deriving DecidableEq, Repr

namespace Rewind

def init : Rewind := ⟨[], [], none⟩

instance : Inhabited Rewind := ⟨init⟩

def isMarked (r : Rewind) : Bool := r.limit.isSome

/-- Puts the mark at the current position. -/
def mark (r : Rewind) (limit : Nat) : Rewind := ⟨[], r.ahead, some limit⟩

/-- Goes back to the mark, which is used up. -/
def reset (r : Rewind) : Except IoError Unit × Rewind :=
  match r.limit with
  | some _ => (.ok (), ⟨[], r.behind ++ r.ahead, none⟩)
  | none => (.error .noMark, r)

def unmark (r : Rewind) : Rewind := ⟨[], r.ahead, none⟩

/-- Gives up the bytes to be handed out again. -/
def takeReplay (r : Rewind) : List UInt8 × Rewind := (r.ahead, init)

/-- Keeps bytes read since the mark; past the limit the mark is lost with all that it kept. -/
def record (r : Rewind) (bs : List UInt8) : Rewind :=
  match r.limit with
  | none => r
  | some limit =>
    if r.behind.length + bs.length > limit then init else { r with behind := r.behind ++ bs }

/-- Hands out bytes again. -/
def replay (r : Rewind) (n : Nat) : List UInt8 × Rewind :=
  let bs := r.ahead.take n
  (bs, ⟨if r.isMarked then r.behind ++ bs else [], r.ahead.drop n, r.limit⟩)

section Fetch
variable {σ : Type} [ByteSource σ]

def fetch (n : Nat) : Rewind × σ → Fetch UInt8 × Rewind × σ
  | (r, s) =>
    if n = 0 then (.got [], r, s)
    else if !r.ahead.isEmpty then
      let q := r.replay n
      (.got q.1, q.2, s)
    else
      let f := ByteSource.fetch n s
      (f.1, if f.1.isGot then r.record f.1.units else r, f.2)

instance : ByteSource (Rewind × σ) where
  fetch := fetch
  available s := s.1.ahead.length + ByteSource.available s.2
  budget s := s.1.ahead.length + ByteSource.budget s.2

end Fetch

end Rewind

end ScriptChannel.Input
