import ScriptChannel.Source
import ScriptChannel.Policy

/-!
# Reading ahead

Bytes are asked for in buffers of a set size and handed out from there, in line mode at most up to
the end of a line; without buffering each request goes to the source as it is. The end of the
stream sticks until it is cancelled. A blocking reader asks again when nothing is there yet.
-/

namespace ScriptChannel.Input

structure ReadAhead where
  cache : List UInt8
  size : Nat
  buffering : Buffering
  blocking : Bool
  /-- The source has said that it ended. -/
  ended : Bool
  /-- The source last said that nothing is there yet. -/
  starved : Bool
  deriving DecidableEq, Repr

namespace ReadAhead

/-- Empty, and blocking. -/
def init (size : Nat) (buffering : Buffering) : ReadAhead :=
  ⟨[], size, buffering, true, false, false⟩

def cancelEnd (b : ReadAhead) : ReadAhead := { b with ended := false }

/-- Gives up the cache. -/
def takeCached (b : ReadAhead) : List UInt8 × ReadAhead := (b.cache, { b with cache := [] })

/-- Forgets everything but the settings. -/
def seekReset (b : ReadAhead) : ReadAhead :=
  { b with cache := [], ended := false, starved := false }

/-- At most `n` bytes of the first line, its end included. -/
def firstLine : Nat → List UInt8 → List UInt8
  | 0, _ | _, [] => []
  | n + 1, b :: bs => if b = 0x0A then [b] else b :: firstLine n bs

/-- What one request of `n` gets of the cache. -/
def share (b : ReadAhead) (n : Nat) : List UInt8 :=
  if b.buffering = .line then firstLine n b.cache else b.cache.take n

/-- Hands bytes out of the cache. -/
def serve (b : ReadAhead) (n : Nat) : List UInt8 × ReadAhead :=
  let bs := b.share n
  (bs, { b with cache := b.cache.drop bs.length })

section Fetch
variable {σ : Type} [ByteSource σ]

/-- Asks the source, and again while it has nothing and the reader blocks. -/
def ask (n : Nat) : ReadAhead × σ → Fetch UInt8 × ReadAhead × σ
  | (b, s) =>
    let r := persist (fun f => b.blocking && f.isWouldBlock) ByteSource.budget
      (ByteSource.fetch n) s
    match r.1 with
    | .failed e => (.failed e, b, r.2)
    | .ended => (.ended, { b with starved := false, ended := true }, r.2)
    | f => (f, { b with starved := f.isWouldBlock }, r.2)

def fetch (n : Nat) : ReadAhead × σ → Fetch UInt8 × ReadAhead × σ
  | (b, s) =>
    if n = 0 then (.got [], b, s)
    else if !b.cache.isEmpty then
      let r := b.serve n
      (.got r.1, r.2, s)
    else if b.ended then (.ended, b, s)
    else if b.buffering = .none then ask n (b, s)
    else match ask (max b.size 1) (b, s) with
      | (.got bs, b, s) =>
        let r := { b with cache := bs }.serve n
        (.got r.1, r.2, s)
      | r => r

instance : ByteSource (ReadAhead × σ) where
  fetch := fetch
  available s := s.1.cache.length
  budget s := s.1.cache.length + ByteSource.budget s.2

end Fetch

end ReadAhead

end ScriptChannel.Input
