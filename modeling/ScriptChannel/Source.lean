import ScriptChannel.IoError

/-!
# Sources, sinks and patience

A *fetch* asks a source for at most `n` units and gets some of them, the news that none are there
yet, the end of the stream, or a failure. A device is read and written by single calls that may be
interrupted; `persist` repeats a call for as long as its answer asks for that.

Every source states a `budget`: how many fetches can still take something from it, be it a unit or
one scripted delay. The repetitions of `persist` are bounded by it, so no stage loops for ever. A
source that puts its reader off without using up its budget is not waited for: the last answer
stands.
-/

namespace ScriptChannel

/-- The answer to one fetch. -/
inductive Fetch (α : Type)
  /-- Some units; none only if none were asked for. -/
  | got (units : List α)
  /-- None yet. -/
  | wouldBlock
  /-- The stream has ended. -/
  | ended
  | failed (error : IoError)
  deriving DecidableEq, Repr, Inhabited

namespace Fetch
variable {α : Type}

/-- The units of a fetch, none when there is other news. -/
def units : Fetch α → List α
  | got us => us
  | _ => []

def isGot : Fetch α → Bool
  | got _ => true
  | _ => false

def isWouldBlock : Fetch α → Bool
  | wouldBlock => true
  | _ => false

/-- A read call as a fetch: no bytes are the end of the stream. -/
def ofRead : Except IoError (List α) → Fetch α
  | .ok [] => ended
  | .ok us => got us
  | .error e => if e.kind = .wouldBlock then wouldBlock else failed e

end Fetch

/-- Why a run of fetches stopped. -/
inductive Halt
  /-- It has all that was asked for, or what could be had at once. -/
  | served
  | wouldBlock
  | ended
  | failed (error : IoError)
  deriving DecidableEq, Repr, Inhabited

/-- Bytes in answer to fetches. -/
class ByteSource (σ : Type) where
  /-- At most that many bytes. -/
  fetch : Nat → σ → Fetch UInt8 × σ
  /-- Bytes already taken from the device and not handed on. -/
  available : σ → Nat
  budget : σ → Nat

/-- Characters in answer to fetches. -/
class CharSource (σ : Type) where
  /-- At most that many characters. -/
  fetch : Nat → σ → Fetch Char × σ
  available : σ → Nat
  budget : σ → Nat

/-- The reading side of a device. -/
class RawReader (δ : Type) where
  /-- One read call into a buffer of that size; no bytes are the end of the stream. -/
  read : Nat → δ → Except IoError (List UInt8) × δ
  budget : δ → Nat

/-- The writing side of a device. -/
class RawWriter (δ : Type) where
  /-- One write call; the answer is how many bytes from the front were accepted. -/
  write : List UInt8 → δ → Except IoError Nat × δ
  flush : δ → Except IoError Unit × δ
  /-- Forces what was accepted onto the medium. -/
  sync : δ → Except IoError Unit × δ
  /-- How many write calls can still be interrupted. -/
  patience : δ → Nat

section Persist
variable {α σ : Type}

/-- Repeats `attempt` at most that many times while the answer calls for it. -/
def retry (again : α → Bool) (attempt : σ → α × σ) : Nat → α × σ → α × σ
  | 0, r => r
  | n + 1, r => if again r.1 then retry again attempt n (attempt r.2) else r

/-- An answer that does not call for it is not tried again. -/
theorem retry_of_not_again {again : α → Bool} {attempt : σ → α × σ} {r : α × σ}
    (h : again r.1 = false) (n : Nat) : retry again attempt n r = r := by
  cases n <;> simp [retry, h]

theorem retry_add (again : α → Bool) (attempt : σ → α × σ) (m n : Nat) (r : α × σ) :
    retry again attempt (m + n) r = retry again attempt n (retry again attempt m r) := by
  induction m generalizing r with
  | zero => simp [retry]
  | succ m ih =>
    rw [Nat.succ_add]
    by_cases h : again r.1 = true
    · simp [retry, h, ih]
    · simp [retry, h, retry_of_not_again]

/-- The attempts made before a budget is worked out. -/
def quickAttempts : Nat := 8

/-- One `attempt`, and further ones while the answer calls for it: a few at first, and if they were
not enough as many as the budget left after them allows. -/
def persist (again : α → Bool) (budget : σ → Nat) (attempt : σ → α × σ) (s : σ) : α × σ :=
  let r := retry again attempt quickAttempts (attempt s)
  if again r.1 then retry again attempt (budget r.2 + 1) r else r

/-- All attempts in one run; its length is the budget left after the quick ones, and those. -/
theorem persist_eq_retry (again : α → Bool) (budget : σ → Nat) (attempt : σ → α × σ) (s : σ) :
    persist again budget attempt s =
      retry again attempt
        (quickAttempts + (budget (retry again attempt quickAttempts (attempt s)).2 + 1))
        (attempt s) := by
  rw [retry_add, persist]
  split
  · rfl
  · exact (retry_of_not_again (Bool.eq_false_iff.2 ‹_›) _).symm

end Persist

section Collect
variable {α σ : Type}

/-- Fetches up to `wanted` units in pieces of at most `piece`, at most `fuel` of them. -/
def collectIn (piece : Nat) (fetch : Nat → σ → (List α × Halt) × σ) :
    (fuel wanted : Nat) → σ → (List α × Halt) × σ
  | 0, _, s => (([], .served), s)
  | fuel + 1, wanted, s =>
    if wanted = 0 then (([], .served), s) else
      match fetch (min wanted piece) s with
      | ((us, .served), s) =>
        let r := collectIn piece fetch fuel (wanted - us.length) s
        ((us ++ r.1.1, r.1.2), r.2)
      | r => r

/-- Fetches `wanted` units in pieces of at most `piece`, until they are there or a fetch does not
serve. Each piece brings at least one unit, so `wanted` of them are enough. -/
def collect (piece : Nat) (fetch : Nat → σ → (List α × Halt) × σ) (wanted : Nat) (s : σ) :
    (List α × Halt) × σ :=
  collectIn piece fetch wanted wanted s

/-- A fetch as a run of its own. -/
def Fetch.run : Fetch α → List α × Halt
  | .got us => (us, .served)
  | .wouldBlock => ([], .wouldBlock)
  | .ended => ([], .ended)
  | .failed e => ([], .failed e)

end Collect

/-- The fetches of a byte source as runs. -/
def ByteSource.run {σ : Type} [ByteSource σ] (n : Nat) (s : σ) : (List UInt8 × Halt) × σ :=
  let r := ByteSource.fetch n s
  (r.1.run, r.2)

end ScriptChannel
