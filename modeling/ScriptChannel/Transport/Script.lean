import ScriptChannel.Source

/-!
# Scripts for sources

A script says step by step what a source does: some units arrive, none are there yet, the call is
interrupted, the stream ends, or it fails. Units that were not asked for stay at the front. After
the script the stream has ended for good; an end within it is over once it was answered.
-/

namespace ScriptChannel.Transport

inductive Step (α : Type)
  | units (us : List α)
  | delay
  | interruption
  | theEnd
  | failure (error : IoError)
  deriving DecidableEq, Repr

namespace Step
variable {α : Type}

/-- What one call for at most `n` units is answered, as a step of its own. -/
def play (n : Nat) : List (Step α) → Step α × List (Step α)
  | [] => (theEnd, [])
  | units us :: rest =>
    (units (us.take n), if (us.drop n).isEmpty then rest else units (us.drop n) :: rest)
  | step :: rest => (step, rest)

/-- How many calls a script can answer. -/
def budget : List (Step α) → Nat
  | [] => 0
  | units us :: rest => us.length + 1 + budget rest
  | _ :: rest => 1 + budget rest

/-- A step as the answer to a read call. -/
def toRead : Step α → Except IoError (List α)
  | units us => .ok us
  | delay => .error .wouldBlock
  | interruption => .error .interrupted
  | theEnd => .ok []
  | failure e => .error e

/-- A step as the answer to a fetch. A failure stays one, whatever its kind. -/
def toFetch : Step α → Fetch α
  | units us => .got us
  | delay => .wouldBlock
  | interruption => .failed .interrupted
  | theEnd => .ended
  | failure e => .failed e

end Step

/-- A source of characters by script. -/
structure TextScript where
  steps : List (Step Char)
  deriving DecidableEq, Repr

instance : CharSource TextScript where
  fetch n s :=
    let r := Step.play n s.steps
    (r.1.toFetch, ⟨r.2⟩)
  available _ := 0
  budget s := Step.budget s.steps

end ScriptChannel.Transport
