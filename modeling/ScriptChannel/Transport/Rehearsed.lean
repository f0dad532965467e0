import ScriptChannel.Transport.Basic
import ScriptChannel.Transport.Script

/-!
# A rehearsed device

A device that follows scripts on both sides and keeps a log of the calls made to it. Each call takes
the first entry of its own queue; a call whose queue has run out succeeds.
-/

namespace ScriptChannel.Transport

/-- How a write call is answered. -/
inductive Acceptance
  | all
  | atMost (count : Nat)
  | failure (error : IoError)
  deriving DecidableEq, Repr

/-- The calls without a result of their own. -/
inductive Hook
  | flush
  | sync
  | openInput
  | openOutput
  | close
  deriving DecidableEq, Repr

/-- A call and its answer. -/
inductive Call
  | read (size : Nat) (answer : Step UInt8)
  | write (offered : List UInt8) (answer : Except IoErrorKind Nat)
  | hook (hook : Hook) (failure : Option IoErrorKind)
  | seek (place : Place)

/-- What a device that is asked for its position says. -/
abbrev Told := Except IoError (Option Nat)

structure Rehearsed where
  kind : TransportKind
  reads : List (Step UInt8)
  writes : List Acceptance
  /-- The failures to come, hook by hook. -/
  hooks : Hook → List (Option IoError)
  seeks : Except IoError Nat
  tells : Told
  /-- The bytes accepted so far. -/
  accepted : List UInt8
  /-- The calls so far, the last one first. -/
  log : List Call

namespace Rehearsed

/-- All queues empty, at position 0 for ever, and without a position to tell. -/
def quiet : Rehearsed := ⟨.memory, [], [], fun _ => [], .ok 0, .ok none, [], []⟩

instance : Inhabited Rehearsed := ⟨quiet⟩

def feed (d : Rehearsed) (script : List (Step UInt8)) : Rehearsed :=
  { d with reads := d.reads ++ script }

/-- The calls in order. -/
def calls (d : Rehearsed) : List Call := d.log.reverse

def play (n : Nat) (d : Rehearsed) : Step UInt8 × Rehearsed :=
  let r := Step.play n d.reads
  (r.1, { d with reads := r.2, log := .read n r.1 :: d.log })

def read (n : Nat) (d : Rehearsed) : Except IoError (List UInt8) × Rehearsed :=
  let r := play n d
  (r.1.toRead, r.2)

def write (bs : List UInt8) (d : Rehearsed) : Except IoError Nat × Rehearsed :=
  let answer : Except IoError Nat := match d.writes with
    | .atMost k :: _ => .ok (min k bs.length)
    | .failure e :: _ => .error e
    | _ => .ok bs.length
  let accepted := match answer with
    | .ok k => bs.take k
    | .error _ => []
  (answer,
    { d with
      writes := d.writes.tail
      accepted := d.accepted ++ accepted
      log := .write bs (answer.mapError (·.kind)) :: d.log })

def call (h : Hook) (d : Rehearsed) : Except IoError Unit × Rehearsed :=
  let failure := (d.hooks h).head?.join
  (match failure with
    | some e => .error e
    | none => .ok (),
    { d with
      hooks := fun h' => if h' = h then (d.hooks h).tail else d.hooks h'
      log := .hook h (failure.map (·.kind)) :: d.log })

instance : Transport Rehearsed where
  read := read
  budget d := Step.budget d.reads
  write := write
  flush := call .flush
  sync := call .sync
  patience d := d.writes.length
  kind := kind
  openInput := call .openInput
  openOutput := call .openOutput
  seek p d := (d.seeks, { d with log := .seek p :: d.log })
  tell := tells
  close := call .close

/-- The device as a source of bytes, without anything in between. -/
instance : ByteSource Rehearsed where
  fetch n d :=
    let r := read n d
    (.ofRead r.1, r.2)
  available _ := 0
  budget d := Step.budget d.reads

end Rehearsed

end ScriptChannel.Transport
