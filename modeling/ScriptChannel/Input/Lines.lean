import ScriptChannel.Source
import ScriptChannel.Policy

/-!
# Line endings on input

Every line ending becomes a newline. Telling a lone carriage return from the first half of a pair
takes one character more, which waits in `ahead`; if it has not come yet, the carriage return waits
there instead. `auto` settles on the first ending it meets.

A line that could not be completed waits in `partialLine`, and goes first in whatever is read next.
-/

namespace ScriptChannel.Input

structure Lines where
  translation : Translation
  /-- What `auto` has settled on. -/
  detected : Option Translation
  ahead : List Char
  partialLine : List Char
  /-- The source has ended. -/
  ended : Bool
  deriving DecidableEq, Repr

/-- One translated character, or why there is none. -/
inductive Next
  | char (c : Char)
  | wouldBlock
  | ended
  | failed (error : IoError)
  deriving DecidableEq, Repr

/-- The outcome of reading a line. -/
inductive LineRead
  /-- The line, without its ending. -/
  | line (text : List Char)
  /-- Not complete yet; nothing is handed out. -/
  | blocked
  | ended
  | failed (error : IoError)
  deriving DecidableEq, Repr

namespace Lines

def init (t : Translation) : Lines := ⟨t, none, [], [], false⟩

def setTranslation (l : Lines) (t : Translation) : Lines :=
  { l with translation := t, detected := none }

/-- The source has ended and nothing is left here. -/
def isEnded (l : Lines) : Bool := l.ended && l.ahead.isEmpty && l.partialLine.isEmpty

def cancelEnd (l : Lines) : Lines := { l with ended := false }

/-- Forgets everything but the setting. -/
def seekReset (l : Lines) : Lines := init l.translation

/-- The characters not handed out yet. -/
def pending (l : Lines) : List Char := l.partialLine ++ l.ahead

/-- Gives up to `n` of the characters not handed out; the others become the partial line. -/
def takePending (l : Lines) (n : Nat) : List Char × Lines :=
  (l.pending.take n, { l with partialLine := l.pending.drop n, ahead := [] })

/-- The translation in force; `auto` once it has settled is what it settled on. -/
def mode (l : Lines) : Translation :=
  match l.translation with
  | .platform => .native
  | .auto => l.detected.getD .auto
  | t => t

section Fetch
variable {σ : Type} [CharSource σ]

/-- Makes sure that a character is ahead, asking for up to `n`; answers why not, if there is none. -/
def fill (n : Nat) : Lines × σ → Option Next × Lines × σ
  | (l, s) =>
    if !l.ahead.isEmpty then (none, l, s)
    else if l.ended then (some .ended, l, s)
    else match CharSource.fetch (max n 1) s with
      | (.got [], s) => (some .ended, l, s)
      | (.got cs, s) => (none, { l with ahead := cs }, s)
      | (.ended, s) => (some .ended, { l with ended := true }, s)
      | (.wouldBlock, s) => (some .wouldBlock, l, s)
      | (.failed e, s) => (some (.failed e), l, s)

/-- What follows a carriage return that is already taken: `pair` if a newline does, which is then
taken as well, and `lone` otherwise. As long as that is open the carriage return is put back. -/
def afterReturn (pair lone : Lines → Next × Lines) : Lines × σ → Next × Lines × σ
  | s =>
    match fill 1 s with
    | (some .wouldBlock, l, s) => (.wouldBlock, { l with ahead := '\r' :: l.ahead }, s)
    | (some (.failed e), l, s) => (.failed e, l, s)
    | (_, l, s) =>
      let r := if l.ahead.head? = some '\n' then pair { l with ahead := l.ahead.tail } else lone l
      (r.1, r.2, s)

/-- The next character after translation; up to `n` are asked for at once. -/
def next (n : Nat) (s : Lines × σ) : Next × Lines × σ :=
  match fill n s with
  | (some why, l, s) => (why, l, s)
  | (none, l, s) =>
    match l.ahead with
    | [] => (.ended, l, s)
    | c :: cs =>
      let l := { l with ahead := cs }
      match l.mode, c with
      | .cr, '\r' => (.char '\n', l, s)
      | .crlf, '\r' => afterReturn (fun l => (.char '\n', l)) (fun l => (.char '\r', l)) (l, s)
      | .auto, '\n' => (.char '\n', { l with detected := some .lf }, s)
      | .auto, '\r' =>
        afterReturn (fun l => (.char '\n', { l with detected := some .crlf }))
          (fun l => (.char '\n', { l with detected := some .cr })) (l, s)
      | _, c => (.char c, l, s)

/-- Up to `n` characters, without asking the source once there are some. -/
def gather : (n : Nat) → (some? : Bool) → Lines × σ → (List Char × Halt) × Lines × σ
  | 0, _, s => (([], .served), s)
  | n + 1, some?, s =>
    if some? && s.1.ahead.isEmpty then (([], .served), s)
    else match next (n + 1) s with
      | (.char c, s) =>
        let r := gather n true s
        ((c :: r.1.1, r.1.2), r.2)
      | (.wouldBlock, s) => (([], if some? then .served else .wouldBlock), s)
      | (.ended, s) => (([], if some? then .served else .ended), s)
      | (.failed e, s) => (([], .failed e), s)

/-- Up to `n` characters, the partial line first. -/
def read (n : Nat) : Lines × σ → (List Char × Halt) × Lines × σ
  | (l, s) =>
    let front := l.partialLine.take n
    let r := gather (n - front.length) (!front.isEmpty)
      ({ l with partialLine := l.partialLine.drop n }, s)
    ((front ++ r.1.1, r.1.2), r.2)

/-- Why a line ends. -/
inductive Stop
  | newline
  | wouldBlock
  | ended
  | failed (error : IoError)
  deriving DecidableEq, Repr

/-- The characters up to the end of the line, at most `fuel` of them. They are asked for one by
one, so that what follows the line stays below. -/
def untilNewline (blocking : Bool) : (fuel : Nat) → Lines × σ → (List Char × Stop) × Lines × σ
  | 0, s => (([], .wouldBlock), s)
  | fuel + 1, s =>
    match next 1 s with
    | (.char c, s) =>
      if c = '\n' then (([], .newline), s)
      else
        let r := untilNewline blocking fuel s
        ((c :: r.1.1, r.1.2), r.2)
    | (.wouldBlock, s) =>
      if blocking then untilNewline blocking fuel s else (([], .wouldBlock), s)
    | (.ended, s) => (([], .ended), s)
    | (.failed e, s) => (([], .failed e), s)

/-- How many more characters and delays there can be. -/
def budget (s : Lines × σ) : Nat := s.1.ahead.length + CharSource.budget s.2

/-- Reads a line. What there is of a line that cannot be completed is kept. -/
def readLine (blocking : Bool) (s : Lines × σ) : LineRead × Lines × σ :=
  match untilNewline blocking (budget s + 2) s with
  | ((cs, stop), l, s) =>
    let line := l.partialLine ++ cs
    let done : Lines := { l with partialLine := [] }
    let kept : Lines := { l with partialLine := line }
    match stop with
    | .newline => (.line line, done, s)
    | .ended => if line.isEmpty then (.ended, l, s) else (.line line, done, s)
    | .wouldBlock => (.blocked, kept, s)
    | .failed e => (.failed e, kept, s)

/-- The characters here and below that were not handed out yet. -/
def available (s : Lines × σ) : Nat := s.1.pending.length + CharSource.available s.2

end Fetch

end Lines

end ScriptChannel.Input
