/-!
# Failures of a device

A device operation fails with a kind, which the stages inspect, and a text, which they only hand on.
Two kinds are not failures of the stream: an interrupted operation is simply tried again, and one
that would block says that nothing is there yet.
-/

namespace ScriptChannel

inductive IoErrorKind
  | brokenPipe
  | connectionReset
  | notFound
  | permissionDenied
  | timedOut
  | other
  | invalidInput
  | invalidData
  | unsupported
  | wouldBlock
  | interrupted
  | unexpectedEnd
  | writeZero
  deriving DecidableEq, Repr, Inhabited

structure IoError where
  kind : IoErrorKind
  message : String
  deriving DecidableEq, Repr, Inhabited

namespace IoError

/-- Nothing is there yet. -/
def wouldBlock : IoError := ⟨.wouldBlock, "operation would block"⟩

/-- The operation was cut short before it did anything. -/
def interrupted : IoError := ⟨.interrupted, "operation interrupted"⟩

/-- A device took none of the bytes it was offered. -/
def writeZero : IoError := ⟨.writeZero, "failed to write whole buffer"⟩

/-- A position outside the 64-bit addresses. -/
def negativePosition : IoError := ⟨.invalidInput, "seek to a negative position"⟩

/-- The device has no positions. -/
def notSeekable : IoError := ⟨.unsupported, "transport does not support seeking"⟩

/-- Going back without a mark to go back to. -/
def noMark : IoError := ⟨.invalidInput, "reset without a valid mark"⟩

end IoError

end ScriptChannel
