import ScriptChannel.Channel.Data
import ScriptChannel.Output
import ScriptChannel.Text.Quoted

/-!
# The journal of a channel

What a channel notes about itself while it works. A note is a level and named fields, the message
first.
-/

namespace ScriptChannel

inductive Event
  | inputBuilt (channel kind : String) (buffering : Buffering) (size : Nat)
  | outputBuilt (channel kind : String) (sync : Bool)
  | read (channel : String) (kind : ReadKind) (status : ReadStatus)
  | appendSeekFailed (channel error : String)
  | positioned (channel : String) (position : Nat)
  | inputReleased (channel : String)
  | outputReleased (channel : String)
  | markerAppended (marker : UInt8)
  | closed (channel kind : String)
  | attached (owners : Nat)
  | lastDetached (name : Option String)
  deriving DecidableEq, Repr

namespace Event

def level : Event → String
  | read _ _ _ => "TRACE"
  | _ => "DEBUG"

def message : Event → String
  | inputBuilt _ _ _ _ => "input pipeline built"
  | outputBuilt _ _ _ => "output stage built"
  | read _ _ _ => "channel read"
  | appendSeekFailed _ _ => "append seek failed, writing at current position"
  | positioned _ _ => "seek reset the input pipeline"
  | inputReleased _ => "input pipeline released"
  | outputReleased _ => "output stage released"
  | markerAppended _ => "output eof marker appended"
  | closed _ _ => "channel closed"
  | attached _ => "shared channel attached"
  | lastDetached _ => "last owner detached, closing channel"

/-- The fields after the message. -/
def details : Event → List (String × String)
  | inputBuilt c k b n =>
    [("channel", c), ("kind", k), ("buffering", b.name), ("buffer_size", toString n)]
  | outputBuilt c k sync => [("channel", c), ("kind", k), ("sync", toString sync)]
  | read c k s => [("channel", c), ("kind", k.debug), ("code", toString s.code)]
  | appendSeekFailed c e => [("channel", c), ("error", e)]
  | positioned c p => [("channel", c), ("position", toString p)]
  | inputReleased c => [("channel", c)]
  | outputReleased c => [("channel", c)]
  | markerAppended m => [("eof_char", toString m.toNat)]
  | closed c k => [("channel", c), ("kind", k)]
  | attached n => [("owners", toString n)]
  | lastDetached name => [("channel", Text.quotedOption name)]

def fields (e : Event) : List (String × String) := ("message", e.message) :: e.details

end Event

/-- What closing the output side notes. -/
def Output.closingNotes (o : Output) : List Event :=
  if o.appendsMarker then [.markerAppended o.marker] else []

end ScriptChannel
