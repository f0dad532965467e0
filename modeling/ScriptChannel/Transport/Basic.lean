import ScriptChannel.Source
import ScriptChannel.Text.Quoted

/-!
# Devices

A device is read and written by single calls and may be positioned. What kind it is decides its
short name and whether flushed data is forced onto the medium.
-/

namespace ScriptChannel

inductive TransportKind
  | file
  | socket
  | pipe
  | memory
  | custom (name : String)
  deriving DecidableEq, Repr, Inhabited

namespace TransportKind

def name : TransportKind → String
  | file => "file"
  | socket => "sock"
  | pipe => "pipe"
  | memory => "mem"
  | custom name => name

/-- Flushed data has to be forced onto the medium. -/
def requiresSync (k : TransportKind) : Bool := k = file

/-- The debug form. -/
def debug : TransportKind → String
  | file => "File"
  | socket => "Socket"
  | pipe => "Pipe"
  | memory => "Memory"
  | custom name => s!"Custom({Text.quoted name})"

end TransportKind

/-- A place to go to. -/
inductive Place
  | fromStart (offset : Nat)
  | fromEnd (offset : Int)
  | fromCurrent (offset : Int)
  deriving DecidableEq, Repr

/-- A device that a channel can be opened on. -/
class Transport (δ : Type) extends RawReader δ, RawWriter δ where
  kind : δ → TransportKind
  /-- Prepares the reading side, once per channel. -/
  openInput : δ → Except IoError Unit × δ
  /-- Prepares the writing side, once per channel. -/
  openOutput : δ → Except IoError Unit × δ
  /-- Goes to a place; answers the position reached. -/
  seek : Place → δ → Except IoError Nat × δ
  /-- The position, if the device has positions. -/
  tell : δ → Except IoError (Option Nat)
  close : δ → Except IoError Unit × δ

end ScriptChannel
