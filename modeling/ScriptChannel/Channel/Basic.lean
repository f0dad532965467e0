import ScriptChannel.Channel.Error
import ScriptChannel.Channel.Event
import ScriptChannel.Input.Chain
import ScriptChannel.OpenMode
import ScriptChannel.Output
import ScriptChannel.Transport.Basic

/-!
# A channel

A channel is a device with a mode, its settings, and two sides that are built when they are first
used. What it was told before is what a side is built with; what it is told afterwards goes to the
side as well. A channel that is closed stays closed.
-/

namespace ScriptChannel

/-- What can be set on a channel. -/
structure Settings where
  blocking : Bool
  buffering : Buffering
  bufferSize : Nat
  encoding : Encoding
  inputTranslation : Translation
  outputTranslation : Translation
  /-- The byte that ends the input; 0 for none. -/
  inputMarker : UInt8
  /-- The byte put behind the output; 0 for none. -/
  outputMarker : UInt8
  deriving DecidableEq, Repr

namespace Settings

def defaultBufferSize : Nat := 4096
def minBufferSize : Nat := 1
def maxBufferSize : Nat := 1024 * 1024

/-- Blocking text in UTF-8. -/
def default : Settings :=
  ⟨true, .full, defaultBufferSize, .utf8, .auto, .platform, 0, 0⟩

end Settings

structure Channel (δ : Type) where
  device : δ
  mode : OpenMode
  settings : Settings
  /-- Given once. -/
  name : Option String
  owners : Nat
  /-- The end of the input was seen. -/
  ended : Bool
  closed : Bool
  input : Option Input.Chain
  output : Option Output
  /-- What was noted, the last first. -/
  journal : List Event

namespace Channel
variable {δ : Type}

/-- A fresh channel. -/
def init (d : δ) (m : OpenMode) : Channel δ :=
  { device := d, mode := m, settings := .default, name := none, owners := 0, ended := false,
    closed := false, input := none, output := none, journal := [] }

def note (e : Event) (ch : Channel δ) : Channel δ := { ch with journal := e :: ch.journal }

/-- The notes in order. -/
def events (ch : Channel δ) : List Event := ch.journal.reverse

/-- Gives the channel its name, once. -/
def setName (name : String) (ch : Channel δ) : Except ChannelError Unit × Channel δ :=
  if ch.name.isSome then (.error (.nameAlreadySet name), ch)
  else (.ok (), { ch with name := some name })

/-- One owner more. -/
def retain (ch : Channel δ) : Nat × Channel δ :=
  (ch.owners + 1, { ch with owners := ch.owners + 1 })

/-- One owner less, if there is one. -/
def release (ch : Channel δ) : Nat × Channel δ :=
  (ch.owners - 1, { ch with owners := ch.owners - 1 })

/-- Units that wait on the input side. -/
def bufferedInput (ch : Channel δ) : Nat := (ch.input.map Input.Chain.buffered).getD 0

/-- Bytes that wait on the output side. -/
def bufferedOutput (ch : Channel δ) : Nat := (ch.output.map (·.buffer.length)).getD 0

/-- Bytes read from the device and not delivered. -/
def backlog (ch : Channel δ) : Nat :=
  (ch.input.map (Input.Chain.backlog ch.settings.encoding)).getD 0

section Device
variable [Transport δ]

/-- The name of the device's kind. -/
def kindName (ch : Channel δ) : String := (Transport.kind ch.device).name

/-- What messages call the channel. -/
def label (ch : Channel δ) : String := ch.name.getD ch.kindName

def checkOpen (ch : Channel δ) : Except ChannelError Unit :=
  if ch.closed then .error (.closed ch.label) else .ok ()

def checkRead (ch : Channel δ) : Except ChannelError Unit :=
  if ch.closed then .error (.closed ch.label)
  else if !ch.mode.isReadable then .error (.notReadable ch.label)
  else .ok ()

def checkWrite (ch : Channel δ) : Except ChannelError Unit :=
  if ch.closed then .error (.closed ch.label)
  else if !ch.mode.isWritable then .error (.notWritable ch.label)
  else if !ch.settings.blocking then .error (.nonBlockingWrite ch.label)
  else .ok ()

/-- The input side as the settings have it. -/
def newInput (s : Settings) : Input.Chain :=
  { lines := .init s.inputTranslation
    decoding := .init s.encoding
    rewind := .init
    readAhead := { Input.ReadAhead.init s.bufferSize s.buffering with blocking := s.blocking }
    cutoff := .init s.inputMarker }

/-- Builds the input side, unless there is one. -/
def buildInput (ch : Channel δ) : Except ChannelError Input.Chain × Channel δ :=
  match ch.input with
  | some c => (.ok c, ch)
  | none =>
    match Transport.openInput ch.device with
    | (.error e, d) => (.error (.io e), { ch with device := d })
    | (.ok (), d) =>
      let c := newInput ch.settings
      let ch := { ch with device := d, input := some c }
      (.ok c, ch.note (.inputBuilt ch.label ch.kindName ch.settings.buffering ch.settings.bufferSize))

/-- The output side as the settings have it. -/
def newOutput (s : Settings) (sync : Bool) : Output :=
  { Output.init s.encoding s.outputTranslation s.buffering s.bufferSize with
    blocking := s.blocking, sync := sync, marker := s.outputMarker }

/-- Builds the output side, unless there is one. -/
def buildOutput (ch : Channel δ) : Except ChannelError Output × Channel δ :=
  match ch.output with
  | some o => (.ok o, ch)
  | none =>
    match Transport.openOutput ch.device with
    | (.error e, d) => (.error (.io e), { ch with device := d })
    | (.ok (), d) =>
      let sync := (Transport.kind d).requiresSync
      let o := newOutput ch.settings sync
      let ch := { ch with device := d, output := some o }
      (.ok o, ch.note (.outputBuilt ch.label ch.kindName sync))

/-- Flushes the output side, if there is one. -/
def flushOutput (ch : Channel δ) : Except ChannelError Unit × Channel δ :=
  match ch.output with
  | none => (.ok (), ch)
  | some o =>
    let r := o.flush ch.device
    (r.1.mapError .io, { ch with output := some r.2.1, device := r.2.2 })

/-- The debug form. -/
def debug (ch : Channel δ) : String :=
  let encoding := match ch.settings.encoding.debug? with
    | some e => s!"Some({e})"
    | none => "None"
  let fields : List (String × String) :=
    [("name", Text.quotedOption ch.name), ("kind", (Transport.kind ch.device).debug),
      ("mode", ch.mode.debug), ("encoding", encoding), ("buffering", ch.settings.buffering.debug),
      ("buffer_size", toString ch.settings.bufferSize),
      ("blocking", toString ch.settings.blocking), ("eof", toString ch.ended),
      ("closed", toString ch.closed)]
  "Channel \x7b " ++ String.intercalate ", " (fields.map fun f => s!"{f.1}: {f.2}") ++ " \x7d"

end Device

end Channel

end ScriptChannel
