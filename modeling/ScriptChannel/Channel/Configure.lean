import ScriptChannel.Channel.Basic

/-!
# Changing settings

A setting that concerns a side goes to that side too, if it is built. A setting for a direction that
the channel is not open for is ignored. A setting that is refused leaves everything as it was.
-/

namespace ScriptChannel.Channel
variable {δ : Type}

/-- Changes settings and what they concern. -/
def configure (s : Settings → Settings) (input : Input.Chain → Input.Chain)
    (output : Output → Output) (ch : Channel δ) : Channel δ :=
  { ch with
    settings := s ch.settings
    input := ch.input.map input
    output := ch.output.map output }

def setEncodingTo (e : Encoding) : Channel δ → Channel δ :=
  configure ({ · with encoding := e }) (fun c => { c with decoding := c.decoding.setEncoding e })
    (·.setEncoding e)

/-- Sets the encoding by its name; without a name the channel is binary. -/
def setEncoding (name : Option String) (ch : Channel δ) : Except ChannelError Unit × Channel δ :=
  match name with
  | none => (.ok (), ch.setEncodingTo .binary)
  | some name =>
    match Encoding.lookup? name with
    | some e => (.ok (), ch.setEncodingTo e)
    | none => (.error (.unknownEncoding name), ch)

def setBufferSize (size : Nat) (ch : Channel δ) : Except ChannelError Unit × Channel δ :=
  if Settings.minBufferSize ≤ size ∧ size ≤ Settings.maxBufferSize then
    (.ok (), ch.configure ({ · with bufferSize := size })
      (fun c => { c with readAhead := { c.readAhead with size := size } })
      ({ · with size := size }))
  else (.error (.invalidBufferSize size Settings.maxBufferSize), ch)

def setBuffering (b : Buffering) : Channel δ → Channel δ :=
  configure ({ · with buffering := b })
    (fun c => { c with readAhead := { c.readAhead with buffering := b } })
    ({ · with buffering := b })

def setBlocking (blocking : Bool) : Channel δ → Channel δ :=
  configure ({ · with blocking := blocking })
    (fun c => { c with readAhead := { c.readAhead with blocking := blocking } })
    ({ · with blocking := blocking })

def setInputTranslation (t : Translation) (ch : Channel δ) : Channel δ :=
  if ch.mode.isReadable then
    ch.configure ({ · with inputTranslation := t })
      (fun c => { c with lines := c.lines.setTranslation t }) id
  else ch

def setOutputTranslation (t : Translation) (ch : Channel δ) : Channel δ :=
  if ch.mode.isWritable then
    ch.configure ({ · with outputTranslation := t }) id ({ · with translation := t })
  else ch

/-- Sets the byte that ends the input. What was not delivered yet is looked at again, and the end
of the stream may be elsewhere now. -/
def setInputMarker (marker : UInt8) (ch : Channel δ) : Channel δ :=
  if !ch.mode.isReadable || marker = ch.settings.inputMarker then ch
  else
    { ch.configure ({ · with inputMarker := marker })
        (Input.Chain.rescan ch.settings.encoding marker) id with
      ended := false }

def setOutputMarker (marker : UInt8) (ch : Channel δ) : Channel δ :=
  if ch.mode.isWritable then
    ch.configure ({ · with outputMarker := marker }) id ({ · with marker := marker })
  else ch

end ScriptChannel.Channel
