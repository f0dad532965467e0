import ScriptChannel.Channel.Write

/-!
# Closing a channel

Closing takes down both sides and then closes the device. Every step is taken whatever became of
those before it; the first failure is answered. A channel that was never written still gets its end
marker. Closing again does nothing.
-/

namespace ScriptChannel.Channel
variable {δ : Type} [Transport δ]

/-- Takes down the input side. -/
def releaseInput (ch : Channel δ) : Channel δ :=
  match ch.input with
  | none => ch
  | some _ => { ch with input := none }.note (.inputReleased ch.label)

/-- An end marker is due and there is nothing to write it with. -/
def lacksOutput (ch : Channel δ) : Bool :=
  ch.mode.isWritable && ch.settings.outputMarker != 0 && ch.output.isNone

/-- Builds what the end marker is written with. -/
def prepareMarker (ch : Channel δ) : Except ChannelError Unit × Channel δ :=
  if ch.lacksOutput then
    let r := ch.buildOutput
    (r.1.map fun _ => (), r.2)
  else (.ok (), ch)

/-- Closes and takes down the output side. -/
def releaseOutput (ch : Channel δ) : Except ChannelError Unit × Channel δ :=
  match ch.output with
  | none => (.ok (), ch)
  | some o =>
    let r := o.close ch.device
    let ch := { ch with output := none, device := r.2.2, journal := o.closingNotes ++ ch.journal }
    (r.1.mapError .io, ch.note (.outputReleased ch.label))

def closeDevice (ch : Channel δ) : Except ChannelError Unit × Channel δ :=
  let r := Transport.close ch.device
  let ch := { ch with device := r.2 }
  (r.1.mapError .io, ch.note (.closed ch.label ch.kindName))

def close (ch : Channel δ) : Except ChannelError Unit × Channel δ :=
  if ch.closed then (.ok (), ch)
  else
    let marked := ({ ch with closed := true } : Channel δ).releaseInput.prepareMarker
    let released := marked.2.releaseOutput
    let closed := released.2.closeDevice
    (marked.1 *> released.1 *> closed.1, closed.2)

end ScriptChannel.Channel
