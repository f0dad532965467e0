import ScriptChannel.Channel.Position

/-!
# Writing to a channel

On a channel opened for appending every write goes to the end first; a device that cannot is written
where it is.
-/

namespace ScriptChannel.Channel
variable {δ : Type} [Transport δ]

/-- Goes to the end, and notes it if that fails. -/
def seekToEnd (ch : Channel δ) : Channel δ :=
  match ch.seek (.fromEnd 0) with
  | (.ok _, ch) => ch
  | (.error e, ch) => ch.note (.appendSeekFailed ch.label e.message)

/-- Runs an operation of the output side `o`. -/
def runOutput (f : Output → δ → Except IoError Unit × Output × δ) (o : Output) (ch : Channel δ) :
    Except ChannelError Unit × Channel δ :=
  let r := f o ch.device
  (r.1.mapError .io, { ch with output := some r.2.1, device := r.2.2 })

def write (p : Payload) (ch : Channel δ) : Except ChannelError Unit × Channel δ :=
  match ch.checkWrite with
  | .error e => (.error e, ch)
  | .ok () =>
    match (if ch.mode.isAppend then ch.seekToEnd else ch).buildOutput with
    | (.error e, ch) => (.error e, ch)
    | (.ok o, ch) => ch.runOutput (Output.write p) o

def flush (ch : Channel δ) : Except ChannelError Unit × Channel δ :=
  match ch.checkOpen with
  | .error e => (.error e, ch)
  | .ok () =>
    if !ch.mode.isWritable then (.error (.notWritable ch.label), ch) else ch.flushOutput

end ScriptChannel.Channel
