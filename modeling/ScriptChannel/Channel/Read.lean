import ScriptChannel.Channel.Basic

/-!
# Reading from a channel

Output that waits goes out first, so that a reader of the same device meets it. The end of the
stream, once seen, is answered at once; before that it is seen only by a read that runs into it.
-/

namespace ScriptChannel.Channel
variable {δ : Type} [Transport δ]

/-- What a read comes to: its status, or its error, and the destination either way. -/
structure Reading where
  status : Except ChannelError ReadStatus
  data : Data

/-- The status of a run that brought `count` units. -/
def statusOf (count : Nat) : Halt → Except ChannelError ReadStatus
  | .failed e => .error (.io e)
  | .ended => .ok (if count = 0 then .ended else .data count)
  | _ => .ok (.data count)

/-- Reads up to `n` units through the input side `c`. -/
def readUnits (n : Nat) (dst : Data) (c : Input.Chain) (ch : Channel δ) : Reading × Channel δ :=
  let finish (count : Nat) (halt : Halt) (dst : Data) (c : Input.Chain) (d : δ) :=
    (Reading.mk (statusOf count halt) dst,
      { ch with input := some c, device := d, ended := ch.ended || halt = .ended })
  if ch.settings.encoding.isBinary then
    let r := c.readBytes n ch.device
    finish r.1.1.length r.1.2 (dst.appendBytes r.1.1) r.2.1 r.2.2
  else
    let r := c.readText n ch.device
    finish r.1.1.length r.1.2 (dst.appendText r.1.1) r.2.1 r.2.2

/-- Reads a line through the input side `c`. A line that is not complete is none. -/
def readLine (dst : Data) (c : Input.Chain) (ch : Channel δ) : Reading × Channel δ :=
  let r := c.readLine ch.settings.blocking ch.device
  let after := { ch with input := some r.2.1, device := r.2.2 }
  match r.1 with
  | .line cs =>
    let dst := if ch.settings.encoding.isBinary then dst.appendBytes (cs.map Encoding.lowByte)
      else dst.appendText cs
    (⟨.ok (.data cs.length), dst⟩, { after with ended := r.2.1.lines.isEnded })
  | .blocked => (⟨.ok (.data 0), dst⟩, { after with ended := r.2.1.lines.isEnded })
  | .ended => (⟨.ok .ended, dst⟩, { after with ended := true })
  | .failed e => (⟨.error (.io e), dst⟩, after)

/-- Reads and appends to `dst`. -/
def read (kind : ReadKind) (dst : Data) (ch : Channel δ) : Reading × Channel δ :=
  match ch.checkRead with
  | .error e => (⟨.error e, dst⟩, ch)
  | .ok () =>
    if ch.ended then (⟨.ok .ended, dst⟩, ch)
    else match if ch.mode.isWritable then ch.flushOutput else (.ok (), ch) with
      | (.error e, ch) => (⟨.error e, dst⟩, ch)
      | (.ok (), ch) =>
        match ch.buildInput with
        | (.error e, ch) => (⟨.error e, dst⟩, ch)
        | (.ok c, ch) =>
          let r := match kind with
            | .line => readLine dst c ch
            | .all => readUnits ReadKind.everything dst c ch
            | .units n => readUnits n dst c ch
          match r.1.status with
          | .ok s => (r.1, r.2.note (.read r.2.label kind s))
          | .error _ => r

/-- Whether the source last had nothing for a read. -/
def isBlocked (ch : Channel δ) : Except ChannelError Bool :=
  ch.checkRead.map fun _ => (ch.input.map (·.readAhead.starved)).getD false

end ScriptChannel.Channel
