import ScriptChannel.Channel.Basic

/-!
# Positions

A channel reads ahead of its reader and writes behind its writer. Its position is the device's, less
the backlog, plus what waits to be written. Going somewhere else flushes the output and forgets all
that was read ahead.
-/

namespace ScriptChannel.Channel
variable {δ : Type} [Transport δ]

/-- Forgets what the input side keeps, and the end of the stream. -/
def seekReset (ch : Channel δ) : Channel δ :=
  { ch with input := ch.input.map Input.Chain.seekReset, ended := false }

/-- A byte order mark may come again. -/
def rearm (ch : Channel δ) : Channel δ :=
  { ch with input := ch.input.map fun c => { c with decoding := c.decoding.rearm } }

/-- A failure of the device to tell or change its position. -/
def positionError (ch : Channel δ) (op : Positioning) (e : IoError) : ChannelError :=
  if e.kind = .unsupported then .unsupported ch.label op else .io e

/-- A place as the device has to be told: it is further on than its reader. -/
def deviceRelative (ch : Channel δ) : Place → Place
  | .fromCurrent d => .fromCurrent (d - ch.backlog)
  | p => p

/-- Goes to a place; answers the position. -/
def seek (p : Place) (ch : Channel δ) : Except ChannelError Nat × Channel δ :=
  match ch.checkOpen with
  | .error e => (.error e, ch)
  | .ok () =>
    match ch.flushOutput with
    | (.error e, ch) => (.error e, ch)
    | (.ok (), ch) =>
      match Transport.seek (ch.deviceRelative p) ch.device with
      | (.error e, d) => (.error (ch.positionError .seek e), { ch with device := d })
      | (.ok n, d) =>
        let ch := { ch with device := d }.seekReset
        let ch := if n = 0 then ch.rearm else ch
        (.ok n, ch.note (.positioned ch.label n))

/-- The position; -1 on a device without positions. A device's position beyond the signed 64-bit
numbers comes round from below. -/
def tell (ch : Channel δ) : Except ChannelError Int :=
  match ch.checkOpen with
  | .error e => .error e
  | .ok () =>
    match Transport.tell ch.device with
    | .error e => .error (ch.positionError .tell e)
    | .ok none => .ok (-1)
    | .ok (some n) => .ok (Int.bmod n UInt64.size - ch.backlog + ch.bufferedOutput)

end ScriptChannel.Channel
