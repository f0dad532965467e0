import ScriptChannel.Transport.Basic

/-!
# A one-way device

The least a device can be: its bytes come once, what is written goes nowhere, and it has no
positions.
-/

namespace ScriptChannel.Transport

structure OneWay where
  kind : TransportKind
  /-- The bytes still to come. -/
  coming : List UInt8
  deriving DecidableEq, Repr

namespace OneWay

instance : Transport OneWay where
  read n d := (.ok (d.coming.take n), { d with coming := d.coming.drop n })
  budget d := d.coming.length
  write bs d := (.ok bs.length, d)
  flush d := (.ok (), d)
  sync d := (.ok (), d)
  patience _ := 0
  kind := kind
  openInput d := (.ok (), d)
  openOutput d := (.ok (), d)
  seek _ d := (.error .notSeekable, d)
  tell _ := .ok none
  close d := (.ok (), d)

end OneWay

end ScriptChannel.Transport
