import ScriptChannel.Channel.Close

/-!
# Channels with several owners

A shared channel counts its owners by the handles that were attached and not detached. The owner
that leaves last closes it; dropping a handle any other way does not.
-/

namespace ScriptChannel

structure Shared (δ : Type) where
  channel : Channel δ

namespace Shared
variable {δ : Type}

/-- The first owner. -/
def init (ch : Channel δ) : Shared δ := ⟨ch.retain.2⟩

/-- One owner more. -/
def attach (s : Shared δ) : Shared δ :=
  let r := s.channel.retain
  ⟨r.2.note (.attached r.1)⟩

/-- One owner less; answers how many are left. -/
def detach [Transport δ] (s : Shared δ) : Except ChannelError Nat × Shared δ :=
  let r := s.channel.release
  if r.1 = 0 then
    let closed := (r.2.note (.lastDetached r.2.name)).close
    (closed.1.map fun _ => 0, ⟨closed.2⟩)
  else (.ok r.1, ⟨r.2⟩)

/-- An operation on the channel that all owners share. -/
def within {α : Type} (f : Channel δ → α × Channel δ) (s : Shared δ) : α × Shared δ :=
  let r := f s.channel
  (r.1, ⟨r.2⟩)

def owners (s : Shared δ) : Nat := s.channel.owners

end Shared

end ScriptChannel
