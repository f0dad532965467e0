import ScriptChannel.Proofs.Input.Mirror

/-!
# A source under observation

Any source of bytes with an account of the fetches made from it, each with its answer. What it has
delivered is a sequence that only grows, whoever asks and for how much.
-/

namespace ScriptChannel

/-- A source and the fetches from it so far, in order: how many bytes were asked for, and the answer. -/
structure Consulted (σ : Type) where
  source : σ
  log : List (Nat × Fetch UInt8)
  deriving DecidableEq, Repr

namespace Consulted
variable {σ : Type}

/-- A source that nothing was asked of yet. -/
def fresh (s : σ) : Consulted σ := ⟨s, []⟩

/-- The bytes that it has delivered. -/
def delivered (s : Consulted σ) : List UInt8 := s.log.flatMap fun entry => entry.2.units

section Source
variable [ByteSource σ]

instance : ByteSource (Consulted σ) where
  fetch n s :=
    let r := ByteSource.fetch n s.source
    (r.1, ⟨r.2, s.log ++ [(n, r.1)]⟩)
  available s := ByteSource.available s.source
  budget s := ByteSource.budget s.source

/-- The account makes no difference to the answers. -/
theorem mirrors : ByteSource.Mirrors (source (σ := σ)) where
  fetch _ _ := rfl
  budget _ := rfl

@[simp] theorem log_fetch (n : Nat) (s : Consulted σ) :
    (ByteSource.fetch n s).2.log = s.log ++ [(n, (ByteSource.fetch n s).1)] := rfl

@[simp] theorem delivered_fetch (n : Nat) (s : Consulted σ) :
    (ByteSource.fetch n s).2.delivered = s.delivered ++ (ByteSource.fetch n s).1.units := by
  simp [delivered]

instance [ByteStream σ] : ByteStream (Consulted σ) where
  coming s := ByteStream.coming s.source
  fetch_takes n s hn := ByteStream.fetch_takes n s.source hn
  length_coming_le s := ByteStream.length_coming_le s.source

end Source

end Consulted

end ScriptChannel
