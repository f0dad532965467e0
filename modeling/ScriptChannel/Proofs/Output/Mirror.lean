import ScriptChannel.Output
import ScriptChannel.Proofs.Input.Mirror

/-!
# An output side on one device in place of another

If a device takes what another takes, and puts off what the other does, then what is handed to the one
is handed to the other.
-/

namespace ScriptChannel

/-- Writing to the image of a device is writing to the device. -/
structure RawWriter.Mirrors {δ ε : Type} [RawWriter δ] [RawWriter ε] (f : δ → ε) : Prop where
  write (bs : List UInt8) (d : δ) : RawWriter.write bs (f d) = Prod.map id f (RawWriter.write bs d)
  flush (d : δ) : RawWriter.flush (f d) = Prod.map id f (RawWriter.flush d)
  sync (d : δ) : RawWriter.sync (f d) = Prod.map id f (RawWriter.sync d)
  patience (d : δ) : RawWriter.patience (f d) = RawWriter.patience d

namespace Output
variable {δ ε : Type} [RawWriter δ] [RawWriter ε] {f : δ → ε} (h : RawWriter.Mirrors f)
include h

theorem writeAll_mirror (bs : List UInt8) (d : δ) :
    writeAll bs (f d) = Prod.map id f (writeAll bs d) := by
  have hsome : ∀ s : List UInt8 × δ, writeSome (Input.onto f s) =
      Prod.map id (Input.onto f) (writeSome s) := by
    rintro ⟨bs, d⟩
    simp only [writeSome, Input.onto, h.write]
    split
    · rfl
    · rcases RawWriter.write bs d with ⟨e | _ | n, d'⟩ <;> rfl
  have hbudget : ∀ s : List UInt8 × δ,
      (Input.onto f s).1.length + RawWriter.patience (Input.onto f s).2 =
        s.1.length + RawWriter.patience s.2 := fun s => congrArg (s.1.length + ·) (h.patience s.2)
  have hrun : persist Option.isNone (fun s => s.1.length + RawWriter.patience s.2) writeSome
      (bs, f d) = Prod.map id (Input.onto f)
        (persist Option.isNone (fun s => s.1.length + RawWriter.patience s.2) writeSome (bs, d)) :=
    persist_mirror hsome hbudget Option.isNone (bs, d)
  simp only [writeAll, hrun]
  rfl

theorem flush_mirror (o : Output) (d : δ) :
    o.flush (f d) = Prod.map id (Input.onto f) (o.flush d) := by
  simp only [flush, flushBuffer, h.flush, writeAll_mirror h]
  split
  · rfl
  rcases writeAll o.buffer d with ⟨e | _, d₁⟩
  · rfl
  simp only [Prod.map_apply, id, h.flush]
  rcases RawWriter.flush d₁ with ⟨e | _, d₂⟩
  · rfl
  simp only [Prod.map_apply, id, h.sync]
  split <;> rfl

theorem write_mirror (p : Payload) (o : Output) (d : δ) :
    o.write p (f d) = Prod.map id (Input.onto f) (o.write p d) := by
  simp only [write, flush_mirror h]
  split <;> rfl

end Output

end ScriptChannel
