import ScriptChannel.Proofs.Channel.Mirror
import ScriptChannel.Proofs.Output.Mirror
import ScriptChannel.Transport.Rehearsed

/-!
# Devices that cannot be told apart

Two devices may differ in what no call that reads or writes ever brings to light, such as an account of
the calls made to them. What they have in common is a device as well, and reading and writing the one or
the other is reading and writing that.
-/

namespace ScriptChannel.Transport
variable {α δ : Type}

/-- The image of a device is read and written as the device is. -/
structure Reflects {ε : Type} [Transport δ] [Transport ε] (f : δ → ε) : Prop where
  reader : Mirrors f
  writer : RawWriter.Mirrors f
  openOutput (d : δ) : Transport.openOutput (f d) = Prod.map id f (Transport.openOutput d)

/-- The call answers alike on devices so related, and leaves them so. -/
def Blind (R : δ → δ → Prop) (call : δ → α × δ) : Prop :=
  ∀ ⦃d d'⦄, R d d' → (call d).1 = (call d').1 ∧ R (call d).2 (call d').2

/-- The call on what such devices have in common. -/
def Blind.lift {R : δ → δ → Prop} {call : δ → α × δ} (h : Blind R call) : Quot R → α × Quot R :=
  Quot.lift (fun d => Prod.map id (Quot.mk R) (call d)) fun _ _ hd =>
    Prod.ext (h hd).1 (Quot.sound (h hd).2)

variable [Transport δ]

/-- No call that reads or writes tells devices so related apart, nor does any run of such calls. -/
structure Indistinct (R : δ → δ → Prop) : Prop where
  read (n : Nat) : Blind R (RawReader.read n)
  write (bs : List UInt8) : Blind R (RawWriter.write bs)
  flush : Blind R RawWriter.flush
  sync : Blind R RawWriter.sync
  openInput : Blind R Transport.openInput
  openOutput : Blind R Transport.openOutput
  budget {d d' : δ} (h : R d d') : RawReader.budget d = RawReader.budget d'
  patience {d d' : δ} (h : R d d') : RawWriter.patience d = RawWriter.patience d'
  kind {d d' : δ} (h : R d d') : Transport.kind d = Transport.kind d'

variable {R : δ → δ → Prop}

/-- What they have in common, as a device without positions. -/
@[reducible] def Indistinct.common (h : Indistinct R) : Transport (Quot R) where
  read n := (h.read n).lift
  budget := Quot.lift RawReader.budget fun _ _ => h.budget
  write bs := (h.write bs).lift
  flush := h.flush.lift
  sync := h.sync.lift
  patience := Quot.lift RawWriter.patience fun _ _ => h.patience
  kind := Quot.lift Transport.kind fun _ _ => h.kind
  openInput := h.openInput.lift
  openOutput := h.openOutput.lift
  seek _ d := (.error .notSeekable, d)
  tell _ := .ok none
  close d := (.ok (), d)

theorem Indistinct.reflects (h : Indistinct R) :
    letI := h.common
    Reflects (Quot.mk R) :=
  letI := h.common
  { reader := ⟨⟨fun _ _ => rfl, fun _ => rfl⟩, fun _ => rfl, fun _ => rfl⟩
    writer := ⟨fun _ _ => rfl, fun _ => rfl, fun _ => rfl, fun _ => rfl⟩
    openOutput := fun _ => rfl }

namespace Rehearsed

/-- The devices differ in the account of the calls made to them at most. -/
def SameButLog (d d' : Rehearsed) : Prop := d' = { d with log := d'.log }

theorem indistinct : Indistinct SameButLog := by
  have hsame : ∀ {α : Type} {call : Rehearsed → α × Rehearsed},
      (∀ d log, (call { d with log := log }).1 = (call d).1 ∧
        SameButLog (call d).2 (call { d with log := log }).2) → Blind SameButLog call := by
    intro α call h d d' hd
    rw [hd]
    exact ⟨(h d d'.log).1.symm, (h d d'.log).2⟩
  refine ⟨fun n => hsame fun _ _ => ⟨rfl, rfl⟩, fun bs => hsame fun _ _ => ⟨rfl, rfl⟩,
    hsame fun _ _ => ⟨rfl, rfl⟩, hsame fun _ _ => ⟨rfl, rfl⟩, hsame fun _ _ => ⟨rfl, rfl⟩,
    hsame fun _ _ => ⟨rfl, rfl⟩, fun hd => ?_, fun hd => ?_, fun hd => ?_⟩
  all_goals rw [hd]; rfl

/-- A device that cannot go where it is told only takes down that it was told. -/
theorem seek_sameButLog (p : Place) (d : Rehearsed) (e : IoError) (d' : Rehearsed)
    (h : Transport.seek p d = (.error e, d')) : d.SameButLog d' := by
  obtain rfl : (Transport.seek p d).2 = d' := congrArg Prod.snd h
  rfl

/-- So does a flush, if no flush fails. -/
theorem flush_sameButLog {d : Rehearsed} (h : d.hooks .flush = []) :
    d.SameButLog (RawWriter.flush d).2 := by
  have hhooks :
      (fun h' => if h' = Hook.flush then (d.hooks .flush).tail else d.hooks h') = d.hooks := by
    funext h'
    split
    · rename_i hflush
      rw [hflush, h, List.tail_nil]
    · rfl
  change { d with hooks := _, log := _ } = _
  rw [hhooks]
  rfl

end Rehearsed

end ScriptChannel.Transport
