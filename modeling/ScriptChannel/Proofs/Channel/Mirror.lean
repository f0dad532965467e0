import ScriptChannel.Channel.Position
import ScriptChannel.Proofs.Channel.Delivered
import ScriptChannel.Proofs.Input.Mirror

/-!
# A channel on one device in place of another

Reads of a channel on the image of a device are reads of a channel on the device.
-/

namespace ScriptChannel

/-- The image of a device is read, named and opened for reading as the device is. -/
structure Transport.Mirrors {δ ε : Type} [Transport δ] [Transport ε] (f : δ → ε) : Prop
    extends RawReader.Mirrors f where
  kind (d : δ) : Transport.kind (f d) = Transport.kind d
  openInput (d : δ) : Transport.openInput (f d) = Prod.map id f (Transport.openInput d)

/-- The image has the positions of the device, too. -/
structure Transport.Follows {δ ε : Type} [Transport δ] [Transport ε] (f : δ → ε) : Prop where
  mirrors : Mirrors f
  seek (p : Place) (d : δ) : Transport.seek p (f d) = Prod.map id f (Transport.seek p d)
  tell (d : δ) : Transport.tell (f d) = Transport.tell d

namespace Channel
variable {δ ε : Type}

/-- The channel on the image of its device. -/
def onto (f : δ → ε) (ch : Channel δ) : Channel ε :=
  { device := f ch.device, mode := ch.mode, settings := ch.settings, name := ch.name,
    owners := ch.owners, ended := ch.ended, closed := ch.closed, input := ch.input,
    output := ch.output, journal := ch.journal }

variable [Transport δ] [Transport ε] {f : δ → ε} (h : Transport.Mirrors f)
include h

theorem label_onto (ch : Channel δ) : (ch.onto f).label = ch.label := by
  simp [label, kindName, onto, h.kind]

theorem kindName_onto (ch : Channel δ) : (ch.onto f).kindName = ch.kindName := by
  simp [kindName, onto, h.kind]

theorem buildInput_onto (ch : Channel δ) :
    (ch.onto f).buildInput = Prod.map id (onto f) ch.buildInput := by
  obtain ⟨d, m, s, name, owners, ended, closed, input, output, j⟩ := ch
  cases input with
  | some c => rfl
  | none =>
    simp only [buildInput, onto, h.openInput]
    rcases Transport.openInput d with ⟨e | _, d'⟩
    · rfl
    · let built : Channel δ :=
        ⟨d', m, s, name, owners, ended, closed, some (newInput s), output, j⟩
      change (Except.ok (newInput s), (built.onto f).note (.inputBuilt (built.onto f).label
        (built.onto f).kindName s.buffering s.bufferSize)) = _
      rw [label_onto h, kindName_onto h]
      rfl

theorem readUnits_onto (n : Nat) (dst : Data) (c : Input.Chain) (ch : Channel δ) :
    readUnits n dst c (ch.onto f) = Prod.map id (onto f) (readUnits n dst c ch) := by
  have htext := Input.Chain.readText_mirror h.toMirrors n c ch.device
  have hbytes := Input.Chain.readBytes_mirror h.toMirrors n c ch.device
  simp only [readUnits, onto, htext, hbytes]
  split <;> rfl

theorem readLine_onto (dst : Data) (c : Input.Chain) (ch : Channel δ) :
    readLine dst c (ch.onto f) = Prod.map id (onto f) (readLine dst c ch) := by
  have hline := Input.Chain.readLine_mirror h.toMirrors ch.settings.blocking c ch.device
  simp only [readLine, onto, hline]
  rcases c.readLine ch.settings.blocking ch.device with ⟨l, c', d⟩
  cases l <;> rfl

/-- A read of the one is a read of the other. -/
theorem read_onto {ch : Channel δ} (hquiet : ch.output = none) (kind : ReadKind) (dst : Data) :
    read kind dst (ch.onto f) = Prod.map id (onto f) (read kind dst ch) := by
  have hcheck : (ch.onto f).checkRead = ch.checkRead := by
    simp only [checkRead, label_onto h]
    rfl
  have hflush : (if ch.mode.isWritable then ch.flushOutput else (.ok (), ch)) = (.ok (), ch) := by
    simp [flushOutput, hquiet]
  have hflush' : (if (ch.onto f).mode.isWritable then (ch.onto f).flushOutput
      else (.ok (), ch.onto f)) = (.ok (), ch.onto f) := by
    simp [flushOutput, onto, hquiet]
  have hended : (ch.onto f).ended = ch.ended := rfl
  simp only [read, hcheck, hended, hflush, hflush', buildInput_onto h]
  rcases ch.checkRead with e | _
  · rfl
  dsimp only
  split
  · rfl
  rcases ch.buildInput with ⟨e | c, ch'⟩
  · rfl
  have hline := readLine_onto h dst c ch'
  have hunits := fun n => readUnits_onto h n dst c ch'
  cases kind with
  | line =>
    simp only [Prod.map_apply, Prod.map_fst, Prod.map_snd, id, hline, label_onto h]
    split <;> rfl
  | all | units n =>
    simp only [Prod.map_apply, Prod.map_fst, Prod.map_snd, id, hunits, label_onto h]
    split <;> rfl

/-- So is a run of them. -/
theorem serve_onto [InputDevice δ] {ch : Channel δ} (hr : ch.Readable)
    (requests : List (ReadKind × Data)) :
    (ch.onto f).serve requests = Prod.map id (onto f) (ch.serve requests) := by
  induction requests generalizing ch with
  | nil => rfl
  | cons request requests ih =>
    obtain ⟨kind, dst⟩ := request
    simp only [serve, read_onto h hr.quiet, Prod.map_fst, Prod.map_snd, id,
      ih (read_keeps hr kind dst).1]
    rfl

/-- A run for units meets the end on the one when it does on the other, and delivers the same. -/
theorem delivered_onto [InputDevice δ] {ch : Channel δ} (hr : ch.Readable)
    {requests : List (ReadKind × Data)} (hunits : ∀ r ∈ requests, r.1 ≠ .line) :
    (ch.onto f).delivered requests = ch.delivered requests := by
  induction requests generalizing ch with
  | nil => rfl
  | cons request requests ih =>
    obtain ⟨kind, dst⟩ := request
    obtain ⟨hkind, hothers⟩ := List.forall_mem_cons.1 hunits
    have hread := read_onto h hr.quiet kind dst
    have hbrought : (ch.onto f).brought kind dst = ch.brought kind dst := by
      rw [brought, brought, hread]
      cases kind with
      | line => exact absurd rfl hkind
      | all | units n => rfl
    rw [delivered, delivered, hbrought, hread]
    exact congrArg (ch.brought kind dst ++ ·) (ih (read_keeps hr kind dst).1 hothers)

omit h in
/-- Going somewhere on the one is going there on the other. -/
theorem seek_onto (h : Transport.Follows f) {ch : Channel δ} (hquiet : ch.output = none) (p : Place) :
    seek p (ch.onto f) = Prod.map id (onto f) (seek p ch) := by
  have hflush : ch.flushOutput = (.ok (), ch) := by simp [flushOutput, hquiet]
  have hflush' : (ch.onto f).flushOutput = (.ok (), ch.onto f) := by
    simp [flushOutput, onto, hquiet]
  have hseek := h.seek (ch.deviceRelative p) ch.device
  have hlabel := fun ch : Channel δ => label_onto h.mirrors ch
  have hplace : (ch.onto f).deviceRelative p = ch.deviceRelative p := rfl
  have hdevice : (ch.onto f).device = f ch.device := rfl
  have hcheck : (ch.onto f).checkOpen = ch.checkOpen := by
    simp only [checkOpen, hlabel]
    rfl
  simp only [seek, hcheck, hflush, hflush', hplace, hdevice, hseek]
  rcases ch.checkOpen with e | _
  · rfl
  rcases Transport.seek (ch.deviceRelative p) ch.device with ⟨e | n, d⟩
  · simp only [positionError, Prod.map_apply, hlabel]
    rfl
  · let moved : Channel δ :=
      if n = 0 then ({ ch with device := d } : Channel δ).seekReset.rearm
      else ({ ch with device := d } : Channel δ).seekReset
    have hmoved : (if n = 0 then ({ ch.onto f with device := f d } : Channel ε).seekReset.rearm
        else ({ ch.onto f with device := f d } : Channel ε).seekReset) = moved.onto f := by
      dsimp only [moved]
      split <;> rfl
    simp only [Prod.map_apply, id, hmoved, hlabel]
    rfl

omit h in
theorem tell_onto (h : Transport.Follows f) (ch : Channel δ) : (ch.onto f).tell = ch.tell := by
  have hlabel := label_onto h.mirrors ch
  have hdevice : (ch.onto f).device = f ch.device := rfl
  simp only [tell, checkOpen, positionError, hlabel, hdevice, h.tell]
  rfl

end Channel

end ScriptChannel
