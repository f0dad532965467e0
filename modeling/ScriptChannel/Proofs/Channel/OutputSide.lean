import ScriptChannel.Proofs.Channel.InputSide
import ScriptChannel.Proofs.Output.Delivery

/-!
# The output side under the calls of a channel

Reads, flushes and seeks do nothing to the output side but send off what waits there. A write encodes
into it, settings are handed on to it, and closing takes it down. So whatever holds of an output side
just built and is kept by these few holds after any calls, whatever they answered.
-/

namespace ScriptChannel

namespace Channel
variable {δ : Type}

/-- The second channel is set as the first is, and has its output side, with or without what waits
there. -/
structure Spares (ch ch' : Channel δ) : Prop where
  settings : ch'.settings = ch.settings
  mode : ch'.mode = ch.mode
  closed : ch'.closed = ch.closed
  output : ch'.output = ch.output ∨ ch'.output = ch.output.map Output.emptied

theorem Spares.refl (ch : Channel δ) : Spares ch ch := ⟨rfl, rfl, rfl, .inl rfl⟩

theorem Spares.trans {ch ch' ch'' : Channel δ} (h : Spares ch ch') (h' : Spares ch' ch'') :
    Spares ch ch'' where
  settings := h'.settings.trans h.settings
  mode := h'.mode.trans h.mode
  closed := h'.closed.trans h.closed
  output := by
    rcases h.output with h | h <;> rcases h'.output with h' | h' <;> rw [h', h]
    · exact .inl rfl
    · exact .inr rfl
    · exact .inr rfl
    · exact .inr (by rw [Option.map_map]; rfl)

theorem spares_note (e : Event) (ch : Channel δ) : Spares ch (ch.note e) :=
  ⟨rfl, rfl, rfl, .inl rfl⟩

variable [Transport δ]

section Steps
variable {P : Channel δ → Prop} {ch : Channel δ}

/-- What holds of the steps of a read holds of the read. -/
theorem of_read (h : P ch) (hflush : ∀ ch, P ch → P ch.flushOutput.2)
    (hbuild : ∀ ch, P ch → P ch.buildInput.2)
    (hread : ∀ ch c n dst j, P ch → ch.input = some c →
      P { (readThrough dst c ch n).2 with journal := j }) (kind : ReadKind) (dst : Data) :
    P (read kind dst ch).2 := by
  unfold read
  rcases ch.checkRead with e | _
  · exact h
  dsimp only
  split
  · exact h
  have hflushed : P (if ch.mode.isWritable then ch.flushOutput else (.ok (), ch)).2 := by
    split
    · exact hflush ch h
    · exact h
  generalize (if ch.mode.isWritable then ch.flushOutput else (.ok (), ch)) = q at hflushed ⊢
  rcases q with ⟨e | _, ch₁⟩
  · exact hflushed
  have hbuilt := hbuild ch₁ hflushed
  dsimp only
  have hinput : ∀ c, ch₁.buildInput.1 = .ok c → ch₁.buildInput.2.input = some c := by
    intro c hc
    rcases beside_buildInput Transport.inward_unit ch₁ with ⟨⟨e, he⟩, -⟩ | ⟨hok, hb⟩
    · cases he.symm.trans hc
    · rw [hb.input, Except.ok.inj (hok.symm.trans hc)]
  rcases hq : ch₁.buildInput with ⟨e | c, ch₂⟩
  all_goals rw [hq] at hbuilt hinput
  · exact hbuilt
  have hthrough := fun j => hread ch₂ c (wanted kind) dst j hbuilt (hinput c rfl)
  cases kind with
  | line | all | units n =>
    dsimp only
    split <;> exact hthrough _

/-- What holds of the steps of a seek holds of the seek. -/
theorem of_seek (h : P ch) (hflush : ∀ ch, P ch → P ch.flushOutput.2)
    (hseek : ∀ ch p f ended j, P ch →
      P { ch with device := (Transport.seek p ch.device).2, input := ch.input.map f, ended := ended,
                  journal := j }) (p : Place) : P (ch.seek p).2 := by
  by_cases hc : ch.closed = true
  · have hrefused : (ch.seek p).2 = ch := by simp [seek, checkOpen, hc]
    rw [hrefused]
    exact h
  rw [Bool.not_eq_true] at hc
  have hflushed := hflush ch h
  rcases hf : ch.flushOutput with ⟨e | _, ch₁⟩
  all_goals rw [hf] at hflushed
  · have hfailed : (ch.seek p).2 = ch₁ := by simp [seek, checkOpen, hc, hf]
    rw [hfailed]
    exact hflushed
  have hmoved := fun f ended j => hseek ch₁ (ch₁.deviceRelative p) f ended j hflushed
  rcases hd : Transport.seek (ch₁.deviceRelative p) ch₁.device with ⟨e | n, d⟩
  all_goals rw [hd] at hmoved
  · rw [seek_eq_error hc hf hd]
    have hsame : ch₁.input = ch₁.input.map id := by simp
    have hstays := hmoved id ch₁.ended ch₁.journal
    rw [← hsame] at hstays
    exact hstays
  · obtain ⟨j, hj⟩ := seek_eq hc hf hd
    rw [hj]
    exact hmoved _ _ j

theorem of_seekToEnd (h : P ch) (hnote : ∀ ch e, P ch → P (ch.note e))
    (hseek : ∀ p ch, P ch → P (Channel.seek p ch).2) : P ch.seekToEnd := by
  have hend := hseek (.fromEnd 0) ch h
  unfold seekToEnd
  rcases hq : ch.seek (.fromEnd 0) with ⟨e | n, ch₁⟩
  all_goals rw [hq] at hend
  · exact hnote _ _ hend
  · exact hend

/-- A write goes through the output side that it builds. -/
theorem output_buildOutput {o : Output} (h : ch.buildOutput.1 = .ok o) :
    ch.buildOutput.2.output = some o := by
  unfold buildOutput at h ⊢
  cases ho : ch.output with
  | some o' =>
    rw [ho] at h
    exact ho.trans (congrArg some (Except.ok.inj h))
  | none =>
    rw [ho] at h
    dsimp only at h ⊢
    rcases hd : Transport.openOutput ch.device with ⟨e | _, d⟩
    all_goals rw [hd] at h
    · cases h
    · exact congrArg some (Except.ok.inj h)

/-- What holds of the steps of a write holds of the write. -/
theorem of_write (p : Payload) (h : P ch) (hend : ∀ ch, P ch → P ch.seekToEnd)
    (hbuild : ∀ ch, P ch → P ch.buildOutput.2)
    (hwrite : ∀ ch o, P ch → ch.output = some o → P (ch.runOutput (Output.write p) o).2) :
    P (ch.write p).2 := by
  unfold Channel.write
  split
  · exact h
  have haimed : P (if ch.mode.isAppend then ch.seekToEnd else ch) := by
    split
    · exact hend ch h
    · exact h
  generalize (if ch.mode.isAppend then ch.seekToEnd else ch) = ch₁ at haimed ⊢
  have hbuilt := hbuild ch₁ haimed
  have houtput : ∀ o, ch₁.buildOutput.1 = .ok o → ch₁.buildOutput.2.output = some o :=
    fun _ => output_buildOutput
  rcases hq : ch₁.buildOutput with ⟨e | o, ch₂⟩
  all_goals rw [hq] at hbuilt houtput
  · exact hbuilt
  · exact hwrite ch₂ o hbuilt (houtput o rfl)

/-- What holds of the steps of a close holds of the close. -/
theorem of_close (h : ch.closed = true → P ch)
    (hstart : ∀ j, P { ch with closed := true, input := none, journal := j })
    (hbuild : ∀ ch, P ch → P ch.buildOutput.2) (hrelease : ∀ ch, P ch → P ch.releaseOutput.2)
    (hdevice : ∀ ch, P ch → P ch.closeDevice.2) : P ch.close.2 := by
  unfold close
  split
  · exact h ‹_›
  have hreleased : P ({ ch with closed := true } : Channel δ).releaseInput := by
    obtain ⟨j, hj⟩ := exists_releaseInput ({ ch with closed := true } : Channel δ)
    rw [hj]
    exact hstart j
  have hprepared : P ({ ch with closed := true } : Channel δ).releaseInput.prepareMarker.2 := by
    unfold prepareMarker
    split
    · exact hbuild _ hreleased
    · exact hreleased
  exact hdevice _ (hrelease _ hprepared)

end Steps

theorem spares_flushOutput (ch : Channel δ) : Spares ch ch.flushOutput.2 := by
  unfold flushOutput
  cases ho : ch.output with
  | none => exact .refl ch
  | some o =>
    refine ⟨rfl, rfl, rfl, ?_⟩
    rw [ho]
    rcases o.flush_cases ch.device with h | h <;> simp [h]

theorem spares_read (kind : ReadKind) (dst : Data) (ch : Channel δ) :
    Spares ch (read kind dst ch).2 := by
  refine of_read (P := Spares ch) (.refl ch) (fun ch' h => h.trans (spares_flushOutput ch'))
    (fun ch' h => h.trans ?_) (fun ch' c n dst j h _ => h.trans ?_) kind dst
  · unfold buildInput
    split
    · exact .refl ch'
    · split <;> exact ⟨rfl, rfl, rfl, .inl rfl⟩
  · obtain ⟨c', d, ended, hrenew⟩ := exists_renew_readThrough dst c ch' n j
    rw [hrenew]
    exact ⟨rfl, rfl, rfl, .inl rfl⟩

theorem spares_seek (p : Place) (ch : Channel δ) : Spares ch (ch.seek p).2 :=
  of_seek (P := Spares ch) (.refl ch) (fun ch' h => h.trans (spares_flushOutput ch'))
    (fun _ _ _ _ _ h => h.trans ⟨rfl, rfl, rfl, .inl rfl⟩) p

theorem spares_seekToEnd (ch : Channel δ) : Spares ch ch.seekToEnd :=
  of_seekToEnd (P := Spares ch) (.refl ch) (fun ch' e h => h.trans (spares_note e ch'))
    fun p ch' h => h.trans (spares_seek p ch')

theorem spares_flush (ch : Channel δ) : Spares ch ch.flush.2 := by
  unfold flush
  split
  · exact .refl ch
  · split
    · exact .refl ch
    · exact spares_flushOutput ch

/-- Something about the output side, with the settings, that holds at first and is kept by all that is
done to it. -/
structure OutputInvariant (J : Settings → Output → Prop) : Prop where
  fresh (s : Settings) (sync : Bool) : J s (newOutput s sync)
  encode {s : Settings} {o : Output} (h : J s o) (cs : List Char) : J s (o.encode cs)
  emptied {s : Settings} {o : Output} (h : J s o) : J s o.emptied
  encoding {s : Settings} {o : Output} (h : J s o) (e : Encoding) :
    J { s with encoding := e } (o.setEncoding e)
  bufferSize {s : Settings} {o : Output} (h : J s o) (size : Nat) :
    J { s with bufferSize := size } { o with size := size }
  buffering {s : Settings} {o : Output} (h : J s o) (b : Buffering) :
    J { s with buffering := b } { o with buffering := b }
  blocking {s : Settings} {o : Output} (h : J s o) (b : Bool) :
    J { s with blocking := b } { o with blocking := b }
  translation {s : Settings} {o : Output} (h : J s o) (t : Translation) :
    J { s with outputTranslation := t } { o with translation := t }
  marker {s : Settings} {o : Output} (h : J s o) (m : UInt8) :
    J { s with outputMarker := m } { o with marker := m }
  input {s : Settings} {o : Output} (h : J s o) (t : Translation) (m : UInt8) :
    J { s with inputTranslation := t, inputMarker := m } o

/-- The output side, if it is built, is as it should be. -/
def Maintains (J : Settings → Output → Prop) (ch : Channel δ) : Prop :=
  ∀ o, ch.output = some o → J ch.settings o

section Maintains
variable {J : Settings → Output → Prop} {ch ch' : Channel δ}

omit [Transport δ] in
theorem Maintains.init (d : δ) (m : OpenMode) : (init d m).Maintains J := by
  intro o ho
  cases ho

omit [Transport δ] in
/-- A setting that is handed on. -/
theorem Maintains.configure (h : ch.Maintains J) {s : Settings → Settings} {g : Output → Output}
    (f : Input.Chain → Input.Chain) (hg : ∀ o, J ch.settings o → J (s ch.settings) (g o)) :
    (ch.configure s f g).Maintains J := by
  intro o ho
  obtain ⟨o', ho', rfl⟩ := Option.map_eq_some_iff.1 ho
  exact hg o' (h o' ho')

variable (hJ : OutputInvariant J)
include hJ

omit [Transport δ] in
theorem Spares.maintains (hs : Spares ch ch') (h : ch.Maintains J) : ch'.Maintains J := by
  intro o ho
  rw [hs.settings]
  rcases hs.output with hsame | hempty
  · exact h o (hsame ▸ ho)
  · rw [hempty] at ho
    obtain ⟨o', ho', rfl⟩ := Option.map_eq_some_iff.1 ho
    exact hJ.emptied (h o' ho')

theorem Maintains.buildOutput (h : ch.Maintains J) : ch.buildOutput.2.Maintains J := by
  unfold Channel.buildOutput
  split
  · exact h
  · split
    · exact fun o ho => h o ho
    · intro o ho
      obtain rfl := Option.some.inj ho
      exact hJ.fresh _ _

theorem Maintains.write (h : ch.Maintains J) (p : Payload) : (ch.write p).2.Maintains J := by
  refine of_write (P := Maintains J) p h (fun ch h => (spares_seekToEnd ch).maintains hJ h)
    (fun _ h => h.buildOutput hJ) fun ch o h ho o' ho' => ?_
  obtain rfl := Option.some.inj ho'
  rcases Output.write_cases p o ch.device with hw | hw <;> rw [hw]
  · exact hJ.encode (h o ho) _
  · exact hJ.emptied (hJ.encode (h o ho) _)

omit hJ in
/-- Closing takes the output side down. -/
theorem output_close (hc : ch.closed = false) : ch.close.2.output = none := by
  have hreleased : ∀ ch : Channel δ, ch.releaseOutput.2.output = none := by
    intro ch
    unfold releaseOutput
    split
    · assumption
    · rfl
  simp only [close, hc, Bool.false_eq_true, if_false]
  exact hreleased _

omit [Transport δ] in
theorem Maintains.adjusted {op : Op} (h : ch.Maintains J) (hset : Adjusted ch op ch') :
    ch'.Maintains J := by
  cases hset with
  | ignored => exact h
  | encoding e => exact h.configure _ fun _ ho => hJ.encoding ho e
  | bufferSize size => exact h.configure _ fun _ ho => hJ.bufferSize ho size
  | buffering b => exact h.configure _ fun _ ho => hJ.buffering ho b
  | blocking b => exact h.configure _ fun _ ho => hJ.blocking ho b
  | inputTranslation t => exact h.configure _ fun _ ho => hJ.input ho t ch.settings.inputMarker
  | outputTranslation t => exact h.configure _ fun _ ho => hJ.translation ho t
  | inputMarker m _ =>
    intro o ho
    obtain ⟨o', ho', rfl⟩ := Option.map_eq_some_iff.1 ho
    exact hJ.input (h o' ho') ch.settings.inputTranslation m
  | outputMarker m => exact h.configure _ fun _ ho => hJ.marker ho m

/-- No call breaks it. -/
theorem Maintains.perform (h : ch.Maintains J) (op : Op) : (op.perform ch).Maintains J := by
  by_cases hop : op.isSetting = true
  · exact h.adjusted hJ (op.adjusted hop ch)
  cases op with
  | read kind dst => exact (spares_read kind dst ch).maintains hJ h
  | write p => exact h.write hJ p
  | flush => exact (spares_flush ch).maintains hJ h
  | seek p => exact (spares_seek p ch).maintains hJ h
  | close =>
    by_cases hc : ch.closed = true
    · have hrefused : ch.close.2 = ch := by simp [Channel.close, hc]
      rw [Op.perform, hrefused]
      exact h
    · intro o ho
      rw [Op.perform, output_close (Bool.eq_false_iff.2 hc)] at ho
      cases ho
  | _ => exact absurd rfl hop

/-- So it holds after any calls. -/
theorem Maintains.after (h : ch.Maintains J) (ops : List Op) : (after ops ch).Maintains J := by
  induction ops generalizing ch with
  | nil => exact h
  | cons op ops ih => exact ih (h.perform hJ op)

end Maintains

section Writable
variable {ch ch' : Channel δ}

omit [Transport δ] in
theorem Spares.isSome_output (hs : Spares ch ch') : ch'.output.isSome = ch.output.isSome := by
  rcases hs.output with h | h <;> simp [h]

omit [Transport δ] in
theorem Adjusted.isSome_output {op : Op} (hset : Adjusted ch op ch') :
    ch'.output.isSome = ch.output.isSome := by
  cases hset <;> simp [setEncodingTo, configure, setBuffering, setBlocking]

/-- A call gives no output side to a channel that is not to be written to. -/
theorem isWritable_perform (h : ch.output.isSome = true → ch.mode.isWritable = true) (op : Op)
    (ho : (op.perform ch).output.isSome = true) : (op.perform ch).mode.isWritable = true := by
  rw [mode_perform]
  by_cases hop : op.isSetting = true
  · exact h ((op.adjusted hop ch).isSome_output ▸ ho)
  cases op with
  | read kind dst => exact h ((spares_read kind dst ch).isSome_output ▸ ho)
  | flush => exact h ((spares_flush ch).isSome_output ▸ ho)
  | seek p => exact h ((spares_seek p ch).isSome_output ▸ ho)
  | write p =>
    by_cases hw : ch.mode.isWritable = true
    · exact hw
    · have hrefused : (ch.write p).2 = ch := by
        by_cases hc : ch.closed = true <;> simp [Channel.write, checkWrite, hc, hw]
      rw [Op.perform, hrefused] at ho
      exact h ho
  | close =>
    by_cases hc : ch.closed = true
    · have hrefused : ch.close.2 = ch := by simp [Channel.close, hc]
      rw [Op.perform, hrefused] at ho
      exact h ho
    · rw [Op.perform, output_close (Bool.eq_false_iff.2 hc)] at ho
      cases ho
  | _ => exact absurd rfl hop

/-- Only a channel opened for writing ever has an output side. -/
theorem isWritable_of_output {d : δ} {m : OpenMode} {ops : List Op}
    (ho : (after ops (init d m)).output.isSome = true) :
    (after ops (init d m)).mode.isWritable = true := by
  have hrun : ∀ (ops : List Op) (ch : Channel δ),
      (ch.output.isSome = true → ch.mode.isWritable = true) →
        (after ops ch).output.isSome = true → (after ops ch).mode.isWritable = true := by
    intro ops
    induction ops with
    | nil => exact fun _ h => h
    | cons op ops ih => exact fun ch h => ih _ (isWritable_perform h op)
  exact hrun ops _ nofun ho

end Writable

end Channel

end ScriptChannel
