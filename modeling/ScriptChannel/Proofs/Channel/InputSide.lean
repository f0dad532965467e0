import ScriptChannel.Proofs.Channel.Appending
import ScriptChannel.Proofs.Channel.Clear
import ScriptChannel.Proofs.Input.Tuning

/-!
# The input side under the calls of a channel

Most calls leave the input side alone. Reads go through it, settings are handed on to it, and a seek
makes it forget. So whatever holds of a side just built and is kept by these few holds of the input
side of a channel after any calls, whatever they answered.
-/

namespace ScriptChannel

/-- The settings that the stages of the input side hold. -/
def Settings.tuning (s : Settings) : Translation × Encoding × (Nat × Buffering × Bool) × UInt8 :=
  (s.inputTranslation, s.encoding, (s.bufferSize, s.buffering, s.blocking), s.inputMarker)

/-- Something about a device that only reading it and going elsewhere can change. -/
structure Transport.Inward {δ α : Type} [Transport δ] (f : δ → α) : Prop where
  write (bs : List UInt8) (d : δ) : f (RawWriter.write bs d).2 = f d
  flush (d : δ) : f (RawWriter.flush d).2 = f d
  sync (d : δ) : f (RawWriter.sync d).2 = f d
  openInput (d : δ) : f (Transport.openInput d).2 = f d
  openOutput (d : δ) : f (Transport.openOutput d).2 = f d

theorem Transport.inward_unit {δ : Type} [Transport δ] : Inward fun _ : δ => () :=
  ⟨fun _ _ => rfl, fun _ => rfl, fun _ => rfl, fun _ => rfl, fun _ => rfl⟩

namespace Output
variable {δ α : Type} [Transport δ] {f : δ → α} (h : Transport.Inward f)
include h

theorem inward_writeAll (bs : List UInt8) (d : δ) : f (writeAll bs d).2 = f d := by
  have hsome : ∀ s : List UInt8 × δ, f (writeSome s).2.2 = f s.2 := by
    rintro ⟨bs, d⟩
    have hwrite := h.write bs d
    simp only [writeSome]
    split
    · rfl
    · split <;> simp_all
  exact persist_unchanged Option.isNone _ writeSome (f := fun s => f s.2) hsome (bs, d)

theorem inward_flush (o : Output) (d : δ) : f (o.flush d).2.2 = f d := by
  have hall := inward_writeAll h o.buffer d
  simp only [flush, flushBuffer]
  split
  · exact h.flush d
  rcases hq : writeAll o.buffer d with ⟨e | _, d₁⟩
  · rw [hq] at hall
    exact hall
  rw [hq] at hall
  have hflush := h.flush d₁
  dsimp only at hall ⊢
  rcases hq : RawWriter.flush d₁ with ⟨e | _, d₂⟩
  · rw [hq] at hflush
    exact hflush.trans hall
  rw [hq] at hflush
  have hsync := h.sync d₂
  dsimp only at hflush ⊢
  split
  · exact hsync.trans (hflush.trans hall)
  · exact hflush.trans hall

theorem inward_write (p : Payload) (o : Output) (d : δ) : f (o.write p d).2.2 = f d := by
  simp only [write]
  split
  · exact inward_flush h _ d
  · rfl

theorem inward_close (o : Output) (d : δ) : f (o.close d).2.2 = f d := by
  simp only [close]
  split
  · rfl
  · exact inward_flush h _ d

end Output

namespace Channel
variable {δ α : Type}

/-- The second channel is the first but for its notes, its output side, and what writing changes of
the device. -/
structure Beside (f : δ → α) (ch ch' : Channel δ) : Prop where
  input : ch'.input = ch.input
  settings : ch'.settings = ch.settings
  mode : ch'.mode = ch.mode
  ended : ch'.ended = ch.ended
  device : f ch'.device = f ch.device

theorem Beside.refl (f : δ → α) (ch : Channel δ) : Beside f ch ch := ⟨rfl, rfl, rfl, rfl, rfl⟩

theorem Beside.trans {f : δ → α} {ch ch' ch'' : Channel δ} (h : Beside f ch ch')
    (h' : Beside f ch' ch'') : Beside f ch ch'' where
  input := h'.input.trans h.input
  settings := h'.settings.trans h.settings
  mode := h'.mode.trans h.mode
  ended := h'.ended.trans h.ended
  device := h'.device.trans h.device

variable [Transport δ]

/-- The channel with the output that waited handed over and the input side built, as a read goes
through it. -/
def prepared (ch : Channel δ) : Channel δ :=
  (if ch.mode.isWritable then ch.flushOutput else (.ok (), ch)).2.buildInput.2

section Inward
variable {f : δ → α} (h : Transport.Inward f)
include h

theorem beside_flushOutput (ch : Channel δ) : Beside f ch ch.flushOutput.2 := by
  unfold flushOutput
  split
  · exact .refl f ch
  · exact ⟨rfl, rfl, rfl, rfl, Output.inward_flush h _ _⟩

theorem beside_buildOutput (ch : Channel δ) : Beside f ch ch.buildOutput.2 := by
  have hopen := h.openOutput ch.device
  unfold buildOutput
  split
  · exact .refl f ch
  · rcases hd : Transport.openOutput ch.device with ⟨e | _, d⟩
    all_goals
      rw [hd] at hopen
      exact ⟨rfl, rfl, rfl, rfl, hopen⟩

theorem beside_flush (ch : Channel δ) : Beside f ch ch.flush.2 := by
  unfold Channel.flush
  split
  · exact .refl _ ch
  split
  · exact .refl _ ch
  · exact beside_flushOutput h ch

/-- Except in append mode a write goes nowhere else. -/
theorem beside_write (p : Payload) {ch : Channel δ} (ha : ch.mode.isAppend = false) :
    Beside f ch (ch.write p).2 := by
  unfold Channel.write
  split
  · exact .refl _ ch
  rw [ha]
  have hbuild := beside_buildOutput h ch
  simp only [Bool.false_eq_true, if_false]
  rcases hq : ch.buildOutput with ⟨e | o, ch'⟩
  · rw [hq] at hbuild
    exact hbuild
  · rw [hq] at hbuild
    exact hbuild.trans ⟨rfl, rfl, rfl, rfl, Output.inward_write h p o ch'.device⟩

/-- A built input side is the one there was, or the one that there would be. -/
theorem beside_buildInput (ch : Channel δ) :
    (∃ e, ch.buildInput.1 = .error e) ∧ Beside f ch ch.buildInput.2 ∨
      ch.buildInput.1 = .ok ch.chain ∧
        Beside f { ch with input := some ch.chain } ch.buildInput.2 := by
  have hopen := h.openInput ch.device
  unfold buildInput
  cases hi : ch.input with
  | some c =>
    refine .inr ⟨by simp [chain, hi], ?_, rfl, rfl, rfl, rfl⟩
    simp [chain, hi]
  | none =>
    rcases hd : Transport.openInput ch.device with ⟨e | _, d⟩
    · rw [hd] at hopen
      exact .inl ⟨⟨.io e, rfl⟩, hi.symm ▸ hi, rfl, rfl, rfl, hopen⟩
    · rw [hd] at hopen
      refine .inr ⟨by simp [chain, hi], ?_, rfl, rfl, rfl, hopen⟩
      simp [chain, hi, note]

/-- A read brings nothing, for a refusal or an end that was seen before, or it goes through the input
side. -/
theorem read_prepared (kind : ReadKind) (dst : Data) (ch : Channel δ) :
    ((∀ k, (read kind dst ch).1.status ≠ .ok (.data k)) ∧ (read kind dst ch).1.data = dst ∧
        Beside f ch (read kind dst ch).2) ∨
      ch.checkRead = .ok () ∧ ch.ended = false ∧
        Beside f { ch with input := some ch.chain } ch.prepared ∧
        ∃ j, read kind dst ch =
          let r := readThrough dst ch.chain ch.prepared (wanted kind)
          (r.1, { r.2 with journal := j }) := by
  unfold read prepared
  rcases ch.checkRead with e | _
  · exact .inl ⟨by simp, rfl, .refl f ch⟩
  dsimp only
  by_cases he : ch.ended = true
  · rw [if_pos he]
    exact .inl ⟨by simp, rfl, .refl f ch⟩
  rw [if_neg he]
  have hflush : Beside f ch (if ch.mode.isWritable then ch.flushOutput else (.ok (), ch)).2 := by
    split
    · exact beside_flushOutput h ch
    · exact .refl f ch
  generalize (if ch.mode.isWritable then ch.flushOutput else (.ok (), ch)) = q at hflush ⊢
  rcases q with ⟨e | _, ch₁⟩
  · exact .inl ⟨by simp, rfl, hflush⟩
  dsimp only at hflush ⊢
  have hchain : ch₁.chain = ch.chain := by rw [chain, chain, hflush.input, hflush.settings]
  rcases beside_buildInput h ch₁ with ⟨⟨e, hfailed⟩, hbuild⟩ | ⟨hbuilt, hbuild⟩
  · rcases hq : ch₁.buildInput with ⟨r, ch₂⟩
    rw [hq] at hfailed hbuild
    dsimp only at hfailed hbuild
    subst hfailed
    exact .inl ⟨by simp, rfl, hflush.trans hbuild⟩
  · rcases hq : ch₁.buildInput with ⟨r, ch₂⟩
    rw [hq] at hbuilt hbuild
    dsimp only at hbuilt hbuild
    subst hbuilt
    have hside : Beside f { ch with input := some ch.chain } ch₂ :=
      ⟨by rw [hbuild.input, hchain], hbuild.settings.trans hflush.settings,
        hbuild.mode.trans hflush.mode, hbuild.ended.trans hflush.ended,
        hbuild.device.trans hflush.device⟩
    refine .inr ⟨rfl, Bool.eq_false_iff.2 he, hside, ?_⟩
    rw [hchain]
    cases kind with
    | all | line | units n =>
      dsimp only
      split <;> exact ⟨_, rfl⟩

theorem read_cases (kind : ReadKind) (dst : Data) (ch : Channel δ) :
    (read kind dst ch).1.data = dst ∧ Beside f ch (read kind dst ch).2 ∨
      ch.ended = false ∧ ∃ ch' j, Beside f { ch with input := some ch.chain } ch' ∧
        read kind dst ch =
          let r := readThrough dst ch.chain ch' (wanted kind)
          (r.1, { r.2 with journal := j }) := by
  rcases read_prepared h kind dst ch with ⟨-, hdata, hb⟩ | ⟨-, he, hb, j, hread⟩
  · exact .inl ⟨hdata, hb⟩
  · exact .inr ⟨he, ch.prepared, j, hb, hread⟩

end Inward

omit [Transport δ] in
theorem beside_note (e : Event) (ch : Channel δ) : Beside (fun _ => ()) ch (ch.note e) :=
  ⟨rfl, rfl, rfl, rfl, rfl⟩

/-- The second channel is the first, or this with an input side that goes on from elsewhere. -/
inductive Sent (ch ch' : Channel δ) : Prop
  | nowhere (h : Beside (fun _ => ()) ch ch')
  | elsewhere (n : Nat)
    (h : Beside (fun _ => ()) { ch with input := ch.input.map (·.resumed n), ended := false } ch')

section Sent
variable {ch ch' ch'' : Channel δ}

omit [Transport δ] in
theorem Sent.beside (h : Sent ch ch') (hb : Beside (fun _ => ()) ch' ch'') : Sent ch ch'' := by
  cases h with
  | nowhere h => exact .nowhere (h.trans hb)
  | elsewhere n h => exact .elsewhere n (h.trans hb)

omit [Transport δ] in
theorem Sent.mode (h : Sent ch ch') : ch'.mode = ch.mode := by
  cases h with
  | nowhere h => exact h.mode
  | elsewhere n h => exact h.mode

omit [Transport δ] in
theorem Sent.settings (h : Sent ch ch') : ch'.settings = ch.settings := by
  cases h with
  | nowhere h => exact h.settings
  | elsewhere n h => exact h.settings

/-- A seek sends the input side elsewhere, or it fails and leaves it alone. -/
theorem sent_seek (p : Place) (ch : Channel δ) : Sent ch (ch.seek p).2 := by
  by_cases hc : ch.closed = true
  · have hrefused : (ch.seek p).2 = ch := by simp [seek, checkOpen, hc]
    rw [hrefused]
    exact .nowhere (.refl _ ch)
  rw [Bool.not_eq_true] at hc
  have hflush := beside_flushOutput Transport.inward_unit ch
  rcases hf : ch.flushOutput with ⟨e | _, ch₁⟩
  · have hfailed : (ch.seek p).2 = ch₁ := by simp [seek, checkOpen, hc, hf]
    rw [hfailed]
    rw [hf] at hflush
    exact .nowhere hflush
  rw [hf] at hflush
  rcases hd : Transport.seek (ch₁.deviceRelative p) ch₁.device with ⟨e | n, d⟩
  · rw [seek_eq_error hc hf hd]
    exact .nowhere (hflush.trans ⟨rfl, rfl, rfl, rfl, rfl⟩)
  · obtain ⟨j, hj⟩ := seek_eq hc hf hd
    rw [hj]
    have hinput : ch₁.input = ch.input := hflush.input
    refine .elsewhere n ⟨?_, hflush.settings, hflush.mode, rfl, rfl⟩
    rw [hinput]

theorem sent_seekToEnd (ch : Channel δ) : Sent ch ch.seekToEnd := by
  have hseek := sent_seek (.fromEnd 0) ch
  unfold seekToEnd
  rcases hq : ch.seek (.fromEnd 0) with ⟨e | _, ch₁⟩
  · rw [hq] at hseek
    exact hseek.beside (beside_note _ ch₁)
  · rw [hq] at hseek
    exact hseek

/-- In append mode a write goes to the end first. -/
theorem sent_write (p : Payload) (ch : Channel δ) : Sent ch (ch.write p).2 := by
  unfold Channel.write
  split
  · exact .nowhere (.refl _ ch)
  have haimed : Sent ch (if ch.mode.isAppend then ch.seekToEnd else ch) := by
    split
    · exact sent_seekToEnd ch
    · exact .nowhere (.refl _ ch)
  generalize (if ch.mode.isAppend then ch.seekToEnd else ch) = ch₁ at haimed ⊢
  have hbuild := haimed.beside (beside_buildOutput Transport.inward_unit ch₁)
  rcases hq : ch₁.buildOutput with ⟨e | o, ch₂⟩
  · rw [hq] at hbuild
    exact hbuild
  · rw [hq] at hbuild
    exact hbuild.beside ⟨rfl, rfl, rfl, rfl, rfl⟩

end Sent

/-- To close a channel takes its input side away, if it is not closed already. -/
theorem close_cases (ch : Channel δ) :
    ch.close.2 = ch ∨ Beside (fun _ => ()) { ch with input := none } ch.close.2 := by
  have hreleased : ∀ ch : Channel δ, Beside (fun _ => ()) { ch with input := none } ch.releaseInput := by
    intro ch
    obtain ⟨j, hj⟩ := ch.exists_releaseInput
    rw [hj]
    exact ⟨rfl, rfl, rfl, rfl, rfl⟩
  have hprepared : ∀ ch : Channel δ, Beside (fun _ => ()) ch ch.prepareMarker.2 := by
    intro ch
    unfold prepareMarker
    split
    · exact beside_buildOutput Transport.inward_unit ch
    · exact .refl _ ch
  have hwritten : ∀ ch : Channel δ, Beside (fun _ => ()) ch ch.releaseOutput.2 := by
    intro ch
    unfold releaseOutput
    split
    · exact .refl _ ch
    · exact ⟨rfl, rfl, rfl, rfl, rfl⟩
  by_cases hc : ch.closed = true
  · left
    simp [Channel.close, hc]
  · right
    simp only [Channel.close, hc, Bool.false_eq_true, if_false]
    have hall := ((hreleased { ch with closed := true }).trans (hprepared _)).trans (hwritten _)
    exact ⟨hall.input, hall.settings, hall.mode, hall.ended, rfl⟩

/-- A channel keeps the mode that it was opened in. -/
theorem mode_perform (op : Op) (ch : Channel δ) : (op.perform ch).mode = ch.mode := by
  by_cases hop : op.isSetting = true
  · exact (op.adjusted hop ch).steady.1
  cases op with
  | read kind dst =>
    simp only [Op.perform]
    rcases read_cases Transport.inward_unit kind dst ch with ⟨-, hb⟩ | ⟨-, ch', j, hb, hread⟩
    · exact hb.mode
    · obtain ⟨c, d, ended, hrenew⟩ := exists_renew_readThrough dst ch.chain ch' (wanted kind) j
      rw [hread]
      exact (congrArg Channel.mode hrenew).trans hb.mode
  | write p => exact (sent_write p ch).mode
  | flush => exact (beside_flush Transport.inward_unit ch).mode
  | seek p => exact (sent_seek p ch).mode
  | close =>
    simp only [Op.perform]
    rcases close_cases ch with hsame | hb
    · rw [hsame]
    · exact hb.mode
  | _ => exact absurd rfl hop

/-- What a read of a line leaves noted. -/
def endOfLine : Input.LineRead → Input.Chain → Bool
  | .ended, _ => true
  | .failed _, _ => false
  | _, c => c.lines.isEnded

/-- Something about the input side, with the settings and whether the end was seen, that holds at
first and is kept by all that is done to it. -/
structure Invariant (δ : Type) [Transport δ] (I : Settings → Bool → Input.Chain → Prop) : Prop where
  fresh (s : Settings) : I s false (newInput s)
  text {s : Settings} {c : Input.Chain} (h : I s false c) (he : s.encoding.isBinary = false) (n : Nat)
    (d : δ) : I s ((c.readText n d).1.2 = .ended) (c.readText n d).2.1
  bytes {s : Settings} {c : Input.Chain} (h : I s false c) (he : s.encoding.isBinary = true) (n : Nat)
    (d : δ) : I s ((c.readBytes n d).1.2 = .ended) (c.readBytes n d).2.1
  line {s : Settings} {c : Input.Chain} (h : I s false c) (d : δ) :
    let r := c.readLine s.blocking d
    I s (endOfLine r.1 r.2.1) r.2.1
  resumed {s : Settings} {ended : Bool} {c : Input.Chain} (h : I s ended c) (n : Nat) :
    I s false (c.resumed n)
  encoding {s : Settings} {ended : Bool} {c : Input.Chain} (h : I s ended c) (e : Encoding) :
    I { s with encoding := e } ended { c with decoding := c.decoding.setEncoding e }
  bufferSize {s : Settings} {ended : Bool} {c : Input.Chain} (h : I s ended c) (size : Nat) :
    I { s with bufferSize := size } ended { c with readAhead := { c.readAhead with size := size } }
  buffering {s : Settings} {ended : Bool} {c : Input.Chain} (h : I s ended c) (b : Buffering) :
    I { s with buffering := b } ended { c with readAhead := { c.readAhead with buffering := b } }
  blocking {s : Settings} {ended : Bool} {c : Input.Chain} (h : I s ended c) (b : Bool) :
    I { s with blocking := b } ended { c with readAhead := { c.readAhead with blocking := b } }
  translation {s : Settings} {ended : Bool} {c : Input.Chain} (h : I s ended c) (t : Translation) :
    I { s with inputTranslation := t } ended { c with lines := c.lines.setTranslation t }
  marker {s : Settings} {ended : Bool} {c : Input.Chain} (h : I s ended c) (m : UInt8) :
    I { s with inputMarker := m } false (c.rescan s.encoding m)
  output {s : Settings} {ended : Bool} {c : Input.Chain} (h : I s ended c) (t : Translation)
    (m : UInt8) : I { s with outputTranslation := t, outputMarker := m } ended c

/-- The input side, if it is built, is as it should be. -/
def Upholds (I : Settings → Bool → Input.Chain → Prop) (ch : Channel δ) : Prop :=
  ∀ c, ch.input = some c → I ch.settings ch.ended c

section Upholds
variable {I : Settings → Bool → Input.Chain → Prop} {ch ch' : Channel δ}

omit [Transport δ] in
theorem Beside.upholds {f : δ → α} (hb : Beside f ch ch') (h : ch.Upholds I) : ch'.Upholds I := by
  intro c hc
  rw [hb.settings, hb.ended]
  exact h c (hb.input ▸ hc)

omit [Transport δ] in
theorem Upholds.opened (d : δ) (m : OpenMode) (s : Settings) : (opened d m s).Upholds I := by
  intro c hc
  cases hc

variable (hI : Invariant δ I)
include hI

theorem Upholds.chain (h : ch.Upholds I) (he : ch.ended = false) : I ch.settings false ch.chain := by
  cases hi : ch.input with
  | none =>
    simp only [Channel.chain, hi, Option.getD_none]
    exact hI.fresh ch.settings
  | some c =>
    have hc := h c hi
    rw [he] at hc
    simpa only [Channel.chain, hi, Option.getD_some] using hc

theorem Upholds.readThrough {c : Input.Chain} (h : I ch.settings false c) (he : ch.ended = false)
    (n : Option Nat) (dst : Data) : (readThrough dst c ch n).2.Upholds I := by
  intro c' hc
  cases n with
  | some n =>
    simp only [Channel.readThrough, readUnits] at hc ⊢
    split at hc
    · rename_i hb
      obtain rfl := Option.some.inj hc
      simpa only [hb, if_true, he, Bool.false_or] using hI.bytes h hb n ch.device
    · rename_i hb
      obtain rfl := Option.some.inj hc
      rw [if_neg hb]
      simpa only [he, Bool.false_or] using hI.text h (Bool.eq_false_iff.2 hb) n ch.device
  | none =>
    have hline := hI.line h ch.device
    simp only [Channel.readThrough, readLine] at hc ⊢
    generalize c.readLine ch.settings.blocking ch.device = q at hline hc ⊢
    obtain ⟨l, c', d⟩ := q
    cases l with
    | line | blocked | ended =>
      obtain rfl := Option.some.inj hc
      exact hline
    | failed e =>
      obtain rfl := Option.some.inj hc
      dsimp only
      rw [he]
      exact hline

theorem Upholds.sent (h : ch.Upholds I) (hs : Sent ch ch') : ch'.Upholds I := by
  cases hs with
  | nowhere hb => exact hb.upholds h
  | elsewhere n hb =>
    refine hb.upholds fun c hc => ?_
    obtain ⟨c', hc', rfl⟩ := Option.map_eq_some_iff.1 hc
    exact hI.resumed (h c' hc') n

omit [Transport δ] in
omit hI in
/-- A setting that is handed on. -/
theorem Upholds.configure (h : ch.Upholds I) {s : Settings → Settings} {f : Input.Chain → Input.Chain}
    (g : Output → Output)
    (hf : ∀ c, I ch.settings ch.ended c → I (s ch.settings) ch.ended (f c)) :
    (ch.configure s f g).Upholds I := by
  intro c hc
  obtain ⟨c', hc', rfl⟩ := Option.map_eq_some_iff.1 hc
  exact hf c' (h c' hc')

theorem Upholds.adjusted {op : Op} (h : ch.Upholds I) (hset : Adjusted ch op ch') :
    ch'.Upholds I := by
  cases hset with
  | ignored => exact h
  | encoding e => exact h.configure _ fun _ hc => hI.encoding hc e
  | bufferSize size => exact h.configure _ fun _ hc => hI.bufferSize hc size
  | buffering b => exact h.configure _ fun _ hc => hI.buffering hc b
  | blocking b => exact h.configure _ fun _ hc => hI.blocking hc b
  | inputTranslation t => exact h.configure _ fun _ hc => hI.translation hc t
  | outputTranslation t => exact h.configure _ fun _ hc => hI.output hc t ch.settings.outputMarker
  | inputMarker m _ =>
    intro c hc
    obtain ⟨c', hc', rfl⟩ := Option.map_eq_some_iff.1 hc
    exact hI.marker (h c' hc') m
  | outputMarker m => exact h.configure _ fun _ hc => hI.output hc ch.settings.outputTranslation m

/-- No call breaks it. -/
theorem Upholds.perform (h : ch.Upholds I) (op : Op) : (op.perform ch).Upholds I := by
  by_cases hop : op.isSetting = true
  · exact h.adjusted hI (op.adjusted hop ch)
  cases op with
  | read kind dst =>
    simp only [Op.perform]
    rcases read_cases Transport.inward_unit kind dst ch with ⟨-, hb⟩ | ⟨he, ch', j, hb, hread⟩
    · exact hb.upholds h
    · rw [hread]
      refine Upholds.readThrough hI ?_ (hb.ended.trans he) (wanted kind) dst
      rw [hb.settings]
      exact h.chain hI he
  | write p => exact h.sent hI (sent_write p ch)
  | flush => exact (beside_flush Transport.inward_unit ch).upholds h
  | seek p => exact h.sent hI (sent_seek p ch)
  | close =>
    simp only [Op.perform]
    rcases close_cases ch with hsame | hb
    · rw [hsame]
      exact h
    · refine hb.upholds fun c hc => ?_
      cases hc
  | _ => exact absurd rfl hop

/-- So it holds after any calls. -/
theorem Upholds.after (h : ch.Upholds I) (ops : List Op) : (after ops ch).Upholds I := by
  induction ops generalizing ch with
  | nil => exact h
  | cons op ops ih => exact ih (h.perform hI op)

end Upholds

/-- The stages are set to what the channel is set to. -/
theorem tuned_invariant : Invariant δ fun s _ c => c.tuning = s.tuning where
  fresh _ := rfl
  text h _ n d := (Input.Chain.tuning_readText n d).trans h
  bytes h _ n d := (Input.Chain.tuning_readBytes n d).trans h
  line {s _} h d := (Input.Chain.tuning_readLine s.blocking d).trans h
  resumed {_ _ c} h n := by
    rw [← h]
    unfold Input.Chain.resumed
    split <;> rfl
  encoding h e := by
    simp only [Input.Chain.tuning, Settings.tuning, Prod.mk.injEq] at h ⊢
    exact ⟨h.1, rfl, h.2.2⟩
  bufferSize h size := by
    simp only [Input.Chain.tuning, Input.ReadAhead.tuning, Settings.tuning, Prod.mk.injEq] at h ⊢
    exact ⟨h.1, h.2.1, ⟨trivial, h.2.2.1.2⟩, h.2.2.2⟩
  buffering h b := by
    simp only [Input.Chain.tuning, Input.ReadAhead.tuning, Settings.tuning, Prod.mk.injEq] at h ⊢
    exact ⟨h.1, h.2.1, ⟨h.2.2.1.1, trivial, h.2.2.1.2.2⟩, h.2.2.2⟩
  blocking h b := by
    simp only [Input.Chain.tuning, Input.ReadAhead.tuning, Settings.tuning, Prod.mk.injEq] at h ⊢
    exact ⟨h.1, h.2.1, ⟨h.2.2.1.1, h.2.2.1.2.1, trivial⟩, h.2.2.2⟩
  translation h t := by
    simp only [Input.Chain.tuning, Settings.tuning, Prod.mk.injEq] at h ⊢
    exact ⟨rfl, h.2⟩
  marker {_ _ c} h m := by
    simp only [Input.Chain.tuning, Settings.tuning, Prod.mk.injEq] at h ⊢
    refine ⟨h.1, ?_, h.2.2.1, rfl⟩
    rw [← h.2.1]
    simp only [Input.Chain.rescan, Input.Decoding.cancelEnd]
    split <;> rfl
  output h _ _ := h

end Channel

end ScriptChannel
