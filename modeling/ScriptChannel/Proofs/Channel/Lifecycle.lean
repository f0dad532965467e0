import ScriptChannel.Proofs.Channel.Agreement
import ScriptChannel.Proofs.Output.Answers

/-!
# From opening to closing

Each side of a device is opened at most once, when it is first needed. The device is closed once, by
the first close, after everything else and whatever failed before; the channel asks nothing of it any
more then. The first close answers the first failure among its calls. The end marker is put behind all
that was written, and there is one of it.
-/

namespace ScriptChannel.Channel
open Transport

section Ink
variable {δ : Type} [Transport δ]

/-- The bytes that a call puts down on the output side: a text that is not refused, in the encoding and
with the newlines of its time, and what ends an encoding. -/
def Op.ink : Op → Channel δ → List UInt8
  | write p, ch =>
    match ch.checkWrite, ch.aimed.buildOutput.1 with
    | .ok (), .ok o =>
      (o.encoder.feed Encoding.questionMark (Output.translate o.translation p.chars)).1
    | _, _ => []
  | setEncoding name, ch =>
    match (ch.setEncoding name).1 with
    | .ok () => ch.tail
    | .error _ => []
  | _, _ => []

/-- What some calls put down. -/
def inked : List Op → Channel δ → List UInt8
  | [], _ => []
  | op :: ops, ch => op.ink ch ++ inked ops (op.perform ch)

end Ink

section Closed
variable {δ : Type} [Transport δ] {ch : Channel δ}

/-- No call changes a device that was closed. -/
theorem closed_perform (h : ch.closed = true) (op : Op) :
    (op.perform ch).device = ch.device ∧ (op.perform ch).closed = true := by
  by_cases hop : op.isSetting = true
  · obtain ⟨-, hclosed, hdevice⟩ := (op.adjusted hop ch).steady
    exact ⟨hdevice, hclosed.trans h⟩
  cases op with
  | read kind dst => simp [Op.perform, Channel.read, checkRead, h]
  | write p => simp [Op.perform, Channel.write, checkWrite, h]
  | flush => simp [Op.perform, Channel.flush, checkOpen, h]
  | seek p => simp [Op.perform, Channel.seek, checkOpen, h]
  | close => simp [Op.perform, Channel.close, h]
  | _ => exact absurd rfl hop

theorem closed_after (h : ch.closed = true) (later : List Op) :
    (after later ch).device = ch.device ∧ (after later ch).closed = true := by
  induction later generalizing ch with
  | nil => exact ⟨rfl, h⟩
  | cons op later ih =>
    obtain ⟨hdevice, hclosed⟩ := closed_perform h op
    obtain ⟨hdevice', hclosed'⟩ := ih hclosed
    exact ⟨hdevice'.trans hdevice, hclosed'⟩

theorem closed_close (ch : Channel δ) : ch.close.2.closed = true := by
  refine of_close (P := fun ch => ch.closed = true) id (fun _ => rfl) (fun ch h => ?_)
    (fun ch h => ?_) fun _ h => h
  · unfold Channel.buildOutput
    split
    · exact h
    · split <;> exact h
  · unfold releaseOutput
    split <;> exact h

end Closed

variable {δ : Type}

/-- The bytes handed over, and behind them those that wait. -/
def traced (ch : Channel (Recorded δ)) : List UInt8 := received ch.device.log ++ ch.waiting

/-- A channel that was not closed: the record has a side opened just if it is there. -/
structure Live (ch : Channel (Recorded δ)) : Prop where
  running : ch.closed = false
  unclosed : ∀ e ∈ ch.device.log, e.isClose = false
  inputs : ch.device.log.countP Entry.opensInput = ch.input.isSome.toNat
  outputs : ch.device.log.countP Entry.opensOutput = ch.output.isSome.toNat

/-- The second channel is the first after calls to sides that are open. Nothing was put down. -/
structure Carries [RawWriter δ] (ch ch' : Channel (Recorded δ)) : Prop where
  closed : ch'.closed = ch.closed
  input : ch'.input.isSome = ch.input.isSome
  output : ch'.output.isSome = ch.output.isSome
  called : Recorded.Called (·.isPlain = true) ch.device ch'.device
  traced : Output.Accepts δ → ch'.traced = ch.traced

theorem Carries.trans [RawWriter δ] {ch ch' ch'' : Channel (Recorded δ)} (h : Carries ch ch')
    (h' : Carries ch' ch'') : Carries ch ch'' where
  closed := h'.closed.trans h.closed
  input := h'.input.trans h.input
  output := h'.output.trans h.output
  called := h.called.trans h'.called
  traced ha := (h'.traced ha).trans (h.traced ha)

theorem Carries.refl [RawWriter δ] (ch : Channel (Recorded δ)) : Carries ch ch :=
  ⟨rfl, rfl, rfl, .refl _ _, fun _ => rfl⟩

theorem Live.called {ch ch' : Channel (Recorded δ)} (h : ch.Live)
    (hcalled : Recorded.Called (·.isPlain = true) ch.device ch'.device)
    (hclosed : ch'.closed = ch.closed) (hinput : ch'.input.isSome = ch.input.isSome)
    (houtput : ch'.output.isSome = ch.output.isSome) : ch'.Live := by
  obtain ⟨calls, hlog, hall⟩ := hcalled
  have hplain : ∀ {P : Entry → Bool}, (∀ e, e.isPlain = true → P e = false) →
      calls.countP P = 0 := fun hP =>
    List.countP_eq_zero.2 fun e he => by simp [hP e (hall e he)]
  refine ⟨hclosed.trans h.running, ?_, ?_, ?_⟩
  · rw [hlog]
    intro e he
    rcases List.mem_append.1 he with hold | hnew
    · exact h.unclosed e hold
    · have := hall e hnew
      cases e <;> simp_all [Entry.isPlain, Entry.isClose]
  · rw [hlog, List.countP_append, h.inputs, hinput,
      hplain fun e he => by cases e <;> simp_all [Entry.isPlain, Entry.opensInput], Nat.add_zero]
  · rw [hlog, List.countP_append, h.outputs, houtput,
      hplain fun e he => by cases e <;> simp_all [Entry.isPlain, Entry.opensOutput], Nat.add_zero]

/-- A channel that was not closed, and the bytes put down on it over a sink that accepts them. -/
def Keeps [RawWriter δ] (bs : List UInt8) (ch : Channel (Recorded δ)) : Prop :=
  ch.Live ∧ (Output.Accepts δ → ch.traced = bs)

variable [Transport δ] {bs : List UInt8} {ch ch' : Channel (Recorded δ)}

theorem Keeps.carries (h : ch.Keeps bs) (hc : Carries ch ch') : ch'.Keeps bs :=
  ⟨h.1.called hc.called hc.closed hc.input hc.output, fun ha => (hc.traced ha).trans (h.2 ha)⟩

omit [Transport δ] in
/-- Calls that hand nothing over. -/
theorem received_of_called {d d' : Recorded δ} (h : Recorded.Called (·.accepted = []) d d') :
    received d'.log = received d.log := by
  obtain ⟨calls, hlog, hall⟩ := h
  rw [hlog, received_append, List.append_right_eq_self]
  exact List.flatMap_eq_nil_iff.2 hall

theorem carries_note (e : Event) (ch : Channel (Recorded δ)) : Carries ch (ch.note e) :=
  ⟨rfl, rfl, rfl, .refl _ _, fun _ => rfl⟩

theorem carries_readThrough {c : Input.Chain} (hc : ch.input = some c) (n : Option Nat) (dst : Data)
    (j : List Event) : Carries ch { (readThrough dst c ch n).2 with journal := j } := by
  -- a read call is plain and hands nothing over
  have hread : ∀ n (d : Recorded δ),
      Recorded.Called (fun e => e.isPlain = true ∧ e.accepted = []) ch.device d →
      Recorded.Called (fun e => e.isPlain = true ∧ e.accepted = []) ch.device
        (RawReader.read n d).2 :=
    fun n d h => h.trans (.record _ d fun _ => ⟨rfl, rfl⟩)
  have hheld : Held (fun s : Input.Cutoff × Recorded δ =>
      Recorded.Called (fun e => e.isPlain = true ∧ e.accepted = []) ch.device s.2) (fun _ => True)
      c ch := ⟨⟨.refl _ _, fun _ => trivial⟩, fun _ => trivial⟩
  obtain ⟨c', hinput, hc'⟩ :=
    readThrough_held (Input.Cutoff.closes_of_kept hread) (fun _ _ _ _ => trivial) n dst hheld
  have hcalled : Recorded.Called (fun e => e.isPlain = true ∧ e.accepted = []) ch.device
      (readThrough dst c ch n).2.device := hc'.side.1
  obtain ⟨c'', d, ended, hrenew⟩ := exists_renew_readThrough dst c ch n j
  have hdevice : (readThrough dst c ch n).2.device = d := congrArg Channel.device hrenew
  rw [hdevice] at hcalled
  rw [hrenew]
  refine ⟨rfl, by simp [renew, hc], rfl, hcalled.imp fun e he => he.1, fun _ => ?_⟩
  exact congrArg (· ++ _) (received_of_called (hcalled.imp fun e he => he.2))

/-- A call that hands nothing over and closes nothing keeps what was put down, if the record has the sides
that are open behind it. -/
theorem Keeps.opened (h : ch.Keeps bs) {e : Entry}
    (hlog : ch'.device.log = ch.device.log ++ [e]) (hclose : e.isClose = false)
    (hnone : e.accepted = []) (hclosed : ch'.closed = ch.closed) (hwaiting : ch'.waiting = ch.waiting)
    (hinput : ch.input.isSome.toNat + [e].countP Entry.opensInput = ch'.input.isSome.toNat)
    (houtput : ch.output.isSome.toNat + [e].countP Entry.opensOutput = ch'.output.isSome.toNat) :
    ch'.Keeps bs := by
  have hsame : ch'.traced = ch.traced := by simp [traced, hlog, received, hnone, hwaiting]
  refine ⟨⟨hclosed.trans h.1.running, ?_, ?_, ?_⟩, fun ha => hsame.trans (h.2 ha)⟩
  · rw [hlog]
    exact List.forall_mem_append.2 ⟨h.1.unclosed, by simpa using hclose⟩
  · rw [hlog, List.countP_append, h.1.inputs, hinput]
  · rw [hlog, List.countP_append, h.1.outputs, houtput]

theorem Keeps.buildInput (h : ch.Keeps bs) : ch.buildInput.2.Keeps bs := by
  unfold Channel.buildInput
  cases hi : ch.input with
  | some c => exact h
  | none =>
    have hopen : (Transport.openInput ch.device).2.log =
        ch.device.log ++ [.openInput (Transport.openInput ch.device).1] := rfl
    rcases hd : Transport.openInput ch.device with ⟨e | _, d⟩
    all_goals
      rw [hd] at hopen
      exact h.opened hopen rfl rfl rfl rfl (by simp [hi, note, Entry.opensInput])
        (by simp [note, Entry.opensOutput])

theorem Keeps.buildOutput (h : ch.Keeps bs) : ch.buildOutput.2.Keeps bs := by
  unfold Channel.buildOutput
  cases ho : ch.output with
  | some c => exact h
  | none =>
    have hopen : (Transport.openOutput ch.device).2.log =
        ch.device.log ++ [.openOutput (Transport.openOutput ch.device).1] := rfl
    have hwaiting : ch.waiting = [] := by simp [waiting, ho]
    rcases hd : Transport.openOutput ch.device with ⟨e | _, d⟩
    all_goals
      rw [hd] at hopen
      exact h.opened hopen rfl rfl rfl hwaiting.symm (by simp [note, Entry.opensInput])
        (by simp [ho, note, Entry.opensOutput])

variable [Tireless δ]

theorem carries_flushOutput (ch : Channel (Recorded δ)) : Carries ch ch.flushOutput.2 := by
  unfold flushOutput
  cases ho : ch.output with
  | none => exact .refl ch
  | some o =>
    refine ⟨rfl, rfl, by simp [ho],
      (o.flush_answered ch.device).called.imp fun e => Entry.isPlain_of_isSink, fun ha => ?_⟩
    have haccepts : Output.Accepts (Recorded δ) := fun bs d => ha bs d.device
    have hall : received (o.flush ch.device).2.2.log = received ch.device.log ++ o.buffer :=
      Output.flush_accepted haccepts o ch.device
    simp [traced, waiting, ho, hall, Output.flush_buffer haccepts, Output.emptied]

theorem carries_seek (p : Place) (ch : Channel (Recorded δ)) : Carries ch (ch.seek p).2 := by
  refine of_seek (P := Carries ch) (.refl ch) (fun ch' h => h.trans (carries_flushOutput ch'))
    (fun ch' p f ended j h => h.trans ⟨rfl, by simp, rfl, .record _ _ fun _ => rfl, fun _ => ?_⟩) p
  exact congrArg (· ++ _) (received_of_called (.record _ ch'.device fun _ => rfl))

theorem carries_flush (ch : Channel (Recorded δ)) : Carries ch ch.flush.2 := by
  unfold flush
  split
  · exact .refl ch
  · split
    · exact .refl ch
    · exact carries_flushOutput ch

theorem Keeps.read (h : ch.Keeps bs) (kind : ReadKind) (dst : Data) :
    (Channel.read kind dst ch).2.Keeps bs :=
  of_read (P := Keeps bs) h (fun ch h => h.carries (carries_flushOutput ch)) (fun _ h => h.buildInput)
    (fun _ _ n dst j h hc => h.carries (carries_readThrough hc n dst j)) kind dst

theorem Keeps.aimed (h : ch.Keeps bs) : ch.aimed.Keeps bs := by
  unfold Channel.aimed
  split
  · exact of_seekToEnd (P := Keeps bs) h (fun ch e h => h.carries (carries_note e ch))
      fun p ch h => h.carries (carries_seek p ch)
  · exact h

/-- A write that is not refused puts its text down, and may hand over what waits. -/
theorem Keeps.write (h : ch.Keeps bs) (p : Payload) :
    (ch.write p).2.Keeps (bs ++ (Op.write p).ink ch) := by
  have haimed := h.aimed
  simp only [Channel.write, Op.ink, Channel.aimed] at haimed ⊢
  generalize (if ch.mode.isAppend then ch.seekToEnd else ch) = start at haimed ⊢
  rcases ch.checkWrite with e | _
  · simpa using h
  have hbuilt := haimed.buildOutput
  have houtput : ∀ o, start.buildOutput.1 = .ok o → start.buildOutput.2.output = some o :=
    fun _ => output_buildOutput
  rcases hq : start.buildOutput with ⟨e | o, ch₁⟩
  all_goals rw [hq] at hbuilt houtput
  · simpa using hbuilt
  · have ho : ch₁.output = some o := houtput o rfl
    dsimp only at hbuilt ⊢
    set inked := o.encode (Output.translate o.translation p.chars) with hinked
    have hbuffer : inked.buffer = o.buffer ++
        (o.encoder.feed Encoding.questionMark (Output.translate o.translation p.chars)).1 := rfl
    have hcalled : Recorded.Called (·.isPlain = true) ch₁.device (o.write p ch₁.device).2.2 := by
      unfold Output.write
      dsimp only
      split
      · exact (Output.flush_answered _ ch₁.device).called.imp fun e => Entry.isPlain_of_isSink
      · exact .refl _ _
    refine ⟨hbuilt.1.called hcalled rfl rfl (by simp [runOutput, ho]), fun ha => ?_⟩
    have haccepts : Output.Accepts (Recorded δ) := fun bs d => ha bs d.device
    have hall : received (inked.flush ch₁.device).2.2.log =
        received ch₁.device.log ++ inked.buffer := Output.flush_accepted haccepts inked ch₁.device
    have htraced := hbuilt.2 ha
    simp only [traced, waiting, ho, Option.map_some, Option.getD_some] at htraced
    rw [← htraced, List.append_assoc, ← hbuffer]
    simp only [traced, waiting, runOutput, Option.map_some, Option.getD_some, Output.write, ← hinked]
    split
    · simp [hall, Output.flush_buffer haccepts, Output.emptied]
    · rfl

omit [Tireless δ] [Transport δ] in
/-- A setting that is handed on puts nothing down but what ends an encoding. -/
theorem traced_configure {s : Settings → Settings} {f : Input.Chain → Input.Chain}
    {g : Output → Output} {more : List UInt8}
    (hg : ∀ o, ch.output = some o → (g o).buffer = o.buffer ++ more)
    (hnone : ch.output = none → more = []) : (ch.configure s f g).traced = ch.traced ++ more := by
  rw [traced, traced, List.append_assoc]
  refine congrArg (received _ ++ ·) ?_
  cases ho : ch.output with
  | none => simp [waiting, Channel.configure, ho, hnone ho]
  | some o => simp [waiting, Channel.configure, ho, hg o ho]

omit [Tireless δ] in
/-- So does any call that only changes settings. -/
theorem traced_adjusted {op : Op} (hset : Adjusted ch op ch') (hop : op.isSetting = true) :
    ch'.traced = ch.traced ++ op.ink ch := by
  cases hset with
  | ignored hrefused =>
    have hnone : op.ink ch = [] := by
      cases op with
      | setEncoding name =>
        obtain ⟨e, he⟩ := hrefused name rfl
        simp [Op.ink, he]
      | write => cases hop
      | _ => rfl
    rw [hnone, List.append_nil]
  | encoding e hok =>
    simp only [Op.ink, hok]
    exact traced_configure (fun o ho => by simp [tail, ho, Output.setEncoding, Output.finishEncoder_eq])
      fun ho => by simp [tail, ho]
  | inputMarker m _ =>
    have htraced : Channel.traced _ = ch.traced ++ [] := traced_configure (s := ({ · with inputMarker := m }))
      (f := Input.Chain.rescan ch.settings.encoding m) (g := id)
      (fun _ _ => (List.append_nil _).symm) fun _ => rfl
    exact htraced
  | _ => exact traced_configure (fun _ _ => (List.append_nil _).symm) fun _ => rfl

omit [Tireless δ] in
theorem Keeps.adjusted {op : Op} (h : ch.Keeps bs) (hset : Adjusted ch op ch')
    (hop : op.isSetting = true) : ch'.Keeps (bs ++ op.ink ch) := by
  obtain ⟨-, hclosed, hdevice⟩ := hset.steady
  obtain ⟨hinput, houtput⟩ : ch'.input.isSome = ch.input.isSome ∧
      ch'.output.isSome = ch.output.isSome := by
    cases hset with
    | ignored => exact ⟨rfl, rfl⟩
    | _ => exact ⟨Option.isSome_map, Option.isSome_map⟩
  exact ⟨h.1.called (hdevice ▸ .refl _ _) hclosed hinput houtput,
    fun ha => by rw [traced_adjusted hset hop, h.2 ha]⟩

theorem Keeps.perform (h : ch.Keeps bs) {op : Op} (hop : op ≠ .close) :
    (op.perform ch).Keeps (bs ++ op.ink ch) := by
  by_cases hset : op.isSetting = true
  · exact h.adjusted (op.adjusted hset ch) hset
  have hnothing : ∀ {ch : Channel (Recorded δ)}, ch.Keeps bs → ch.Keeps (bs ++ []) := fun h => by
    rwa [List.append_nil]
  cases op with
  | close => exact absurd rfl hop
  | read kind dst => exact hnothing (h.read kind dst)
  | write p => exact h.write p
  | flush => exact hnothing (h.carries (carries_flush ch))
  | seek p => exact hnothing (h.carries (carries_seek p ch))
  | _ => exact absurd rfl hset

theorem Keeps.after (h : ch.Keeps bs) {ops : List Op} (hops : Op.close ∉ ops) :
    (after ops ch).Keeps (bs ++ inked ops ch) := by
  induction ops generalizing ch bs with
  | nil => simpa [inked, Channel.after] using h
  | cons op ops ih =>
    rw [List.mem_cons, not_or] at hops
    rw [inked, ← List.append_assoc]
    exact ih (h.perform (Ne.symm hops.1)) hops.2

/-- The bytes that taking down an output side hands over: what waits, and what it is ended with. -/
def remnant (o : Output) : List UInt8 := o.buffer ++ o.ending

/-- Taking down the output side answers the first failure among its calls to the sink. -/
theorem releaseOutput_answered (ch : Channel (Recorded δ)) :
    ∃ sunk, ch.releaseOutput.2.device.log = ch.device.log ++ sunk ∧
      (∀ e ∈ sunk, e.isSink = true) ∧ ch.releaseOutput.1 = (outcome sunk).mapError .io ∧
      (Output.Accepts δ → (∀ o, ch.output = some o → o.closed = false) →
        received sunk = (ch.output.map remnant).getD []) := by
  unfold releaseOutput
  cases ho : ch.output with
  | none => exact ⟨[], by simp, by simp, rfl, fun _ _ => rfl⟩
  | some o =>
    obtain ⟨sunk, hlog, hall, hr⟩ := o.close_answered ch.device
    refine ⟨sunk, hlog, hall, congrArg (Except.mapError ChannelError.io) hr, fun ha hrunning => ?_⟩
    have haccepts : Output.Accepts (Recorded δ) := fun bs d => ha bs d.device
    have hopen := hrunning o rfl
    have hclose : received (o.close ch.device).2.2.log = received ch.device.log ++ remnant o := by
      simp only [Output.close, hopen, Bool.false_eq_true, if_false]
      refine (Output.flush_accepted haccepts _ ch.device).trans ?_
      by_cases hm : o.marker = 0
      · simp [remnant, Output.ending, Output.finishEncoder_eq, hm, Sink.accepted]
      · simp [remnant, Output.ending, Output.finishEncoder_eq, hm, Sink.accepted]
    rw [hlog, received_append] at hclose
    exact List.append_cancel_left hclose

omit [Transport δ] [Tireless δ] in
theorem output_of_lacksOutput (h : ch.lacksOutput = true) : ch.output = none := by
  simp only [lacksOutput, Bool.and_eq_true, Option.isNone_iff_eq_none] at h
  exact h.2

omit [Tireless δ] in
/-- The output side that the end marker is written with: the one there is, or one that is built for
it. -/
theorem prepareMarker_answered (ch : Channel (Recorded δ)) :
    ∃ built, ch.prepareMarker.2.device.log = ch.device.log ++ built ∧
      ch.prepareMarker.1 = (outcome built).mapError .io ∧
      (ch.lacksOutput = false ∧ built = [] ∧ ch.prepareMarker.2 = ch ∨
        ch.lacksOutput = true ∧ ((∃ e, built = [.openOutput (.error e)]) ∧
            ch.prepareMarker.2.output = none ∨
          built = [.openOutput (.ok ())] ∧
            ∃ sync, ch.prepareMarker.2.output = some (newOutput ch.settings sync))) := by
  unfold prepareMarker
  by_cases hl : ch.lacksOutput = true
  · rw [if_pos hl]
    have hnone := output_of_lacksOutput hl
    have hopen : (Transport.openOutput ch.device).2.log =
        ch.device.log ++ [.openOutput (Transport.openOutput ch.device).1] := rfl
    refine ⟨[.openOutput (Transport.openOutput ch.device).1], ?_⟩
    simp only [Channel.buildOutput, hnone]
    rcases hd : Transport.openOutput ch.device with ⟨e | _, d⟩
    all_goals rw [hd] at hopen
    · exact ⟨hopen, rfl, .inr ⟨hl, .inl ⟨⟨e, rfl⟩, rfl⟩⟩⟩
    · exact ⟨hopen, rfl, .inr ⟨hl, .inr ⟨rfl, _, rfl⟩⟩⟩
  · rw [if_neg hl]
    exact ⟨[], by simp, rfl, .inl ⟨Bool.eq_false_iff.2 hl, rfl, rfl⟩⟩

omit [Tireless δ] in
/-- The output side for an end marker that is due is ended with what waits, what ends the encoding and
the marker. -/
theorem remnant_prepareMarker
    (hside : ∀ o, ch.output = some o → o.closed = false ∧ o.marker = ch.settings.outputMarker)
    (hw : ch.mode.isWritable = true) (hm : ch.settings.outputMarker ≠ 0)
    (hok : ch.prepareMarker.1 = .ok ()) :
    ∃ o, ch.prepareMarker.2.output = some o ∧ o.closed = false ∧
      remnant o = ch.waiting ++ (ch.tail ++ [ch.settings.outputMarker]) := by
  obtain ⟨built, -, hbuilt, ⟨hl, -, hsame⟩ | ⟨hl, ⟨⟨e, rfl⟩, -⟩ | ⟨-, sync, hnew⟩⟩⟩ :=
    prepareMarker_answered ch
  · -- the output side is there
    obtain ⟨o, ho⟩ : ∃ o, ch.output = some o := by
      rw [← Option.isSome_iff_exists, ← Option.not_isNone]
      rw [lacksOutput, hw] at hl
      simpa [hm] using hl
    obtain ⟨hopen, hmarker⟩ := hside o ho
    refine ⟨o, (congrArg Channel.output hsame).trans ho, hopen, ?_⟩
    simp [ho, remnant, Output.ending, waiting, tail, hmarker, hm]
  · rw [hbuilt] at hok
    cases hok
  · -- it was built for the marker
    have hnone := output_of_lacksOutput hl
    refine ⟨_, hnew, rfl, ?_⟩
    simp [remnant, Output.ending, newOutput, Output.init, Encoding.finish_encoder, waiting, tail, hnone,
      hm]

/-- What a channel that was not closed calls when it is, and what it answers then. So many bytes were
put down on it. -/
structure Closing (ch : Channel (Recorded δ)) (put : List UInt8) (built sunk : List Entry)
    (r : Except IoError Unit) : Prop where
  log : ch.close.2.device.log = ch.device.log ++ (built ++ sunk ++ [.close r])
  /-- The output side is built only for an end marker that is due. -/
  building : ch.lacksOutput = false ∧ built = [] ∨
    ch.lacksOutput = true ∧ ∃ a, built = [.openOutput a]
  sinking : ∀ e ∈ sunk, e.isSink = true
  answer : ch.close.1 = (outcome (built ++ sunk ++ [.close r])).mapError .io
  marker : Output.Accepts δ → ch.mode.isWritable = true → ch.settings.outputMarker ≠ 0 →
    (∀ e, built ≠ [.openOutput (.error e)]) →
    received ch.close.2.device.log = put ++ ch.tail ++ [ch.settings.outputMarker]

/-- A channel that was closed asks nothing of its device. -/
structure Gone (ch : Channel (Recorded δ)) : Prop where
  log : ∃ before r, ch.device.log = before ++ [.close r] ∧ ∀ e ∈ before, e.isClose = false
  still (later : List Op) : (after later ch).device = ch.device
  close : ch.close = (.ok (), ch)
  read (kind : ReadKind) (dst : Data) : ch.read kind dst = (⟨.error (.closed ch.label), dst⟩, ch)
  write (p : Payload) : ch.write p = (.error (.closed ch.label), ch)
  flush : ch.flush = (.error (.closed ch.label), ch)
  seek (p : Place) : ch.seek p = (.error (.closed ch.label), ch)
  tell : ch.tell = .error (.closed ch.label)
  isBlocked : ch.isBlocked = .error (.closed ch.label)

omit [Transport δ] [Tireless δ] in
theorem mapError_seqRight (a b : Except IoError Unit) :
    (a.mapError ChannelError.io *> b.mapError ChannelError.io) = (a *> b).mapError .io := by
  cases a <;> rfl

theorem Keeps.closing (h : ch.Keeps bs)
    (hside : ∀ o, ch.output = some o → o.closed = false ∧ o.marker = ch.settings.outputMarker) :
    ∃ built sunk r, ch.Closing bs built sunk r := by
  obtain ⟨j, hj⟩ := exists_releaseInput ({ ch with closed := true } : Channel (Recorded δ))
  set start : Channel (Recorded δ) := { ch with closed := true, input := none, journal := j }
  obtain ⟨hdevice, houtput, hsettings, hmode⟩ : start.device = ch.device ∧
      start.output = ch.output ∧ start.settings = ch.settings ∧ start.mode = ch.mode :=
    ⟨rfl, rfl, rfl, rfl⟩
  have hlacks : start.lacksOutput = ch.lacksOutput := by
    rw [lacksOutput, lacksOutput, houtput, hsettings, hmode]
  obtain ⟨built, hlog, hbuilt, hcases⟩ := prepareMarker_answered start
  obtain ⟨sunk, hlog', hsunk, hreleased, hhanded⟩ := releaseOutput_answered start.prepareMarker.2
  set released := start.prepareMarker.2.releaseOutput.2 with hrel
  have hlog'' : released.closeDevice.2.device.log =
      released.device.log ++ [.close (Transport.close released.device).1] := rfl
  have hclosed : released.closeDevice.1 =
      (outcome [.close (Transport.close released.device).1]).mapError .io := by
    change (Transport.close released.device).1.mapError _ = _
    rcases (Transport.close released.device).1 with e | _ <;> rfl
  have hclose : ch.close = (start.prepareMarker.1 *> start.prepareMarker.2.releaseOutput.1 *>
      released.closeDevice.1, released.closeDevice.2) := by
    simp [Channel.close, h.1.running, hj, hrel, start]
  have hall : ch.close.2.device.log =
      ch.device.log ++ (built ++ sunk ++ [.close (Transport.close released.device).1]) := by
    rw [hclose, hlog'', hlog', hlog, hdevice]
    simp
  refine ⟨built, sunk, (Transport.close released.device).1, hall, ?_, hsunk, ?_, ?_⟩
  · rcases hcases with ⟨hl, hnil, -⟩ | ⟨hl, ⟨⟨e, he⟩, -⟩ | ⟨hok, -⟩⟩
    · exact .inl ⟨hlacks ▸ hl, hnil⟩
    · exact .inr ⟨hlacks ▸ hl, _, he⟩
    · exact .inr ⟨hlacks ▸ hl, _, hok⟩
  · rw [hclose, hbuilt, hreleased, hclosed, mapError_seqRight, mapError_seqRight, outcome_append,
      outcome_append]
  · intro ha hw hm hopened
    -- building an output side hands nothing over, and it did not fail
    obtain ⟨hnothing, hok⟩ : received built = [] ∧ start.prepareMarker.1 = .ok () := by
      rw [hbuilt]
      rcases hcases with ⟨-, rfl, -⟩ | ⟨-, ⟨⟨e, rfl⟩, -⟩ | ⟨rfl, -⟩⟩
      · exact ⟨rfl, rfl⟩
      · exact absurd rfl (hopened e)
      · exact ⟨rfl, rfl⟩
    obtain ⟨o, ho, hopen, hremnant⟩ := remnant_prepareMarker
      (by rwa [houtput, hsettings]) (hmode ▸ hw) (hsettings ▸ hm) hok
    have hsunk : received sunk = ch.waiting ++ (ch.tail ++ [ch.settings.outputMarker]) := by
      rw [hhanded ha fun o' ho' => Option.some.inj (ho.symm.trans ho') ▸ hopen, ho, Option.map_some,
        Option.getD_some, hremnant, waiting, waiting, tail, tail, houtput, hsettings]
    have hlast : received [.close (Transport.close released.device).1] = [] := rfl
    rw [hall, received_append, received_append, received_append, hnothing, hsunk, hlast, ← h.2 ha,
      traced]
    simp only [List.nil_append, List.append_nil, List.append_assoc]

namespace Closing
variable {put : List UInt8} {built sunk : List Entry} {r : Except IoError Unit}
omit [Tireless δ]

/-- A sort of entry that no call to the sink and no close of the device is comes in only for the end
marker. -/
theorem countP (h : ch.Closing put built sunk r) {P : Entry → Bool}
    (hsink : ∀ e, e.isSink = true → P e = false) (hclose : P (.close r) = false) :
    ch.close.2.device.log.countP P = ch.device.log.countP P + built.countP P := by
  have hsunk : sunk.countP P = 0 :=
    List.countP_eq_zero.2 fun e he => by simp [hsink e (h.sinking e he)]
  simp [h.log, hsunk, hclose]

/-- A close opens no input side. -/
theorem opensInput_le (h : ch.Closing put built sunk r) (hlive : ch.Live) :
    ch.close.2.device.log.countP Entry.opensInput ≤ 1 := by
  have hbuilt : built.countP Entry.opensInput = 0 := by
    rcases h.building with ⟨-, rfl⟩ | ⟨-, a, rfl⟩ <;> rfl
  rw [h.countP (fun e he => by cases e <;> simp_all [Entry.isSink, Entry.opensInput]) rfl,
    hlive.inputs, hbuilt]
  exact Bool.toNat_le _

/-- A close opens an output side only where there is none. -/
theorem opensOutput_le (h : ch.Closing put built sunk r) (hlive : ch.Live) :
    ch.close.2.device.log.countP Entry.opensOutput ≤ 1 := by
  rw [h.countP (fun e he => by cases e <;> simp_all [Entry.isSink, Entry.opensOutput]) rfl,
    hlive.outputs]
  rcases h.building with ⟨-, rfl⟩ | ⟨hl, a, rfl⟩
  · exact Bool.toNat_le _
  · rw [output_of_lacksOutput hl]
    rcases a with e | _ <;> simp [Entry.opensOutput]

/-- The device is closed once, and last. -/
theorem last (h : ch.Closing put built sunk r) (hlive : ch.Live) :
    ∃ before r, ch.close.2.device.log = before ++ [.close r] ∧
      ∀ e ∈ before, e.isClose = false := by
  refine ⟨ch.device.log ++ (built ++ sunk), r, by rw [h.log]; simp, ?_⟩
  refine List.forall_mem_append.2 ⟨hlive.unclosed, List.forall_mem_append.2 ⟨?_, ?_⟩⟩
  · rcases h.building with ⟨-, rfl⟩ | ⟨-, a, rfl⟩ <;> simp [Entry.isClose]
  · intro e he
    have hsink := h.sinking e he
    cases e <;> simp_all [Entry.isSink, Entry.isClose]

end Closing

omit [Tireless δ] in
theorem gone_of_closed (h : ch.closed = true)
    (hlog : ∃ before r, ch.device.log = before ++ [.close r] ∧ ∀ e ∈ before, e.isClose = false) :
    ch.Gone where
  log := hlog
  still later := (closed_after h later).1
  close := by simp [Channel.close, h]
  read kind dst := by simp [Channel.read, checkRead, h]
  write p := by simp [Channel.write, checkWrite, h]
  flush := by simp [Channel.flush, checkOpen, h]
  seek p := by simp [Channel.seek, checkOpen, h]
  tell := by simp [Channel.tell, checkOpen, h]
  isBlocked := by
    simp only [Channel.isBlocked, checkRead, h, if_true]
    rfl

/-- The output side is not closed before the channel is. -/
theorem running_invariant : OutputInvariant fun _ o => o.closed = false where
  fresh _ _ := rfl
  encode h _ := h
  emptied h := h
  encoding h _ := h
  bufferSize h _ := h
  buffering h _ := h
  blocking h _ := h
  translation h _ := h
  marker h _ := h
  input h _ _ := h

omit [Tireless δ] in
theorem keeps_fresh (d : δ) (m : OpenMode) : (init (Recorded.fresh d) m).Keeps [] :=
  ⟨⟨rfl, by simp [init, Recorded.fresh], rfl, rfl⟩, fun _ => rfl⟩

/-- Whatever is called and whatever fails, each side of the device is opened at most once. As long as
no call was a close the device is not closed, and when one is it is closed behind all other calls, of
which the first failure is answered. An end marker that is due is put behind all that was put down on
the channel, once. After a close nothing is asked of the device any more. -/
theorem lifecycle (d : δ) (m : OpenMode) (done : List Op) :
    let start := init (Recorded.fresh d) m
    let ch := after done start
    (ch.device.log.countP Entry.opensInput ≤ 1 ∧ ch.device.log.countP Entry.opensOutput ≤ 1) ∧
    (Op.close ∉ done → (∀ e ∈ ch.device.log, e.isClose = false) ∧
      ∃ built sunk r, ch.Closing (inked done start) built sunk r) ∧
    (Op.close ∈ done → ch.Gone) := by
  intro start ch
  have hclosing : ∀ done : List Op, Op.close ∉ done → (after done start).Live ∧
      ∃ built sunk r, (after done start).Closing (inked done start) built sunk r := by
    intro done hdone
    have hkeeps : (after done start).Keeps ([] ++ inked done start) := (keeps_fresh d m).after hdone
    rw [List.nil_append] at hkeeps
    have hrunning := (Maintains.init (Recorded.fresh d) m).after running_invariant done
    have hfollows := (Maintains.init (Recorded.fresh d) m).after follows_invariant done
    exact ⟨hkeeps.1, hkeeps.closing fun o ho => ⟨hrunning o ho, (hfollows o ho).marker⟩⟩
  by_cases hdone : Op.close ∈ done
  · obtain ⟨before, later, rfl, hbefore⟩ := List.eq_append_cons_of_mem hdone
    obtain ⟨hlive, built, sunk, r, hclose⟩ := hclosing before hbefore
    have hch : ch = after later (after before start).close.2 := by
      rw [show ch = after (before ++ Op.close :: later) start from rfl, after_append]
      rfl
    -- behind the first close the device stays as it is
    obtain ⟨hdevice, hclosed⟩ := closed_after (closed_close (after before start)) later
    rw [← hch] at hdevice hclosed
    rw [hdevice]
    refine ⟨⟨hclose.opensInput_le hlive, hclose.opensOutput_le hlive⟩, fun h => absurd hdone h,
      fun _ => gone_of_closed hclosed ?_⟩
    rw [hdevice]
    exact hclose.last hlive
  · obtain ⟨hlive, hclose⟩ := hclosing done hdone
    refine ⟨⟨?_, ?_⟩, fun _ => ⟨hlive.unclosed, hclose⟩, fun h => absurd h hdone⟩
    · rw [hlive.inputs]
      exact Bool.toNat_le _
    · rw [hlive.outputs]
      exact Bool.toNat_le _

/-- The output side cannot be built at first and is built for the end marker, the sink fails in the
close, and so does the device. Over a memory all goes well, and the marker is the last byte. -/
theorem lifecycle_failures :
    let failing : Rehearsed := { Rehearsed.quiet with
      writes := [.failure ⟨.brokenPipe, "sink failed"⟩]
      hooks := fun h => match h with
        | .openOutput => [some ⟨.other, "not yet"⟩]
        | .close => [some ⟨.other, "stuck"⟩]
        | _ => [] }
    let start := init (Recorded.fresh failing) ⟨4⟩
    let plain := init (Recorded.fresh Memory.empty) ⟨4⟩
    let done : List Op := [.write (.text ['a']), .setOutputMarker 0x1A]
    (Op.close ∉ done ∧ (after done start).lacksOutput = true ∧
      (∃ built sunk r, (after done start).Closing (inked done start) built sunk r) ∧
      (after done start).close.1 = .error (.io ⟨.brokenPipe, "sink failed"⟩)) ∧
    (Op.close ∈ done ++ [.close] ∧ (after (done ++ [.close]) start).Gone) ∧
    (after (done ++ [.close]) start).device.log.countP Entry.opensOutput ≤ 1 ∧
    received (after done plain).close.2.device.log = [0x61, 0x1A] := by
  intro failing start plain done
  have hrunning := (lifecycle failing ⟨4⟩ done).2.1 (by decide)
  have hclosed := lifecycle failing ⟨4⟩ (done ++ [.close])
  refine ⟨⟨by decide, by decide, hrunning.2, by decide⟩, ⟨by decide, hclosed.2.2 (by decide)⟩,
    hclosed.1.2, ?_⟩
  obtain ⟨-, built, sunk, r, hclose⟩ := (lifecycle Memory.empty ⟨4⟩ done).2.1 (by decide)
  have hlacks : (after done plain).lacksOutput = false := by decide
  have hbuilt : built = [] := by
    rcases hclose.building with ⟨-, hnil⟩ | ⟨hl, -⟩
    · exact hnil
    · exact absurd (hlacks.symm.trans hl) Bool.false_ne_true
  have hmarked := hclose.marker (fun _ _ => rfl) (by decide) (by decide) (by simp [hbuilt])
  have hplain : plain = init (Recorded.fresh Memory.empty) ⟨4⟩ := rfl
  rw [hplain, hmarked]
  decide

end ScriptChannel.Channel
