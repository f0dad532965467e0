import ScriptChannel.Proofs.Channel.Alike
import ScriptChannel.Proofs.Transport.Indistinct

/-!
# Channels on devices that cannot be told apart

Two channels that are the same but for their notes and their owners, on devices of which one shows what
the other does, stay so whatever is read or written, and answer alike.
-/

namespace ScriptChannel.Channel
open Transport Input

section Face
variable {δ ε : Type} {f : δ → ε}

/-- Where a call on the image of a device is the image of the call, it is the same on devices of one
image. -/
theorem same_of_image {α σ τ : Type} {g : σ → τ} {call : δ → α × σ} {call' : ε → α × τ}
    (h : ∀ d, call' (f d) = Prod.map id g (call d)) {d d' : δ} (hd : f d' = f d) :
    (call d').1 = (call d).1 ∧ g (call d').2 = g (call d).2 := by
  have hcall : Prod.map id g (call d') = Prod.map id g (call d) := by rw [← h, ← h, hd]
  exact Prod.mk.inj hcall

/-- A stage in front of such devices is the same behind the call. -/
theorem same_of_onto {α ρ : Type} {call : δ → α × ρ × δ} {call' : ε → α × ρ × ε}
    (h : ∀ d, call' (f d) = Prod.map id (Input.onto f) (call d)) {d d' : δ} (hd : f d' = f d) :
    (call d').1 = (call d).1 ∧ (call d').2.1 = (call d).2.1 ∧ f (call d').2.2 = f (call d).2.2 := by
  obtain ⟨hanswer, hrest⟩ := same_of_image h hd
  exact ⟨hanswer, Prod.mk.inj hrest⟩

end Face

variable {δ ε : Type} {f : δ → ε}

/-- The channels are the same in all that bears on reading and writing, and their devices show the
same. -/
structure Resembles (f : δ → ε) (ch ch' : Channel δ) : Prop where
  device : f ch'.device = f ch.device
  mode : ch'.mode = ch.mode
  settings : ch'.settings = ch.settings
  name : ch'.name = ch.name
  ended : ch'.ended = ch.ended
  closed : ch'.closed = ch.closed
  input : ch'.input = ch.input
  output : ch'.output = ch.output

theorem resembles_of_device {d : δ} {ch : Channel δ} (hd : f d = f ch.device) :
    Resembles f ch { ch with device := d } :=
  ⟨hd, rfl, rfl, rfl, rfl, rfl, rfl, rfl⟩

theorem resembles_note (e : Event) (ch : Channel δ) : Resembles f ch (ch.note e) :=
  ⟨rfl, rfl, rfl, rfl, rfl, rfl, rfl, rfl⟩

theorem Resembles.trans {ch ch' ch'' : Channel δ} (h : Resembles f ch ch')
    (h' : Resembles f ch' ch'') : Resembles f ch ch'' :=
  ⟨h'.device.trans h.device, h'.mode.trans h.mode, h'.settings.trans h.settings,
    h'.name.trans h.name, h'.ended.trans h.ended, h'.closed.trans h.closed,
    h'.input.trans h.input, h'.output.trans h.output⟩

variable [Transport δ] [Transport ε] {ch ch' : Channel δ}

/-- No read tells two input sides in front of such devices apart. -/
theorem likeness_of_mirrors (h : Mirrors f) :
    Likeness fun _ (x y : Chain × δ) => y.1 = x.1 ∧ f y.2 = f x.2 where
  text := by
    rintro s ⟨c, d⟩ ⟨c', d'⟩ ⟨hc, hd⟩ - n
    obtain rfl : c' = c := hc
    obtain ⟨hanswer, hc, hd⟩ := same_of_onto (Chain.readText_mirror h.toMirrors n c') hd
    exact ⟨hanswer.symm, hc, hd⟩
  bytes := by
    rintro s ⟨c, d⟩ ⟨c', d'⟩ ⟨hc, hd⟩ - n
    obtain rfl : c' = c := hc
    obtain ⟨hanswer, hc, hd⟩ := same_of_onto (Chain.readBytes_mirror h.toMirrors n c') hd
    exact ⟨hanswer.symm, hc, hd⟩
  line := by
    rintro s ⟨c, d⟩ ⟨c', d'⟩ ⟨hc, hd⟩
    obtain rfl : c' = c := hc
    obtain ⟨hanswer, hc, hd⟩ := same_of_onto (Chain.readLine_mirror h.toMirrors s.blocking c') hd
    exact ⟨hanswer.symm, by rw [hc], hc, hd⟩

variable (h : Reflects f)
include h

theorem Resembles.label (hch : Resembles f ch ch') : ch'.label = ch.label := by
  have hkind : Transport.kind ch'.device = Transport.kind ch.device := by
    rw [← h.reader.kind, ← h.reader.kind, hch.device]
  simp only [Channel.label, kindName, hch.name, hkind]

theorem Resembles.flushOutput (hch : Resembles f ch ch') :
    ch'.flushOutput.1 = ch.flushOutput.1 ∧
      Resembles f ch.flushOutput.2 ch'.flushOutput.2 := by
  simp only [Channel.flushOutput, hch.output]
  cases ho : ch.output with
  | none => exact ⟨rfl, hch⟩
  | some o =>
    obtain ⟨hanswer, hside, hdevice⟩ := same_of_onto (Output.flush_mirror h.writer o) hch.device
    exact ⟨congrArg (Except.mapError ChannelError.io) hanswer,
      { hch with device := hdevice, output := congrArg some hside }⟩

theorem Resembles.buildInput (hch : Resembles f ch ch') :
    ch'.buildInput.1 = ch.buildInput.1 ∧ Resembles f ch.buildInput.2 ch'.buildInput.2 := by
  simp only [Channel.buildInput, hch.input]
  cases hi : ch.input with
  | some c => exact ⟨rfl, hch⟩
  | none =>
    have hopen := same_of_image h.reader.openInput hch.device
    rcases hq : Transport.openInput ch.device with ⟨answer, d⟩
    rcases hq' : Transport.openInput ch'.device with ⟨answer', d'⟩
    rw [hq, hq'] at hopen
    obtain ⟨rfl, hd⟩ : answer' = answer ∧ f d' = f d := hopen
    cases answer' with
    | error e => exact ⟨rfl, { hch with device := hd, input := rfl }⟩
    | ok u =>
      refine ⟨congrArg (fun s => Except.ok (newInput s)) hch.settings, ?_⟩
      exact { hch with device := hd, input := congrArg (some <| newInput ·) hch.settings }

theorem Resembles.buildOutput (hch : Resembles f ch ch') :
    ch'.buildOutput.1 = ch.buildOutput.1 ∧ Resembles f ch.buildOutput.2 ch'.buildOutput.2 := by
  simp only [Channel.buildOutput, hch.output]
  cases ho : ch.output with
  | some o => exact ⟨rfl, hch⟩
  | none =>
    have hopen := same_of_image h.openOutput hch.device
    rcases hq : Transport.openOutput ch.device with ⟨answer, d⟩
    rcases hq' : Transport.openOutput ch'.device with ⟨answer', d'⟩
    rw [hq, hq'] at hopen
    obtain ⟨rfl, hd⟩ : answer' = answer ∧ f d' = f d := hopen
    cases answer' with
    | error e => exact ⟨rfl, { hch with device := hd, output := rfl }⟩
    | ok u =>
      have hside : newOutput ch'.settings (Transport.kind d').requiresSync =
          newOutput ch.settings (Transport.kind d).requiresSync := by
        rw [hch.settings, ← h.reader.kind, hd, h.reader.kind]
      exact ⟨congrArg Except.ok hside, { hch with device := hd, output := congrArg some hside }⟩

/-- What waits on both was sent off, with the same outcome; then a read of the one is a read of the
other. -/
theorem Resembles.read_behind {ch₁ ch₁' : Channel δ} (hch : Resembles f ch₁ ch₁')
    (hcheck : ch.checkRead = .ok ()) (hcheck' : ch'.checkRead = .ok ()) (he : ch.ended = false)
    (he' : ch'.ended = false)
    (hflush : (if ch.mode.isWritable then ch.flushOutput else (.ok (), ch)) = (.ok (), ch₁))
    (hflush' : (if ch'.mode.isWritable then ch'.flushOutput else (.ok (), ch')) = (.ok (), ch₁'))
    (kind : ReadKind) (dst : Data) :
    (read kind dst ch').1 = (read kind dst ch).1 ∧
      Resembles f (read kind dst ch).2 (read kind dst ch').2 := by
  have hbuild := hch.buildInput h
  rcases hb : ch₁.buildInput with ⟨answer, ch₂⟩
  rcases hb' : ch₁'.buildInput with ⟨answer', ch₂'⟩
  rw [hb, hb'] at hbuild
  obtain ⟨rfl, hch⟩ : answer' = answer ∧ Resembles f ch₂ ch₂' := hbuild
  cases answer' with
  | error e =>
    rw [read_refused hcheck he hflush hb, read_refused hcheck' he' hflush' hb']
    exact ⟨rfl, hch⟩
  | ok c =>
    obtain ⟨j, hread⟩ := read_through hcheck he hflush hb kind dst
    obtain ⟨j', hread'⟩ := read_through hcheck' he' hflush' hb' kind dst
    have hside : c = c ∧ f ch₂'.device = f ch₂.device := ⟨rfl, hch.device⟩
    obtain ⟨c₁, d₁, c₂, d₂, e, hrenew, hrenew', hsame, hc, hd⟩ :=
      (likeness_of_mirrors h.reader).readThrough ch₂ ch₂' (congrArg Settings.blocking hch.settings)
        (congrArg Settings.encoding hch.settings) hch.ended hside (wanted kind) dst
    dsimp only at hread hread' hrenew hrenew' hsame
    rw [hread, hread', hrenew, hrenew', hsame]
    exact ⟨rfl, { hch with device := hd, ended := rfl, input := congrArg some hc }⟩

/-- A read of the one is a read of the other. -/
theorem Resembles.read (hch : Resembles f ch ch') (kind : ReadKind) (dst : Data) :
    (read kind dst ch').1 = (read kind dst ch).1 ∧
      Resembles f (read kind dst ch).2 (read kind dst ch').2 := by
  have hcheck : ch'.checkRead = ch.checkRead := by
    simp only [checkRead, hch.closed, hch.mode, hch.label h]
  cases hc : ch.checkRead with
  | error e =>
    simp only [Channel.read, hcheck, hc]
    exact ⟨trivial, hch⟩
  | ok u =>
    by_cases he : ch.ended = true
    · simp only [Channel.read, hcheck, hc, hch.ended, he, if_true]
      exact ⟨trivial, hch⟩
    rw [Bool.not_eq_true] at he
    have hflush : (if ch'.mode.isWritable then ch'.flushOutput else (.ok (), ch')).1 =
        (if ch.mode.isWritable then ch.flushOutput else (.ok (), ch)).1 ∧
        Resembles f (if ch.mode.isWritable then ch.flushOutput else (.ok (), ch)).2
          (if ch'.mode.isWritable then ch'.flushOutput else (.ok (), ch')).2 := by
      rw [hch.mode]
      split
      · exact hch.flushOutput h
      · exact ⟨rfl, hch⟩
    rcases hf : (if ch.mode.isWritable then ch.flushOutput else (.ok (), ch)) with ⟨answer, ch₁⟩
    rcases hf' : (if ch'.mode.isWritable then ch'.flushOutput else (.ok (), ch')) with
      ⟨answer', ch₁'⟩
    rw [hf, hf'] at hflush
    obtain ⟨rfl, hch₁⟩ : answer' = answer ∧ Resembles f ch₁ ch₁' := hflush
    cases answer' with
    | ok u => exact hch₁.read_behind h hc (hcheck.trans hc) he (hch.ended.trans he) hf hf' kind dst
    | error e =>
      simp only [Channel.read, hcheck, hc, hch.ended, he, hf, hf', Bool.false_eq_true, if_false]
      exact ⟨trivial, hch₁⟩

/-- So a reader sees the same. -/
theorem Resembles.sights (hch : Resembles f ch ch') (requests : List (ReadKind × Data)) :
    ch'.sights requests = ch.sights requests := by
  induction requests generalizing ch ch' with
  | nil => rfl
  | cons request requests ih =>
    obtain ⟨kind, dst⟩ := request
    obtain ⟨hsame, hkept⟩ := hch.read h kind dst
    rw [Channel.sights, Channel.sights, hsame, ih hkept, hkept.ended]

end ScriptChannel.Channel
