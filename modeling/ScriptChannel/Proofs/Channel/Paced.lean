import ScriptChannel.Proofs.Channel.Alike
import ScriptChannel.Proofs.Channel.Appending
import ScriptChannel.Proofs.Channel.Fresh
import ScriptChannel.Proofs.Input.Abreast

/-!
# Reading ahead

How far a channel reads ahead, and in what pieces, makes no difference to who reads it and waits for
what is not there yet. Two channels over the same device that are paced differently have different
bytes in every stage, and their devices stand at different places. But what is to come is the same, and
so is what was noted of what came: of characters as a text, and of bytes as they are.
-/

namespace ScriptChannel.Channel
open Transport Input

section Side
variable {δ : Type} [Transport δ] [RawStream δ]

/-- The input sides bring the same in whatever pieces it is asked for. -/
def Paced (s : Settings) (x y : Chain × δ) : Prop :=
  if s.encoding.isBinary then Chain.Abreast x y
  else ∃ v, Lines.Shows v (x.1.whole x.2) ∧ Lines.Shows v (y.1.whole y.2)

theorem likeness_paced : Likeness (Paced (δ := δ)) where
  text := by
    rintro s ⟨c, d⟩ ⟨c', d'⟩ h hb n
    rw [Paced, if_neg (by simp [hb])] at h
    obtain ⟨v, hv, hv'⟩ := h
    obtain ⟨hsame, hkept⟩ := Chain.readText_shows hv n
    obtain ⟨hsame', hkept'⟩ := Chain.readText_shows hv' n
    rw [Paced, if_neg (by simp [hb])]
    exact ⟨hsame.trans hsame'.symm, _, hkept, hkept'⟩
  bytes := by
    rintro s ⟨c, d⟩ ⟨c', d'⟩ h hb n
    rw [Paced, if_pos hb] at h ⊢
    obtain ⟨hsame, hkept⟩ := h.readBytes n
    exact ⟨hsame.symm, hkept⟩
  line := by
    rintro s ⟨c, d⟩ ⟨c', d'⟩ h
    by_cases hb : s.encoding.isBinary = true
    · rw [Paced, if_pos hb] at h ⊢
      obtain ⟨hsame, hkept⟩ := h.readLine s.blocking
      exact ⟨hsame.symm, congrArg Lines.isEnded hkept.lines.symm, hkept⟩
    · rw [Paced, if_neg hb] at h ⊢
      obtain ⟨v, hv, hv'⟩ := h
      obtain ⟨hsame, hkept⟩ := Chain.readLine_shows hv s.blocking
      obtain ⟨hsame', hkept'⟩ := Chain.readLine_shows hv' s.blocking
      exact ⟨hsame.trans hsame'.symm, hkept.isEnded.trans hkept'.isEnded.symm, _, hkept, hkept'⟩

/-- The pieces that an input side is to ask for are no part of what it brings. -/
theorem Paced.retuned {s s' : Settings} (hs : s'.encoding = s.encoding) {c : Chain} {d : δ}
    {y : Chain × δ} (h : Paced s (c, d) y) (b : Buffering) (n : Nat) :
    Paced s' ({ c with readAhead := { c.readAhead with buffering := b, size := n } }, d) y := by
  unfold Paced at h ⊢
  rw [hs]
  split
  · rw [if_pos ‹_›] at h
    exact ⟨h.lines, h.source.decoding, h.source.binary, h.source.coming⟩
  · rw [if_neg ‹_›] at h
    obtain ⟨v, hv, hv'⟩ := h
    exact ⟨v, ⟨hv.lines, hv.raw⟩, hv'⟩

/-- Nothing is to be waited for where the reader waits. -/
theorem delay_not_mem_spelled {s : Settings} (hs : s.blocking = true) (xs : Coming UInt8) :
    .delay ∉ (newInput s).spelled xs := by
  intro hmem
  rw [spelled_newInput, if_pos hs, ← Coming.delay_mem_silence (β := Char),
    Decoding.silence_reading] at hmem
  have hbytes : .delay ∈ ((xs.eased.upTo s.inputMarker).patient.silence : Coming Char) :=
    (Decoding.silence_entering _ _).subset (by simpa using hmem)
  simp [Coming.patient, Signal.isDelay] at hbytes

/-- Input sides just built in front of the same device bring the same. -/
theorem paced_newInput {s : Settings} (hs : s.blocking = true) (b : Buffering) (n : Nat) (d : δ) :
    Paced s (newInput s, d) (newInput { s with buffering := b, bufferSize := n }, d) := by
  unfold Paced
  split
  · have hbinary : s.encoding = .binary := by
      simpa [Encoding.isBinary] using ‹s.encoding.isBinary = true›
    exact ⟨rfl, rfl, hbinary, rfl⟩
  · obtain ⟨ts, hts⟩ := Prospect.exists_coming (delay_not_mem_spelled hs (RawStream.coming d))
    exact ⟨(.init s.inputTranslation, ts), ⟨rfl, hts⟩, ⟨rfl, hts⟩⟩

end Side

section Channel
variable {δ : Type} [Transport δ] [InputDevice δ]

/-- Two channels over one device that differ in their pace. Once they have built their input sides
these are in front of different states of it. -/
structure Twins (ch ch' : Channel δ) : Prop where
  settings : ∃ b n, ch'.settings = { ch.settings with buffering := b, bufferSize := n }
  waits : ch.settings.blocking = true
  mode : ch'.mode = ch.mode
  name : ch'.name = ch.name
  ended : ch'.ended = ch.ended
  opened : ch.closed = false ∧ ch'.closed = false
  quiet : ch.output = none ∧ ch'.output = none
  side : ch.input = none ∧ ch'.input = none ∧ ch'.device = ch.device ∨
    ch.mode.isReadable = true ∧ ∃ c c', ch.input = some c ∧ ch'.input = some c' ∧
      Paced ch.settings (c, ch.device) (c', ch'.device)

variable {ch ch' : Channel δ}

theorem Twins.checkRead (h : Twins ch ch') : ch'.checkRead = ch.checkRead := by
  rcases h.side with ⟨-, -, hdevice⟩ | ⟨hreadable, -⟩
  · simp [Channel.checkRead, label, kindName, h.opened, h.mode, h.name, hdevice]
  · simp [Channel.checkRead, h.opened, h.mode, hreadable]

/-- Both are refused the device, or both have it and bring the same. -/
theorem Twins.buildInput (h : Twins ch ch') (hreadable : ch.mode.isReadable = true) :
    Twins ch.buildInput.2 ch'.buildInput.2 ∧
      ((∃ e, ch.buildInput.1 = .error e ∧ ch'.buildInput.1 = .error e) ∨
        ch.buildInput.2.mode.isReadable = true ∧
          ∃ c c', ch.buildInput.1 = .ok c ∧ ch'.buildInput.1 = .ok c' ∧
            Paced ch.buildInput.2.settings (c, ch.buildInput.2.device)
              (c', ch'.buildInput.2.device)) := by
  unfold Channel.buildInput
  rcases h.side with ⟨hi, hi', hdevice⟩ | ⟨-, c, c', hi, hi', hpaced⟩
  · rw [hi, hi', hdevice]
    dsimp only
    rcases Transport.openInput ch.device with ⟨e | _, d⟩
    · exact ⟨{ h with side := .inl ⟨rfl, rfl, rfl⟩ }, .inl ⟨.io e, rfl, rfl⟩⟩
    · obtain ⟨b, n, hsettings⟩ := h.settings
      have hpaced := paced_newInput h.waits b n d
      rw [← hsettings] at hpaced
      exact ⟨{ h with side := .inr ⟨hreadable, _, _, rfl, rfl, hpaced⟩ },
        .inr ⟨hreadable, _, _, rfl, rfl, hpaced⟩⟩
  · rw [hi, hi']
    exact ⟨h, .inr ⟨hreadable, c, c', rfl, rfl, hpaced⟩⟩

theorem Twins.renew (h : Twins ch ch') (hreadable : ch.mode.isReadable = true) {c c' : Chain} {d d' : δ}
    (hpaced : Paced ch.settings (c, d) (c', d')) (e : Bool) (j j' : List Event) :
    Twins (ch.renew c d e j) (ch'.renew c' d' e j') :=
  { h with ended := rfl, side := .inr ⟨hreadable, c, c', rfl, rfl, hpaced⟩ }

/-- A read of the one is a read of the other. -/
theorem Twins.read (h : Twins ch ch') (kind : ReadKind) (dst : Data) :
    (Channel.read kind dst ch).1 = (Channel.read kind dst ch').1 ∧
      Twins (Channel.read kind dst ch).2 (Channel.read kind dst ch').2 := by
  cases hcheck : ch.checkRead with
  | error e =>
    simp only [Channel.read, hcheck, h.checkRead]
    exact ⟨trivial, h⟩
  | ok u =>
    have hcheck' : ch'.checkRead = .ok () := h.checkRead.trans hcheck
    have hreadable : ch.mode.isReadable = true := by
      simpa [Channel.checkRead, h.opened] using hcheck
    by_cases he : ch.ended = true
    · have he' := h.ended.trans he
      simp only [Channel.read, hcheck, hcheck', he, he', if_true]
      exact ⟨trivial, h⟩
    rw [Bool.not_eq_true] at he
    have hflush : ∀ ch : Channel δ, ch.output = none →
        (if ch.mode.isWritable then ch.flushOutput else (.ok (), ch)) = (.ok (), ch) := by
      intro ch ho
      simp [flushOutput, ho]
    obtain ⟨htwins, hbuilt⟩ := h.buildInput hreadable
    rcases hbuilt with ⟨e, hb, hb'⟩ | ⟨hr, c, c', hb, hb', hpaced⟩
    · rw [read_refused hcheck he (hflush ch h.quiet.1) (Prod.ext hb rfl),
        read_refused hcheck' (h.ended.trans he) (hflush ch' h.quiet.2) (Prod.ext hb' rfl)]
      exact ⟨rfl, htwins⟩
    · obtain ⟨j, hread⟩ :=
        read_through hcheck he (hflush ch h.quiet.1) (Prod.ext hb rfl) kind dst
      obtain ⟨j', hread'⟩ := read_through hcheck' (h.ended.trans he) (hflush ch' h.quiet.2)
        (Prod.ext hb' rfl) kind dst
      obtain ⟨b, n, hsettings⟩ := htwins.settings
      obtain ⟨c₁, d₁, c₂, d₂, e, hrenew, hrenew', hsame, hkept⟩ := likeness_paced.readThrough
        ch.buildInput.2 ch'.buildInput.2 (by rw [hsettings]) (by rw [hsettings]) htwins.ended hpaced
        (wanted kind) dst
      dsimp only at hread hread' hrenew hrenew' hsame
      rw [hread, hread', hrenew, hrenew', hsame]
      exact ⟨rfl, htwins.renew hr hkept e j j'⟩

/-- Other settings leave them twins that concern the pace and nothing else. -/
theorem Twins.configure (h : Twins ch ch') {s : Settings → Settings} {f : Chain → Chain}
    (hs : ∀ s₁ b n, { s s₁ with buffering := b, bufferSize := n } =
      { s₁ with buffering := b, bufferSize := n })
    (hf : ∀ c, ∃ b n, f c = { c with readAhead := { c.readAhead with buffering := b, size := n } })
    (g : Output → Output) : Twins (ch.configure s f g) ch' := by
  obtain ⟨b, n, hsettings⟩ := h.settings
  have hset := hs ch.settings b n
  refine { h with
    settings := ⟨b, n, hsettings.trans hset.symm⟩
    waits := (congrArg Settings.blocking hset).trans h.waits
    quiet := ⟨?_, h.quiet.2⟩
    side := ?_ }
  · simp [Channel.configure, h.quiet.1]
  · rcases h.side with ⟨hi, hi', hdevice⟩ | ⟨hr, c, c', hi, hi', hpaced⟩
    · exact .inl ⟨by simp [Channel.configure, hi], hi', hdevice⟩
    · obtain ⟨b₁, n₁, hc⟩ := hf c
      refine .inr ⟨hr, f c, c', by simp [Channel.configure, hi], hi', ?_⟩
      rw [hc]
      exact hpaced.retuned (congrArg Settings.encoding hset) b₁ n₁

theorem Twins.pace (h : Twins ch ch') {op : Op} (hop : op.isPace = true) :
    Twins (op.perform ch) ch' := by
  cases op with
  | setBuffering b =>
    simp only [Op.perform, setBuffering]
    refine h.configure ?_ ?_ _
    · exact fun _ _ _ => rfl
    · exact fun c => ⟨b, c.readAhead.size, rfl⟩
  | setBufferSize size =>
    simp only [Op.perform, setBufferSize]
    split
    · dsimp only
      refine h.configure ?_ ?_ _
      · exact fun _ _ _ => rfl
      · exact fun c => ⟨c.readAhead.buffering, size, rfl⟩
    · exact h
  | _ => simp [Op.isPace] at hop

end Channel

/-- What a reader sees of a run of calls: what each of the reads among them comes to, and whether the
end was seen then. -/
def views {δ : Type} [Transport δ] : List Op → Channel δ → List (Reading × Bool)
  | [], _ => []
  | .read kind dst :: ops, ch =>
    ((Channel.read kind dst ch).1, (Channel.read kind dst ch).2.ended) ::
      views ops (Channel.read kind dst ch).2
  | op :: ops, ch => views ops (op.perform ch)

theorem views_pace {δ : Type} [Transport δ] {op : Op} (hop : op.isPace = true) (ops : List Op)
    (ch : Channel δ) : views (op :: ops) ch = views ops (op.perform ch) := by
  cases op with
  | read kind dst => simp [Op.isPace] at hop
  | _ => rfl

/-- Whatever is said between the reads about the pace, a reader sees what those reads would show. -/
theorem Twins.views {δ : Type} [Transport δ] [InputDevice δ] {ch ch' : Channel δ} (h : Twins ch ch')
    {ops : List Op} {requests : List (ReadKind × Data)}
    (hops : ops.filter (!·.isPace) = requests.map fun r => .read r.1 r.2) :
    Channel.views ops ch = sights requests ch' := by
  induction ops generalizing ch ch' requests with
  | nil =>
    obtain rfl : requests = [] := List.map_eq_nil_iff.1 hops.symm
    rfl
  | cons op ops ih =>
    by_cases hop : op.isPace = true
    · rw [List.filter_cons_of_neg (by simp [hop])] at hops
      rw [views_pace hop]
      exact ih (h.pace hop) hops
    · rw [List.filter_cons_of_pos (by simp [hop])] at hops
      obtain ⟨⟨kind, dst⟩, requests, rfl, hread, hothers⟩ := List.map_eq_cons_iff.1 hops.symm
      obtain rfl : Op.read kind dst = op := hread
      obtain ⟨hsame, hkept⟩ := h.read kind dst
      rw [Channel.views, sights, hsame, hkept.ended, ih hkept hothers.symm]

/-- Two channels just opened on the same device, the pace apart. -/
theorem twins_opened {δ : Type} [Transport δ] [InputDevice δ] (d : δ) (mode : OpenMode)
    {s : Settings} (hs : s.blocking = true) (b : Buffering) (n : Nat) :
    Twins (opened d mode { s with buffering := b, bufferSize := n }) (opened d mode s) where
  settings := ⟨s.buffering, s.bufferSize, rfl⟩
  waits := hs
  mode := rfl
  name := rfl
  ended := rfl
  opened := ⟨rfl, rfl⟩
  quiet := ⟨rfl, rfl⟩
  side := .inl ⟨rfl, rfl, rfl⟩

/-- Whatever a device does on its script, a reader who waits sees the same at every read of two channels
on it that differ in how much is read ahead and when that is changed. -/
theorem reading_ahead_unseen (d : Transport.Rehearsed) (mode : OpenMode) {s : Settings}
    (hs : s.blocking = true) (b : Buffering) (n : Nat) {ops ops' : List Op}
    (requests : List (ReadKind × Data))
    (hops : ops.filter (!·.isPace) = requests.map fun r => .read r.1 r.2)
    (hops' : ops'.filter (!·.isPace) = requests.map fun r => .read r.1 r.2) :
    views ops (opened d mode s) =
      views ops' (opened d mode { s with buffering := b, bufferSize := n }) :=
  ((twins_opened d mode hs s.buffering s.bufferSize).views hops).trans
    ((twins_opened d mode hs b n).views hops').symm

/-- A character and a line ending come in halves, and a failure behind them. Asked for byte by byte, or
for all at once, they are the same line, the same failure with what stood in front of it, and the rest. -/
theorem reading_ahead_unseen_halves :
    let d := Transport.Rehearsed.quiet.feed [.units [0xC3], .delay, .units [0xA9, 0x0D], .interruption,
      .units [0x0A, 0x62], .failure .noMark, .units [0x63], .theEnd]
    let ops := [.read .line (.text []), .setBuffering .none, .read (.units 4) (.text []),
      .read .all (.text []), .setBufferSize 1, .read .line (.text [])]
    let ops' := [.setBufferSize 1, .read .line (.text []), .read (.units 4) (.text []),
      .setBuffering .line, .read .all (.text []), .read .line (.text [])]
    let seen := views ops (opened d .readOnly .default)
    seen = views ops'
        (opened d .readOnly { Settings.default with buffering := .none, bufferSize := 2 }) ∧
      seen.map (·.1.data) = [.text ['é'], .text ['b'], .text ['c'], .text []] ∧
      seen.map (·.1.status.isOk) = [true, false, true, true] ∧
      seen.map (·.2) = [false, false, true, true] := by
  intro d ops ops' seen
  have hsame : seen = views ops' _ := reading_ahead_unseen d .readOnly rfl .none 2
    [(.line, .text []), (.units 4, .text []), (.all, .text []), (.line, .text [])] rfl rfl
  exact ⟨hsame, by decide +kernel, by decide +kernel, by decide +kernel⟩

end ScriptChannel.Channel
