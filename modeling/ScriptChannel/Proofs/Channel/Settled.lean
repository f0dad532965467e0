import ScriptChannel.Proofs.Channel.OutputSide
import ScriptChannel.Proofs.Channel.Stored

/-!
# Gathering what is written

Over a memory that is only written, what a channel gathers might as well be there already. A channel is
settled when all that waits on it is put down, and its settings do not make it wait. Every call does the
same to a channel as to the settled one, but for the calls that only say how much is to be gathered.
Where the settled channels are the same, nobody can tell two channels apart by going somewhere, asking
for the position, or looking at the memory after it was brought up to date.
-/

namespace ScriptChannel

/-- Set to gather nothing. -/
def Settings.direct (s : Settings) : Settings :=
  { s with buffering := .none, bufferSize := Settings.defaultBufferSize }

/-- An output side with nothing waiting that gathers nothing. -/
def Output.direct (o : Output) : Output :=
  { o with buffering := .none, size := Settings.defaultBufferSize, buffer := [] }

namespace Channel
open Transport

/-- The channel with all that waits put down, and nothing gathered from now on. -/
def settled (ch : Channel Memory) : Channel Memory :=
  { ch with
    device := (ch.device.stored ch.waiting).unforced
    settings := ch.settings.direct
    output := ch.output.map Output.direct
    journal := [] }

theorem settled_drained (ch : Channel Memory) : ch.drained.settled = ch.settled := by
  unfold drained
  cases ho : ch.output with
  | none => rfl
  | some o => simp [settled, waiting, ho, Memory.unforced_flushed, Output.direct]

theorem waiting_settled (ch : Channel Memory) : ch.settled.waiting = [] := by
  cases ho : ch.output <;> simp [waiting, settled, ho, Output.direct]

theorem label_settled (ch : Channel Memory) : ch.settled.label = ch.label := by
  simp only [label, kindName, settled]
  rw [show Transport.kind (ch.device.stored ch.waiting).unforced = Transport.kind ch.device from
    Memory.kind_stored _ _]

theorem checkWrite_settled (ch : Channel Memory) : ch.settled.checkWrite = ch.checkWrite := by
  simp only [checkWrite, label_settled]
  rfl

/-- What will be written through is the same but for what is gathered in it. -/
theorem outputSide_settled (ch : Channel Memory) :
    ch.settled.outputSide = ch.outputSide.direct := by
  have hkind : ch.settled.device.kind = ch.device.kind := Memory.kind_stored _ _
  rw [outputSide, outputSide, hkind]
  cases ho : ch.output <;> simp [settled, ho]
  rfl

/-- A channel that can be written and not read. -/
structure WriteOnly (ch : Channel Memory) : Prop where
  writable : ch.mode.isWritable = true
  unreadable : ch.mode.isReadable = false
  input : ch.input = none
  position : ch.device.position = ch.device.writePos
  running : ∀ o, ch.output = some o → o.closed = false
  quiet : ch.closed = true → ch.output = none

variable {ch ch' : Channel Memory}

theorem backlog_eq_zero (h : ch.WriteOnly) : ch.backlog = 0 := by simp [backlog, h.input]

theorem position_flushed_eq {m : Memory} (h : m.position = m.writePos) (sync : Bool)
    (bs : List UInt8) : (m.flushed sync bs).position = (m.flushed sync bs).writePos := by
  rw [Memory.position_flushed, Memory.writePos_flushed]
  split
  · simp_all
  · rfl

theorem WriteOnly.drained (h : ch.WriteOnly) : ch.drained.WriteOnly := by
  unfold Channel.drained
  cases ho : ch.output with
  | none => exact h
  | some o =>
    refine ⟨h.writable, h.unreadable, h.input, position_flushed_eq h.position _ _, ?_, fun hc => ?_⟩
    · rintro o' ⟨⟩
      exact h.running o ho
    · rw [h.quiet hc] at ho
      cases ho

/-- A channel whose memory was sent to a place, if that is within reach. -/
def sought (p : Place) (ch : Channel Memory) : Channel Memory :=
  match Transport.seek p ch.device with
  | (.error _, _) => ch
  | (.ok _, d) => { ch with device := d, ended := false }

theorem settled_moved (hw : ch.waiting = []) (hi : ch.input = none) (d : Memory)
    (f : Input.Chain → Input.Chain) (ended : Bool) (j : List Event) :
    ({ ch with device := d, input := ch.input.map f, ended := ended, journal := j } :
      Channel Memory).settled = { ch.settled with device := d.unforced, ended := ended } := by
  have hstill : ({ ch with device := d, input := ch.input.map f, ended := ended, journal := j } :
      Channel Memory).waiting = [] := hw
  rw [settled, hstill]
  simp [settled, hi]

/-- A memory that was sent somewhere has both cursors there. -/
theorem position_seek {p : Place} {m : Memory} (h : m.position = m.writePos) :
    (Transport.seek p m).2.position = (Transport.seek p m).2.writePos := by
  rcases Memory.seek_cases p m with ⟨e, hq⟩ | hq
  · rw [hq]
    exact h
  · rw [hq]
    exact ite_self _

/-- A seek does to the memory what it does where nothing waits. -/
theorem seek_settled (h : ch.WriteOnly) (hc : ch.closed = false) (p : Place) :
    (ch.seek p).1 = (Transport.seek p ch.settled.device).1.mapError
        (ch.settled.positionError .seek) ∧
      (ch.seek p).2.settled = ch.settled.sought p ∧ (ch.seek p).2.WriteOnly := by
  have hdrained := h.drained
  have hflush := flushOutput_memory ch
  have hwaiting : ch.drained.waiting = [] := (drains_drained ch).waiting
  have hplace : ch.drained.deviceRelative p = p := by
    cases p <;> simp [deviceRelative, backlog_eq_zero hdrained]
  have hdevice : ch.settled.device = ch.drained.device.unforced := by
    rw [← settled_drained, settled, hwaiting, Memory.stored_nil]
  have hlabel : ch.drained.label = ch.settled.label := by
    rw [← settled_drained, label_settled]
  have hposition := position_seek (p := p) hdrained.position
  have hseek := Memory.seek_unforced p ch.drained.device
  rw [← hdevice] at hseek
  rcases hq : Transport.seek p ch.drained.device with ⟨e | n, d⟩
  all_goals
    rw [hq] at hseek hposition
    rw [← hplace] at hq
  · have hd : d = ch.drained.device := by
      rcases Memory.seek_cases p ch.drained.device with ⟨e', hsame⟩ | hmoved
      · rw [← hplace, hq] at hsame
        exact congrArg Prod.snd hsame
      · rw [← hplace, hq] at hmoved
        cases hmoved
    rw [seek_eq_error hc hflush hq, hseek, hd, sought, hseek]
    refine ⟨?_, settled_drained ch, hdrained⟩
    simp [positionError, hlabel, Except.mapError]
  · obtain ⟨j, hj⟩ := seek_eq hc hflush hq
    rw [hj, hseek, sought, hseek, settled_moved hwaiting hdrained.input, settled_drained]
    refine ⟨rfl, rfl, hdrained.writable, hdrained.unreadable, by simp [hdrained.input], hposition,
      hdrained.running, hdrained.quiet⟩

theorem WriteOnly.note (h : ch.WriteOnly) (e : Event) : (ch.note e).WriteOnly :=
  ⟨h.writable, h.unreadable, h.input, h.position, h.running, h.quiet⟩

/-- The channel where a write begins if nothing waits. -/
def approached (ch : Channel Memory) : Channel Memory :=
  if ch.mode.isAppend then ch.sought (.fromEnd 0) else ch

theorem aimed_settled (h : ch.WriteOnly) (hc : ch.closed = false) :
    ch.aimed.settled = ch.settled.approached ∧ ch.aimed.WriteOnly := by
  obtain ⟨-, hend, hwriteOnly⟩ := seek_settled h hc (.fromEnd 0)
  have hmode : ch.settled.mode = ch.mode := rfl
  rw [aimed, approached, hmode]
  split
  · unfold seekToEnd
    rcases hq : ch.seek (.fromEnd 0) with ⟨e | n, ch₁⟩
    all_goals
      rw [hq] at hend hwriteOnly
    · exact ⟨hend, hwriteOnly.note _⟩
    · exact ⟨hend, hwriteOnly⟩
  · exact ⟨rfl, h⟩

/-- A channel whose memory was written to without delay, unless that is refused. -/
def inscribed (p : Payload) (ch : Channel Memory) : Channel Memory :=
  match ch.checkWrite with
  | .error _ => ch
  | .ok () =>
    let o := ch.approached.outputSide
    let inked := o.encode (Output.translate o.translation p.chars)
    { ch.approached with
      output := some inked.direct
      device := ch.approached.device.stored inked.buffer }

/-- Whether a write sends off what waits or not, the memory comes to the same. -/
theorem write_settled (h : ch.WriteOnly) (p : Payload) :
    (ch.write p).2.settled = ch.settled.inscribed p ∧ (ch.write p).2.WriteOnly := by
  rw [inscribed, checkWrite_settled]
  rcases hcheck : ch.checkWrite with e | _
  · have hrefused : (ch.write p).2 = ch := by simp [Channel.write, hcheck]
    rw [hrefused]
    exact ⟨rfl, h⟩
  have hc : ch.closed = false := by
    cases hclosed : ch.closed with
    | false => rfl
    | true => simp [checkWrite, hclosed] at hcheck
  obtain ⟨haimed, hwriteOnly⟩ := aimed_settled h hc
  obtain ⟨sent, kept, j, hall, hwrite⟩ := write_memory hcheck p
  have hside : ch.settled.approached.outputSide = ch.aimed.outputSide.direct := by
    rw [← haimed, outputSide_settled]
  rw [hwrite, hside, ← haimed]
  have hopen : ch.aimed.closed = false := by
    unfold aimed
    split
    · exact (seekToEnd_drains hc).closed.trans hc
    · exact hc
  generalize ch.aimed = start at *
  refine ⟨?_, hwriteOnly.writable, hwriteOnly.unreadable, hwriteOnly.input,
    position_flushed_eq hwriteOnly.position _ _, ?_, fun hclosed => absurd hclosed (by simp [hopen])⟩
  · have hink : sent ++ kept = start.waiting ++ (start.outputSide.direct.encode
        (Output.translate start.outputSide.translation p.chars)).buffer := by
      rw [hall, ← buffer_outputSide]
      rfl
    have hdevice : ((start.device.flushed start.outputSide.sync sent).stored kept).unforced =
        start.settled.device.stored (start.outputSide.direct.encode
          (Output.translate start.outputSide.translation p.chars)).buffer := by
      rw [Memory.unforced_stored_flushed, hink, ← Memory.stored_stored, ← Memory.stored_unforced]
      rfl
    simp only [settled, waiting, Option.map_some, Option.getD_some] at hdevice ⊢
    rw [hdevice]
    rfl
  · rintro o ⟨⟩
    exact outputSide_of (P := (·.closed = false)) rfl hwriteOnly.running

theorem flush_settled (h : ch.WriteOnly) :
    ch.flush.2.settled = ch.settled ∧ ch.flush.2.WriteOnly ∧ ch.flush.2.waiting = [] := by
  by_cases hc : ch.closed = true
  · have hrefused : ch.flush.2 = ch := by simp [flush, checkOpen, hc]
    rw [hrefused]
    exact ⟨rfl, h, by simp [waiting, h.quiet hc]⟩
  · have hflush : ch.flush.2 = ch.drained := by
      simp [flush, checkOpen, hc, h.writable, flushOutput_memory]
    rw [hflush]
    exact ⟨settled_drained ch, h.drained, (drains_drained ch).waiting⟩

theorem ending_settled (ch : Channel Memory) : ch.settled.ending = ch.ending := by
  unfold ending settled
  cases ch.output <;> rfl

/-- A channel that was closed, with what that puts down. -/
def expired (ch : Channel Memory) : Channel Memory :=
  if ch.closed then ch
  else { ch with
    closed := true
    output := none
    device := (Transport.close (ch.device.stored ch.ending)).2 }

theorem close_settled (h : ch.WriteOnly) :
    ch.close.2.settled = ch.settled.expired ∧ ch.close.2.WriteOnly ∧ ch.close.2.waiting = [] := by
  by_cases hc : ch.closed = true
  · have hrefused : ch.close.2 = ch := by simp [close, hc]
    have hexpired : ch.settled.expired = ch.settled := if_pos hc
    rw [hrefused, hexpired]
    exact ⟨rfl, h, by simp [waiting, h.quiet hc]⟩
  · obtain ⟨sync, j, hclose⟩ := close_memory (Bool.eq_false_iff.2 hc) h.writable h.running
    have hdevice : (ch.device.flushed sync (ch.waiting ++ ch.ending)).unforced =
        ch.settled.device.stored ch.ending := by
      rw [Memory.unforced_flushed, ← Memory.stored_stored, ← Memory.stored_unforced]
      rfl
    have hexpired : ch.settled.expired = { ch.settled with
        closed := true
        output := none
        device := (Transport.close (ch.settled.device.stored ch.ending)).2 } := by
      rw [expired, ending_settled]
      exact if_neg hc
    rw [hclose, hexpired, ← hdevice]
    refine ⟨?_, ⟨h.writable, h.unreadable, rfl, position_flushed_eq h.position _ _, by simp,
      fun _ => rfl⟩, rfl⟩
    dsimp only
    rw [settled, Channel.mk.injEq]
    exact ⟨congrArg Memory.unforced (Memory.stored_nil _), rfl, rfl, rfl, rfl, rfl, rfl,
      h.input.symm, rfl, rfl⟩

/-- A setting that is handed on. What that puts down is the same whatever waits. -/
theorem configure_settled {s : Settings → Settings} {f : Input.Chain → Input.Chain}
    {g : Output → Output} (hs : ∀ s', (s s').direct = (s s'.direct).direct)
    (hg : ∀ o, (g o).direct = (g o.direct).direct)
    (hbuffer : ∀ o, (g o).buffer = o.buffer ++ (g o.direct).buffer) :
    (ch.configure s f g).settled = (ch.settled.configure s f g).settled := by
  have hwaiting : (ch.configure s f g).waiting =
      ch.waiting ++ (ch.settled.configure s f g).waiting := by
    cases ho : ch.output with
    | none => simp [waiting, configure, settled, ho]
    | some o => simpa [waiting, configure, settled, ho] using hbuffer o
  have houtput : (ch.output.map g).map Output.direct =
      ((ch.output.map Output.direct).map g).map Output.direct := by
    cases ch.output with
    | none => rfl
    | some o => exact congrArg some (hg o)
  have hdevice : (ch.device.stored (ch.configure s f g).waiting).unforced =
      (((ch.device.stored ch.waiting).unforced).stored
        (ch.settled.configure s f g).waiting).unforced := by
    rw [hwaiting, ← Memory.stored_stored, Memory.stored_unforced]
    rfl
  rw [settled, settled, Channel.mk.injEq]
  exact ⟨hdevice, rfl, hs _, rfl, rfl, rfl, rfl, rfl, houtput, rfl⟩

theorem WriteOnly.configure (h : ch.WriteOnly) (s : Settings → Settings)
    (f : Input.Chain → Input.Chain) {g : Output → Output} (hg : ∀ o, (g o).closed = o.closed) :
    (ch.configure s f g).WriteOnly := by
  refine ⟨h.writable, h.unreadable, by simp [Channel.configure, h.input], h.position, ?_,
    fun hc => by simp [Channel.configure, h.quiet hc]⟩
  intro o ho
  obtain ⟨o', ho', rfl⟩ := Option.map_eq_some_iff.1 ho
  exact (hg o').trans (h.running o' ho')

theorem writeOnly_opened {m : Memory} {mode : OpenMode} (hw : mode.isWritable = true)
    (hr : mode.isReadable = false) (hm : m.position = m.writePos) (s : Settings) :
    (opened m mode s).WriteOnly :=
  ⟨hw, hr, rfl, hm, by simp [opened, init], fun _ => rfl⟩

theorem WriteOnly.adjusted {op : Op} (h : ch.WriteOnly) (hset : Adjusted ch op ch') :
    ch'.WriteOnly := by
  cases hset with
  | ignored => exact h
  | inputMarker m hreadable => cases h.unreadable.symm.trans hreadable
  | _ => exact h.configure _ _ fun _ => rfl

theorem WriteOnly.perform (h : ch.WriteOnly) (op : Op) : (op.perform ch).WriteOnly := by
  by_cases hop : op.isSetting = true
  · exact h.adjusted (op.adjusted hop ch)
  cases op with
  | write p => exact (write_settled h p).2
  | read kind dst =>
    have hrefused : (read kind dst ch).2 = ch := by
      cases hc : ch.closed <;> simp [Channel.read, checkRead, hc, h.unreadable]
    rw [Op.perform, hrefused]
    exact h
  | flush => exact (flush_settled h).2.1
  | seek p =>
    by_cases hc : ch.closed = true
    · have hrefused : (ch.seek p).2 = ch := by simp [Channel.seek, checkOpen, hc]
      rw [Op.perform, hrefused]
      exact h
    · exact (seek_settled h (Bool.eq_false_iff.2 hc) p).2.2
  | close => exact (close_settled h).2.1
  | _ => exact absurd rfl hop

/-- To say how much is to be gathered puts nothing down. -/
theorem settled_pace (h : ch.WriteOnly) {op : Op} (hop : op.isPace = true) :
    (op.perform ch).settled = ch.settled := by
  have hsame : ∀ (s : Settings → Settings) (f : Input.Chain → Input.Chain) (g : Output → Output),
      (∀ s', (s s').direct = s'.direct) → (∀ o, (g o).direct = o.direct) →
      (∀ o, (g o).buffer = o.buffer) → (ch.configure s f g).settled = ch.settled := by
    intro s f g hs hg hbuffer
    rw [settled, settled, Channel.mk.injEq]
    cases ho : ch.output <;> simp [configure, waiting, ho, hs, hg, hbuffer, h.input]
  cases op with
  | setBufferSize size =>
    simp only [Op.perform, Channel.setBufferSize]
    split
    · exact hsame _ _ _ (fun _ => rfl) (fun _ => rfl) fun _ => rfl
    · rfl
  | setBuffering b => exact hsame _ _ _ (fun _ => rfl) (fun _ => rfl) fun _ => rfl
  | _ => cases hop

/-- What a call does to a channel shows from what it does to the settled one. -/
theorem settled_perform (h : ch.WriteOnly) (h' : ch'.WriteOnly) (heq : ch.settled = ch'.settled)
    (op : Op) : (op.perform ch).settled = (op.perform ch').settled := by
  have hclosed : ch.settled.closed = ch'.settled.closed := by rw [heq]
  change ch.closed = ch'.closed at hclosed
  have hset : ∀ (s : Settings → Settings) (f : Input.Chain → Input.Chain) (g : Output → Output),
      (∀ s', (s s').direct = (s s'.direct).direct) → (∀ o, (g o).direct = (g o.direct).direct) →
      (∀ o, (g o).buffer = o.buffer ++ (g o.direct).buffer) →
      (ch.configure s f g).settled = (ch'.configure s f g).settled := by
    intro s f g hs hg hbuffer
    exact ((configure_settled hs hg hbuffer).trans (by rw [heq])).trans
      (configure_settled hs hg hbuffer).symm
  have hencoding : ∀ e, (ch.setEncodingTo e).settled = (ch'.setEncodingTo e).settled := fun e =>
    hset _ _ _ (fun _ => rfl) (fun _ => rfl) fun _ => rfl
  cases op with
  | write p => exact ((write_settled h p).1.trans (by rw [heq])).trans (write_settled h' p).1.symm
  | read kind dst =>
    have hrefused : ∀ {ch : Channel Memory}, ch.WriteOnly → (read kind dst ch).2 = ch := by
      intro ch h
      cases hc : ch.closed <;> simp [Channel.read, checkRead, hc, h.unreadable]
    rw [Op.perform, Op.perform, hrefused h, hrefused h']
    exact heq
  | flush => exact ((flush_settled h).1.trans heq).trans (flush_settled h').1.symm
  | seek p =>
    by_cases hc : ch.closed = true
    · simpa [Op.perform, Channel.seek, checkOpen, hc, ← hclosed] using heq
    · have hopen := Bool.eq_false_iff.2 hc
      exact ((seek_settled h hopen p).2.1.trans (by rw [heq])).trans
        (seek_settled h' (hclosed ▸ hopen) p).2.1.symm
  | close => exact ((close_settled h).1.trans (by rw [heq])).trans (close_settled h').1.symm
  | setEncoding name =>
    simp only [Op.perform, Channel.setEncoding]
    cases name with
    | none => exact hencoding _
    | some name =>
      dsimp only
      cases Encoding.lookup? name with
      | some e => exact hencoding e
      | none => exact heq
  | setBufferSize size =>
    exact ((settled_pace h rfl).trans heq).trans (settled_pace h' rfl).symm
  | setBuffering b => exact ((settled_pace h rfl).trans heq).trans (settled_pace h' rfl).symm
  | setBlocking b => exact hset _ _ _ (fun _ => rfl) (fun _ => rfl) fun o => (List.append_nil _).symm
  | setInputTranslation t | setInputMarker t =>
    simpa [Op.perform, Channel.setInputTranslation, Channel.setInputMarker, h.unreadable,
      h'.unreadable] using heq
  | setOutputTranslation t | setOutputMarker t =>
    simp only [Op.perform, Channel.setOutputTranslation, Channel.setOutputMarker, h.writable,
      h'.writable, if_true]
    exact hset _ _ _ (fun _ => rfl) (fun _ => rfl) fun o => (List.append_nil _).symm

/-- So it is with a run, whatever is said on the way about how much is to be gathered. -/
theorem settled_after (h : ch.WriteOnly) (h' : ch'.WriteOnly) (heq : ch.settled = ch'.settled)
    (ops : List Op) :
    (after ops ch).WriteOnly ∧ (after (ops.filter fun op => !op.isPace) ch').WriteOnly ∧
      (after ops ch).settled = (after (ops.filter fun op => !op.isPace) ch').settled := by
  induction ops generalizing ch ch' with
  | nil => exact ⟨h, h', heq⟩
  | cons op ops ih =>
    by_cases hop : op.isPace = true
    · rw [List.filter_cons_of_neg (by simp [hop])]
      exact ih (h.perform op) h' ((settled_pace h hop).trans heq)
    · rw [List.filter_cons_of_pos (by simp [hop])]
      exact ih (h.perform op) (h'.perform op) (settled_perform h h' heq op)

/-- The two channels cannot be told apart from outside. Positions are signed 64-bit numbers. -/
structure SeemsAs (ch ch' : Channel Memory) : Prop where
  seek (p : Place) : (ch.seek p).1 = (ch'.seek p).1
  tell : ch.tell.map Int64.ofInt = ch'.tell.map Int64.ofInt
  flushed : ch.flush.2.device.bytes = ch'.flush.2.device.bytes
  sought (p : Place) : (ch.seek p).2.device.bytes = (ch'.seek p).2.device.bytes
  closed : ch.close.2.device.bytes = ch'.close.2.device.bytes

/-- With nothing waiting the memory is as it will be. -/
theorem bytes_settled (h : ch.waiting = []) : ch.settled.device.bytes = ch.device.bytes := by
  rw [settled, h, Memory.stored_nil]
  rfl

/-- What waits counts as written in the position. -/
theorem tell_settled (h : ch.WriteOnly) :
    ch.tell.map Int64.ofInt = ch.settled.tell.map Int64.ofInt := by
  by_cases hc : ch.closed = true
  · have hsame : ch.settled.closed = true := hc
    simp [tell, checkOpen, hc, hsame, label_settled]
  have htell : ∀ ch : Channel Memory, ch.closed = false → ch.input = none → ch.tell =
      .ok (Int.bmod ch.device.position UInt64.size + ch.waiting.length) := by
    intro ch hc hi
    have hbuffered : ch.bufferedOutput = ch.waiting.length := by
      cases ho : ch.output <;> simp [bufferedOutput, waiting, ho]
    simp [tell, checkOpen, hc, Transport.tell, backlog, hi, hbuffered]
  have hposition : ch.settled.device.position = ch.device.position + ch.waiting.length := by
    change (ch.device.stored ch.waiting).position = _
    rw [Memory.position_stored, ← h.position]
    split
    · simp_all
    · rfl
  rw [htell ch (Bool.eq_false_iff.2 hc) h.input,
    htell ch.settled (Bool.eq_false_iff.2 hc) h.input, waiting_settled, hposition]
  have hwraps : Int64.ofInt (Int.bmod ch.device.position UInt64.size + ch.waiting.length) =
      Int64.ofInt (Int.bmod ↑(ch.device.position + ch.waiting.length) UInt64.size) := by
    apply Int64.toInt_inj.1
    rw [Int64.toInt_ofInt, Int64.toInt_ofInt]
    simp [UInt64.size, Int64.size]
  simp [Except.map, hwraps]

theorem seemsAs_of_settled (h : ch.WriteOnly) (h' : ch'.WriteOnly)
    (heq : ch.settled = ch'.settled) : SeemsAs ch ch' := by
  have hclosed : ch.settled.closed = ch'.settled.closed := by rw [heq]
  change ch.closed = ch'.closed at hclosed
  have hquiet : ∀ {ch : Channel Memory}, ch.WriteOnly → ∀ p, (ch.seek p).2.waiting = [] := by
    intro ch h p
    by_cases hc : ch.closed = true
    · have hrefused : (ch.seek p).2 = ch := by simp [Channel.seek, checkOpen, hc]
      rw [hrefused, waiting, h.quiet hc]
      rfl
    · exact (seek_drains (Bool.eq_false_iff.2 hc) p).waiting
  refine ⟨fun p => ?_, ?_, ?_, fun p => ?_, ?_⟩
  · have hlabel : ch.label = ch'.label := by rw [← label_settled, heq, label_settled]
    by_cases hc : ch.closed = true
    · simp [Channel.seek, checkOpen, hc, ← hclosed, hlabel]
    · have hopen := Bool.eq_false_iff.2 hc
      rw [(seek_settled h hopen p).1, (seek_settled h' (hclosed ▸ hopen) p).1, heq]
  · rw [tell_settled h, tell_settled h', heq]
  · obtain ⟨hflush, -, hwaiting⟩ := flush_settled h
    obtain ⟨hflush', -, hwaiting'⟩ := flush_settled h'
    rw [← bytes_settled hwaiting, ← bytes_settled hwaiting', hflush, hflush', heq]
  · rw [← bytes_settled (hquiet h p), ← bytes_settled (hquiet h' p)]
    exact congrArg (·.device.bytes) (settled_perform h h' heq (.seek p))
  · obtain ⟨hclose, -, hwaiting⟩ := close_settled h
    obtain ⟨hclose', -, hwaiting'⟩ := close_settled h'
    rw [← bytes_settled hwaiting, ← bytes_settled hwaiting', hclose, hclose', heq]

/-- After any calls of a channel that is only written, where it is, where it can be sent, and what the
memory has once it is brought up to date is as if nothing was ever gathered. The memory's position is to be
that of its write cursor (`hm`), as it is if the memory is new, or was sought or written last. One that was
read last, through another handle, tells its read cursor until bytes reach it, and gathering delays them. -/
theorem gathering_unseen {m : Memory} {mode : OpenMode} (hw : mode.isWritable = true)
    (hr : mode.isReadable = false) (hm : m.position = m.writePos) (s : Settings) (ops : List Op) :
    SeemsAs (after ops (opened m mode s))
      (after (ops.filter fun op => !op.isPace) (opened m mode { s with buffering := .none })) := by
  have h := fun s => writeOnly_opened hw hr hm s
  obtain ⟨hrun, hrun', heq⟩ := settled_after (h s) (h { s with buffering := .none }) rfl ops
  exact seemsAs_of_settled hrun hrun' heq

/-- A character of two bytes is sent off since two are to be gathered by then, and the last one waits. -/
theorem gathering_unseen_behind_seek :
    let start (b : Buffering) : Channel Memory :=
      opened (Memory.ofBytes [0x78, 0x79, 0x7A]) ⟨2⟩ { Settings.default with buffering := b }
    let ops : List Op := [.write (.text ['a', 'b']), .seek (.fromCurrent (-1)), .setBufferSize 2,
      .write (.text ['é']), .setBuffering .line, .write (.text ['c'])]
    let kept : List Op := ops.filter fun op => !op.isPace
    SeemsAs (after ops (start .full)) (after kept (start .none)) ∧
      (after ops (start .full)).waiting = [0x63] ∧ (after kept (start .none)).waiting = [] ∧
      (after ops (start .full)).close.2.device.bytes = [0x61, 0xC3, 0xA9, 0x63] := by
  intro start ops kept
  exact ⟨gathering_unseen (by decide) (by decide) rfl _ ops, by decide, by decide, by decide⟩

end Channel

end ScriptChannel
