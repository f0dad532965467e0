import Mathlib.Data.List.Induction
import Mathlib.Data.List.Infix
import ScriptChannel.Channel.Configure
import ScriptChannel.Proofs.Channel.Fresh
import ScriptChannel.Proofs.Channel.Stored

/-!
# Appending to a memory

A channel that was opened for appending goes to the end before every write, and what is written waits
there: a seek in between sends it off first. So it lands behind everything else. The end of an
encoding and the end marker are not written but put into the buffer where the cursor is, and if
nothing waits there that need not be the end.
-/

namespace ScriptChannel.Channel
open Transport

/-- A call of a channel. -/
inductive Op
  | write (p : Payload)
  | read (kind : ReadKind) (dst : Data)
  | flush
  | seek (p : Place)
  | close
  | setEncoding (name : Option String)
  | setBufferSize (size : Nat)
  | setBuffering (b : Buffering)
  | setBlocking (blocking : Bool)
  | setInputTranslation (t : Translation)
  | setOutputTranslation (t : Translation)
  | setInputMarker (marker : UInt8)
  | setOutputMarker (marker : UInt8)
  deriving DecidableEq, Repr

/-- It only says in what pieces bytes are to be moved. -/
def Op.isPace : Op → Bool
  | setBufferSize _ | setBuffering _ => true
  | _ => false

/-- The channel after a call, whatever it answered. -/
def Op.perform {δ : Type} [Transport δ] : Op → Channel δ → Channel δ
  | write p, ch => (ch.write p).2
  | read kind dst, ch => (Channel.read kind dst ch).2
  | flush, ch => ch.flush.2
  | seek p, ch => (ch.seek p).2
  | close, ch => ch.close.2
  | setEncoding name, ch => (ch.setEncoding name).2
  | setBufferSize size, ch => (ch.setBufferSize size).2
  | setBuffering b, ch => ch.setBuffering b
  | setBlocking blocking, ch => ch.setBlocking blocking
  | setInputTranslation t, ch => ch.setInputTranslation t
  | setOutputTranslation t, ch => ch.setOutputTranslation t
  | setInputMarker marker, ch => ch.setInputMarker marker
  | setOutputMarker marker, ch => ch.setOutputMarker marker

/-- It only changes settings. -/
def Op.isSetting : Op → Bool
  | write _ | read _ _ | flush | seek _ | close => false
  | _ => true

/-- What a call that only changes settings makes of a channel. One that is refused, or is for a
direction that the channel is not open for, changes nothing. -/
inductive Adjusted {δ : Type} (ch : Channel δ) : Op → Channel δ → Prop
  | ignored {op : Op}
      (h : ∀ name, op = .setEncoding name → ∃ e, (ch.setEncoding name).1 = .error e) :
      Adjusted ch op ch
  | encoding {name : Option String} (e : Encoding) (h : (ch.setEncoding name).1 = .ok ()) :
      Adjusted ch (.setEncoding name) (ch.setEncodingTo e)
  | bufferSize (size : Nat) : Adjusted ch (.setBufferSize size)
      (ch.configure ({ · with bufferSize := size })
        (fun c => { c with readAhead := { c.readAhead with size := size } }) ({ · with size := size }))
  | buffering (b : Buffering) : Adjusted ch (.setBuffering b) (ch.setBuffering b)
  | blocking (b : Bool) : Adjusted ch (.setBlocking b) (ch.setBlocking b)
  | inputTranslation (t : Translation) : Adjusted ch (.setInputTranslation t)
      (ch.configure ({ · with inputTranslation := t })
        (fun c => { c with lines := c.lines.setTranslation t }) id)
  | outputTranslation (t : Translation) : Adjusted ch (.setOutputTranslation t)
      (ch.configure ({ · with outputTranslation := t }) id ({ · with translation := t }))
  | inputMarker (m : UInt8) (h : ch.mode.isReadable = true) : Adjusted ch (.setInputMarker m)
      { ch.configure ({ · with inputMarker := m }) (Input.Chain.rescan ch.settings.encoding m) id with
        ended := false }
  | outputMarker (m : UInt8) : Adjusted ch (.setOutputMarker m)
      (ch.configure ({ · with outputMarker := m }) id ({ · with marker := m }))

theorem Op.adjusted {δ : Type} [Transport δ] {op : Op} (hop : op.isSetting = true) (ch : Channel δ) :
    Adjusted ch op (op.perform ch) := by
  have hkept : ∀ {op : Op}, (∀ name, op ≠ .setEncoding name) → Adjusted ch op ch :=
    fun hne => .ignored fun name hname => absurd hname (hne name)
  cases op with
  | write | read | flush | seek | close => cases hop
  | setEncoding name =>
    cases name with
    | none => exact .encoding _ rfl
    | some name =>
      cases hname : Encoding.lookup? name with
      | some e =>
        simp only [perform, Channel.setEncoding, hname]
        exact .encoding e (by simp [Channel.setEncoding, hname])
      | none =>
        simp only [perform, Channel.setEncoding, hname]
        refine .ignored fun name' hsame => ?_
        cases hsame
        exact ⟨.unknownEncoding name, by simp [Channel.setEncoding, hname]⟩
  | setBufferSize size =>
    simp only [perform, Channel.setBufferSize]
    split
    · exact .bufferSize size
    · exact hkept nofun
  | setBuffering b => exact .buffering b
  | setBlocking b => exact .blocking b
  | setInputTranslation t =>
    simp only [perform, Channel.setInputTranslation]
    split
    · exact .inputTranslation t
    · exact hkept nofun
  | setOutputTranslation t =>
    simp only [perform, Channel.setOutputTranslation]
    split
    · exact .outputTranslation t
    · exact hkept nofun
  | setInputMarker m =>
    simp only [perform, Channel.setInputMarker]
    split
    · exact hkept nofun
    · rename_i hguard
      simp only [Bool.or_eq_true, Bool.not_eq_true', not_or, Bool.not_eq_false] at hguard
      exact .inputMarker m hguard.1
  | setOutputMarker m =>
    simp only [perform, Channel.setOutputMarker]
    split
    · exact .outputMarker m
    · exact hkept nofun

theorem Adjusted.steady {δ : Type} {ch ch' : Channel δ} {op : Op} (h : Adjusted ch op ch') :
    ch'.mode = ch.mode ∧ ch'.closed = ch.closed ∧ ch'.device = ch.device := by
  cases h <;> exact ⟨rfl, rfl, rfl⟩

/-- The channel after some calls. -/
def after {δ : Type} [Transport δ] (ops : List Op) (ch : Channel δ) : Channel δ :=
  ops.foldl (fun ch op => op.perform ch) ch

/-- What the encoding is ended with, if it is given up now. -/
def tail {δ : Type} (ch : Channel δ) : List UInt8 := (ch.output.map (·.encoder.finish.1)).getD []

/-- The bytes that a call sends to where the cursor is. -/
def Op.sends {δ : Type} : Op → Channel δ → List UInt8
  | write _, ch => if ch.settings.blocking then ch.waiting else []
  | read _ _, ch => if ch.mode.isReadable && !ch.ended then ch.waiting else []
  | flush, ch | seek _, ch => ch.waiting
  | close, ch => ch.waiting ++ ch.ending
  | _, _ => []

/-- A channel that can be written to at the end. Its output side is taken down when it is closed. -/
structure Appends (ch : Channel Memory) : Prop where
  writable : ch.mode.isWritable = true
  append : ch.mode.isAppend = true
  running : ∀ o, ch.output = some o → o.closed = false
  quiet : ch.closed = true → ch.output = none

/-- What waits will land at the end or behind it. -/
def Safe (ch : Channel Memory) : Prop :=
  ch.waiting = [] ∨ ch.device.bytes.length ≤ ch.device.writePos

/-- What a call does to the memory and to what waits. -/
structure Performs (op : Op) (ch ch' : Channel Memory) : Prop where
  appends : ch'.Appends
  sends : ∃ more, ch'.device.bytes = (ch.device.stored (op.sends ch)).bytes ++ more
  safe : ch.Safe → ch.tail = [] ∨ (∀ name, op ≠ .setEncoding name) → ch'.Safe

theorem Drains.appends {ch ch' : Channel Memory} (hd : Drains ch ch') (h : ch.Appends) :
    ch'.Appends where
  writable := by rw [hd.mode, h.writable]
  append := by rw [hd.mode, h.append]
  running o ho := by
    rw [hd.output, Option.map_eq_some_iff] at ho
    obtain ⟨o', ho', rfl⟩ := ho
    exact h.running o' ho'
  quiet hc := by
    rw [hd.output, h.quiet (hd.closed ▸ hc)]
    rfl

theorem Drains.performs {ch ch' : Channel Memory} (hd : Drains ch ch') (h : ch.Appends) {op : Op}
    (hop : op.sends ch = ch.waiting) : Performs op ch ch' where
  appends := hd.appends h
  sends := ⟨[], by rw [hop, List.append_nil, hd.bytes]⟩
  safe _ _ := .inl hd.waiting

/-- A call that is refused, or has nothing to do with the output. -/
theorem performs_refl {ch : Channel Memory} (h : ch.Appends) {op : Op} (hop : op.sends ch = []) :
    Performs op ch ch where
  appends := h
  sends := ⟨[], by simp [hop]⟩
  safe hs _ := hs

/-- On a channel that is closed nothing waits. -/
theorem Appends.waiting_of_closed {ch : Channel Memory} (h : ch.Appends) (hc : ch.closed = true) :
    ch.waiting = [] := by
  rw [waiting, h.quiet hc]
  rfl

theorem performs_seek {ch : Channel Memory} (h : ch.Appends) (p : Place) :
    Performs (.seek p) ch (ch.seek p).2 := by
  by_cases hc : ch.closed = true
  · have hrefused : (ch.seek p).2 = ch := by simp [seek, checkOpen, hc]
    rw [hrefused]
    exact performs_refl h (h.waiting_of_closed hc)
  · exact (seek_drains (Bool.eq_false_iff.2 hc) p).performs h rfl

theorem performs_flush {ch : Channel Memory} (h : ch.Appends) : Performs .flush ch ch.flush.2 := by
  by_cases hc : ch.closed = true
  · have hrefused : ch.flush.2 = ch := by simp [flush, checkOpen, hc]
    rw [hrefused]
    exact performs_refl h (h.waiting_of_closed hc)
  · have hflush : ch.flush.2 = ch.drained := by
      simp [flush, checkOpen, hc, h.writable, flushOutput_memory]
    rw [hflush]
    exact (drains_drained ch).performs h rfl

/-- A read that is not answered at once sends off what waits. -/
theorem performs_read {ch : Channel Memory} (h : ch.Appends) (kind : ReadKind) (dst : Data) :
    Performs (.read kind dst) ch (ch.read kind dst).2 := by
  by_cases hc : ch.closed = true
  · have hrefused : (ch.read kind dst).2 = ch := by simp [read, checkRead, hc]
    rw [hrefused]
    exact performs_refl h (by simp [Op.sends, h.waiting_of_closed hc])
  · rw [Bool.not_eq_true] at hc
    by_cases hr : ch.mode.isReadable = true ∧ ch.ended = false
    · refine (read_drains hc hr.1 h.writable hr.2 kind dst).performs h ?_
      simp [Op.sends, hr]
    · have hrefused : (ch.read kind dst).2 = ch := by
        cases hm : ch.mode.isReadable with
        | false => simp [read, checkRead, hc, hm]
        | true => simp_all [read, checkRead]
      rw [hrefused]
      refine performs_refl h ?_
      cases hm : ch.mode.isReadable <;> simp_all [Op.sends]

/-- A write goes to the end, and leaves the cursor there or in front of what it keeps back. -/
theorem performs_write {ch : Channel Memory} (h : ch.Appends) (p : Payload)
    (hsize : (ch.write p).2.device.bytes.length < UInt64.size) :
    Performs (.write p) ch (ch.write p).2 := by
  by_cases hc : ch.closed = true
  · have hrefused : (ch.write p).2 = ch := by simp [write, checkWrite, hc]
    rw [hrefused]
    exact performs_refl h (by simp [Op.sends, h.waiting_of_closed hc])
  rw [Bool.not_eq_true] at hc
  by_cases hb : ch.settings.blocking = true
  · have haimed : ch.aimed = ch.seekToEnd := if_pos h.append
    have hdrains := seekToEnd_drains hc
    have happends := hdrains.appends h
    have hcheck : ch.checkWrite = .ok () := by simp [checkWrite, hc, h.writable, hb]
    obtain ⟨sent, kept, j, -, hwrite⟩ := write_memory hcheck p
    rw [haimed] at hwrite
    rw [hwrite] at hsize ⊢
    have hlt : (ch.device.stored ch.waiting).bytes.length < UInt64.size := by
      have hle := Memory.length_le_stored sent ch.seekToEnd.device
      rw [← hdrains.bytes]
      rw [Memory.bytes_flushed] at hsize
      omega
    have hend : ch.seekToEnd.device.bytes.length = ch.seekToEnd.device.writePos :=
      (writePos_seekToEnd hc hlt).symm
    refine ⟨⟨happends.writable, happends.append, ?_, ?_⟩, ⟨sent, ?_⟩, fun _ _ => .inr ?_⟩
    · rintro o ⟨⟩
      exact outputSide_of (P := (·.closed = false)) rfl happends.running
    · intro hclosed
      rw [hdrains.closed, hc] at hclosed
      cases hclosed
    · simp [Op.sends, hb, Memory.bytes_stored_of_end hend, hdrains.bytes]
    · simp [Memory.bytes_stored_of_end hend, hend]
  · have hrefused : (ch.write p).2 = ch := by simp [write, checkWrite, hc, h.writable, hb]
    rw [hrefused]
    exact performs_refl h (by simp [Op.sends, hb])

/-- Closing sends the ending off behind what waits, wherever the cursor is. -/
theorem performs_close {ch : Channel Memory} (h : ch.Appends) : Performs .close ch ch.close.2 := by
  by_cases hc : ch.closed = true
  · have hrefused : ch.close.2 = ch := by simp [close, hc]
    have hnone := h.quiet hc
    rw [hrefused]
    exact performs_refl h (by simp [Op.sends, h.waiting_of_closed hc, ending, hnone, hc])
  · obtain ⟨sync, j, hclose⟩ := close_memory (Bool.eq_false_iff.2 hc) h.writable h.running
    rw [hclose]
    refine ⟨⟨h.writable, h.append, by simp, fun _ => rfl⟩, ⟨[], ?_⟩, fun _ _ => .inl rfl⟩
    rw [List.append_nil]
    exact Memory.bytes_flushed sync _ ch.device

/-- A setting leaves the memory alone. What waits is added to only by ending an encoding. -/
theorem performs_configure {ch ch' : Channel Memory} (h : ch.Appends) {op : Op}
    (hop : op.sends ch = []) (hdevice : ch'.device = ch.device) (hmode : ch'.mode = ch.mode)
    (hclosed : ch'.closed = ch.closed) {f : Output → Output}
    (houtput : ch'.output = ch.output.map f) (hf : ∀ o, (f o).closed = o.closed)
    (hbuffer : ∀ o, ch.output = some o → ch.tail = [] ∨ (∀ name, op ≠ .setEncoding name) →
      (f o).buffer = o.buffer) : Performs op ch ch' where
  appends :=
    { writable := by rw [hmode, h.writable]
      append := by rw [hmode, h.append]
      running := by
        intro o ho
        rw [houtput, Option.map_eq_some_iff] at ho
        obtain ⟨o', ho', rfl⟩ := ho
        rw [hf, h.running o' ho']
      quiet := fun hc => by rw [houtput, h.quiet (hclosed ▸ hc), Option.map_none] }
  sends := ⟨[], by simp [hop, hdevice]⟩
  safe := by
    intro hsafe htail
    have hwaiting : ch'.waiting = ch.waiting := by
      rw [waiting, waiting, houtput]
      cases ho : ch.output with
      | none => rfl
      | some o => simp [hbuffer o ho htail]
    rwa [Safe, hwaiting, hdevice]

theorem Adjusted.performs {ch ch' : Channel Memory} {op : Op} (h : ch.Appends)
    (hset : Adjusted ch op ch') (hop : op.isSetting = true) : Performs op ch ch' := by
  have hsends : op.sends ch = [] := by
    cases op <;> first | rfl | cases hop
  cases hset with
  | ignored => exact performs_refl h hsends
  | encoding e _ =>
    refine performs_configure h rfl rfl rfl rfl rfl (fun _ => rfl) ?_
    rintro o ho (htail | hne)
    · rw [tail, ho, Option.map_some, Option.getD_some] at htail
      simp [Output.setEncoding, Output.finishEncoder_eq, htail]
    · exact absurd rfl (hne _)
  | _ => exact performs_configure h rfl rfl rfl rfl rfl (fun _ => rfl) fun _ _ _ => rfl

/-- What any call does. -/
theorem Op.performs {ch : Channel Memory} (h : ch.Appends) (op : Op)
    (hsize : (op.perform ch).device.bytes.length < UInt64.size) :
    Performs op ch (op.perform ch) := by
  by_cases hop : op.isSetting = true
  · exact (op.adjusted hop ch).performs h hop
  · cases op with
    | write p => exact performs_write h p hsize
    | read kind dst => exact performs_read h kind dst
    | flush => exact performs_flush h
    | seek p => exact performs_seek h p
    | close => exact performs_close h
    | _ => exact absurd rfl hop

/-- Only bytes that differ from what they are put over change what is there. -/
theorem prefix_perform_iff {ch : Channel Memory} (h : ch.Appends) (op : Op)
    (hsize : (op.perform ch).device.bytes.length < UInt64.size) :
    ch.device.bytes <+: (op.perform ch).device.bytes ↔ ch.device.Agrees (op.sends ch) := by
  obtain ⟨more, hmore⟩ := (op.performs h hsize).sends
  rw [hmore, ← Memory.prefix_stored_iff]
  constructor
  · exact fun hp => List.prefix_of_prefix_length_le hp (List.prefix_append _ _)
      (Memory.length_le_stored _ _)
  · exact fun hp => hp.trans (List.prefix_append _ _)

/-- From the end on everything agrees. What is sent from elsewhere is sent by closing with nothing
else to send. -/
theorem Safe.agrees {ch : Channel Memory} (h : ch.Safe) (op : Op) :
    ch.device.Agrees (op.sends ch) ∨ op = .close ∧ ch.waiting = [] := by
  rcases h with hnil | hend
  · by_cases hclose : op = .close
    · exact .inr ⟨hclose, hnil⟩
    · have hsends : op.sends ch = [] := by
        cases op <;> simp_all [Op.sends]
      exact .inl (hsends ▸ Memory.agrees_nil _)
  · exact .inl (Memory.agrees_of_end hend _)

theorem after_append {δ : Type} [Transport δ] (done more : List Op) (ch : Channel δ) :
    after (done ++ more) ch = after more (after done ch) := List.foldl_append

/-- The calls of a run one by one. -/
theorem forall_calls {P : List Op → Op → Prop} {ops : List Op}
    (h : ∀ i : Fin ops.length, P (ops.take i) ops[i]) : ∀ done op, done ++ [op] <+: ops → P done op := by
  rintro done op ⟨rest, rfl⟩
  have hat := h ⟨done.length, by simp⟩
  simpa using hat

/-- A run that keeps the memory within reach. -/
def Bounded (ops : List Op) (ch : Channel Memory) : Prop :=
  ∀ done, done <+: ops → (after done ch).device.bytes.length < UInt64.size

theorem Appends.after {ch : Channel Memory} (h : ch.Appends) {ops : List Op}
    (hsize : Bounded ops ch) : (after ops ch).Appends := by
  induction ops generalizing ch with
  | nil => exact h
  | cons op ops ih =>
    have hfirst := op.performs h (hsize [op] (List.prefix_append [op] ops))
    exact ih hfirst.appends fun done hdone =>
      hsize (op :: done) (List.cons_prefix_cons.2 ⟨rfl, hdone⟩)

/-- Without the end of an encoding, what waits stays at the end. -/
theorem Safe.after {ch : Channel Memory} (hsafe : ch.Safe) (h : ch.Appends) {ops : List Op}
    (hsize : Bounded ops ch)
    (htail : ∀ before name, before ++ [.setEncoding name] <+: ops → (after before ch).tail = []) :
    (Channel.after ops ch).Safe := by
  induction ops generalizing ch with
  | nil => exact hsafe
  | cons op ops ih =>
    have hfirst := op.performs h (hsize [op] (List.prefix_append [op] ops))
    refine ih (hfirst.safe hsafe ?_) hfirst.appends
      (fun done hdone => hsize (op :: done) (List.cons_prefix_cons.2 ⟨rfl, hdone⟩))
      fun before name hbefore => htail (op :: before) name (List.cons_prefix_cons.2 ⟨rfl, hbefore⟩)
    by_cases hname : ∃ name, op = .setEncoding name
    · obtain ⟨name, rfl⟩ := hname
      exact .inl (htail [] name (List.prefix_append _ ops))
    · exact .inr fun name hop => hname ⟨name, hop⟩

/-- A run changes nothing that was in the memory at any time before, just if every call sends off
what agrees with the bytes from the cursor on. The only calls of which that is in question are a close
with nothing waiting, and those behind the end of an encoding. -/
theorem contents_grow_iff {m : Memory} {mode : OpenMode} {s : Settings}
    (hw : mode.isWritable = true) (ha : mode.isAppend = true) {ops : List Op}
    (hsize : Bounded ops (opened m mode s)) :
    ((∀ earlier later, earlier <+: later → later <+: ops →
        (after earlier (opened m mode s)).device.bytes <+:
          (after later (opened m mode s)).device.bytes) ↔
      ∀ done op, done ++ [op] <+: ops →
        (after done (opened m mode s)).device.Agrees (op.sends (after done (opened m mode s)))) ∧
    ∀ done op, done ++ [op] <+: ops →
      (after done (opened m mode s)).device.Agrees (op.sends (after done (opened m mode s))) ∨
      (op = .close ∧ (after done (opened m mode s)).waiting = []) ∨
      ∃ before name, before ++ [.setEncoding name] <+: done ∧
        (after before (opened m mode s)).tail ≠ [] := by
  have hfresh : (opened m mode s).Appends :=
    ⟨hw, ha, by simp [opened, init], by simp [opened, init]⟩
  have hsafe : (opened m mode s).Safe := .inl rfl
  generalize opened m mode s = ch at *
  have hearly : ∀ {done}, done <+: ops → Bounded done ch :=
    fun hdone before hbefore => hsize before (hbefore.trans hdone)
  have hcall : ∀ done op, done ++ [op] <+: ops →
      ((after done ch).device.bytes <+: (after (done ++ [op]) ch).device.bytes ↔
        (after done ch).device.Agrees (op.sends (after done ch))) := by
    intro done op hdone
    have happends := hfresh.after (hearly ((List.prefix_append done [op]).trans hdone))
    have hbound := hsize _ hdone
    rw [after_append] at hbound ⊢
    exact prefix_perform_iff happends op hbound
  refine ⟨⟨fun h done op hdone => (hcall done op hdone).1 (h _ _ (List.prefix_append _ _) hdone),
    fun h => ?_⟩, fun done op hdone => ?_⟩
  · -- from each moment to the next, and so from any moment to any later one
    rintro earlier later ⟨rest, rfl⟩ hlater
    induction rest using List.reverseRecOn with
    | nil => rw [List.append_nil]
    | append_singleton rest op ih =>
      rw [← List.append_assoc] at hlater ⊢
      exact (ih ((List.prefix_append _ [op]).trans hlater)).trans
        ((hcall _ op hlater).2 (h _ op hlater))
  · by_cases htail : ∃ before name, before ++ [.setEncoding name] <+: done ∧
        (after before ch).tail ≠ []
    · exact .inr (.inr htail)
    · have hdone' := (List.prefix_append done [op]).trans hdone
      have hend : (after done ch).Safe := hsafe.after hfresh (hearly hdone')
        fun before name hbefore => by_contra fun hne => htail ⟨before, name, hbefore, hne⟩
      exact (hend.agrees op).imp_right .inl

/-- What is written from the front on, and the end marker behind what still waits, land at the end. -/
theorem contents_grow_behind_seek :
    let start : Channel Memory :=
      opened (Memory.ofBytes [0x61, 0x62, 0x63]) ⟨10⟩ { Settings.default with outputMarker := 0x1A }
    let ops : List Op := [.write (.text ['d']), .seek (.fromStart 0), .write (.text ['e']), .close]
    (∀ earlier later, earlier <+: later → later <+: ops →
      (after earlier start).device.bytes <+: (after later start).device.bytes) ∧
    (after ops start).device.bytes = [0x61, 0x62, 0x63, 0x64, 0x65, 0x1A] := by
  intro start ops
  have hsize : Bounded ops start := by
    have hinits : ∀ done ∈ ops.inits, (after done start).device.bytes.length < UInt64.size := by
      decide
    exact fun done hdone => hinits done ((List.mem_inits _ _).2 hdone)
  refine ⟨(contents_grow_iff (m := Memory.ofBytes [0x61, 0x62, 0x63]) rfl rfl hsize).1.2 ?_,
    by decide⟩
  have hagrees : ∀ i : Fin ops.length,
      (after (ops.take i) start).device.Agrees (ops[i].sends (after (ops.take i) start)) := by
    decide
  rintro done op ⟨rest, hops⟩
  have hlt : done.length < ops.length := by simp [← hops]
  have hat := hagrees ⟨done.length, hlt⟩
  simpa [← hops] using hat

/-- The end marker alone is not written at the end. -/
theorem contents_overwritten_by_marker :
    let start : Channel Memory :=
      opened (Memory.ofBytes [0x61, 0x62, 0x63]) ⟨10⟩ .default
    let ops : List Op := [.setOutputMarker 0x1A, .close]
    ¬ ∀ earlier later, earlier <+: later → later <+: ops →
      (after earlier start).device.bytes <+: (after later start).device.bytes := by
  intro start ops h
  have hclosed := h [.setOutputMarker 0x1A] ops (List.prefix_append _ [Op.close])
    (List.prefix_refl ops)
  exact absurd hclosed (by decide)

end ScriptChannel.Channel
