import ScriptChannel.Proofs.Channel.Lifecycle

/-!
# Nothing is lost on the way to a device that does not fail

Over a sink that takes a part of what it is offered, but something each time, all that was put down is
handed over or waits, through all calls. A channel that was closed has nothing waiting.
-/

namespace ScriptChannel
open Transport

/-- In such states a device can be opened for writing and its sink does not fail, and no call leads to
other ones. -/
structure Willing {δ : Type} [Transport δ] (G : δ → Prop) : Prop extends Obliging G where
  opens {d : δ} (h : G d) : (Transport.openOutput d).1 = .ok ()
  openOutput {d : δ} (h : G d) : G (Transport.openOutput d).2
  openInput {d : δ} (h : G d) : G (Transport.openInput d).2
  read (n : Nat) {d : δ} (h : G d) : G (RawReader.read n d).2
  seek (p : Place) {d : δ} (h : G d) : G (Transport.seek p d).2
  close {d : δ} (h : G d) : G (Transport.close d).2

namespace Transport

/-- A rehearsed device that was told neither to refuse bytes nor to fail when its writing side is
opened. -/
def Rehearsed.Serves (d : Rehearsed) : Prop := d.Takes ∧ ∀ e ∈ d.hooks .openOutput, e = none

instance : DecidablePred Rehearsed.Serves := fun d =>
  inferInstanceAs (Decidable (d.Takes ∧ ∀ e ∈ d.hooks .openOutput, e = none))

theorem Rehearsed.willing : Willing Rehearsed.Serves where
  takes b bs _ h := Rehearsed.obliging.takes b bs h.1
  write bs _ h := ⟨Rehearsed.obliging.write bs h.1, h.2⟩
  flush h := h
  sync h := h
  opens {d} h := by
    change (Rehearsed.call .openOutput d).1 = .ok ()
    unfold Rehearsed.call
    cases hd : (d.hooks .openOutput).head? with
    | none => rfl
    | some e => rw [h.2 e (List.mem_of_mem_head? hd)]; rfl
  openOutput h := ⟨h.1, fun e he => h.2 e (List.mem_of_mem_tail he)⟩
  openInput h := h
  read _ _ h := h
  seek _ _ h := h
  close h := h

/-- A memory accepts everything. -/
theorem Memory.willing : Willing fun _ : Memory => True where
  takes _ bs _ _ := ⟨bs.length, rfl⟩
  write _ _ _ := trivial
  flush _ := trivial
  sync _ := trivial
  opens _ := rfl
  openOutput _ := trivial
  openInput _ := trivial
  read _ _ _ := trivial
  seek _ _ _ := trivial
  close _ := trivial

/-- Observation changes nothing. -/
theorem Recorded.willing {δ : Type} [Transport δ] {G : δ → Prop} (h : Willing G) :
    Willing fun d : Recorded δ => G d.device where
  takes b bs _ hd := h.takes b bs hd
  write bs _ hd := h.write bs hd
  flush hd := h.flush hd
  sync hd := h.sync hd
  opens hd := h.opens hd
  openOutput hd := h.openOutput hd
  openInput hd := h.openInput hd
  read n _ hd := h.read n hd
  seek p _ hd := h.seek p hd
  close hd := h.close hd

end Transport

namespace Channel
variable {δ : Type} [Transport δ] {G : Recorded δ → Prop} {bs : List UInt8}
  {ch ch' : Channel (Recorded δ)}

/-- The bytes that a call puts down, the ending of a close among them. -/
def Op.puts : Op → Channel (Recorded δ) → List UInt8
  | close, ch => ch.ending
  | op, ch => op.ink ch

/-- A device that does not fail, and all that was put down handed over to it or waiting. -/
structure Holds (G : Recorded δ → Prop) (bs : List UInt8) (ch : Channel (Recorded δ)) : Prop where
  device : G ch.device
  traced : ch.traced = bs

omit [Transport δ] in
/-- Calls that hand nothing over. -/
theorem Holds.called (h : ch.Holds G bs) (hdevice : G ch'.device)
    (hcalled : Recorded.Called (·.accepted = []) ch.device ch'.device)
    (hwaiting : ch'.waiting = ch.waiting) : ch'.Holds G bs := by
  refine ⟨hdevice, ?_⟩
  rw [Channel.traced, received_of_called hcalled, hwaiting]
  exact h.traced

variable (hG : Willing G)
include hG

theorem Holds.flushOutput (h : ch.Holds G bs) : ch.flushOutput.2.Holds G bs := by
  unfold Channel.flushOutput
  cases ho : ch.output with
  | none => exact h
  | some o =>
    have hall : received (o.flush ch.device).2.2.log = received ch.device.log ++ o.buffer :=
      hG.accepted_flush o h.device
    refine ⟨hG.flush_keeps o h.device, ?_⟩
    rw [← h.traced]
    simp [Channel.traced, waiting, ho, hall, hG.flush_emptied o h.device, Output.emptied]

theorem Holds.readThrough (h : ch.Holds G bs) (c : Input.Chain) (n : Option Nat) (dst : Data)
    (j : List Event) :
    Holds G bs { (Channel.readThrough dst c ch n).2 with journal := j } := by
  have hread : ∀ n (d : Recorded δ),
      (G d ∧ Recorded.Called (·.accepted = []) ch.device d) →
      G (RawReader.read n d).2 ∧ Recorded.Called (·.accepted = []) ch.device (RawReader.read n d).2 :=
    fun n d hd => ⟨hG.read n hd.1, hd.2.trans (.record _ d fun _ => rfl)⟩
  have hheld : Held (fun s : Input.Cutoff × Recorded δ =>
      G s.2 ∧ Recorded.Called (·.accepted = []) ch.device s.2) (fun _ => True) c ch :=
    ⟨⟨⟨h.device, .refl _ _⟩, fun _ => trivial⟩, fun _ => trivial⟩
  obtain ⟨c', -, hc'⟩ :=
    readThrough_held (Input.Cutoff.closes_of_kept hread) (fun _ _ _ _ => trivial) n dst hheld
  have hside : G (Channel.readThrough dst c ch n).2.device ∧
      Recorded.Called (·.accepted = []) ch.device (Channel.readThrough dst c ch n).2.device :=
    hc'.side.1
  obtain ⟨c'', d, ended, hrenew⟩ := exists_renew_readThrough dst c ch n j
  have hdevice : (Channel.readThrough dst c ch n).2.device = d := congrArg Channel.device hrenew
  rw [hdevice] at hside
  rw [hrenew]
  exact h.called hside.1 hside.2 rfl

theorem Holds.buildInput (h : ch.Holds G bs) : ch.buildInput.2.Holds G bs := by
  have hopened : G (Transport.openInput ch.device).2 := hG.openInput h.device
  have hcalled : Recorded.Called (·.accepted = []) ch.device (Transport.openInput ch.device).2 :=
    .record _ ch.device fun _ => rfl
  unfold Channel.buildInput
  split
  · exact h
  · split
    all_goals
      rename_i hd
      rw [hd] at hopened hcalled
      exact h.called hopened hcalled rfl

theorem Holds.buildOutput (h : ch.Holds G bs) :
    (∃ o, ch.buildOutput.1 = .ok o) ∧ ch.buildOutput.2.Holds G bs := by
  have hopened : G (Transport.openOutput ch.device).2 := hG.openOutput h.device
  have hcalled : Recorded.Called (·.accepted = []) ch.device (Transport.openOutput ch.device).2 :=
    .record _ ch.device fun _ => rfl
  have hok := hG.opens h.device
  unfold Channel.buildOutput
  cases ho : ch.output with
  | some o => exact ⟨⟨o, rfl⟩, h⟩
  | none =>
    rcases hd : Transport.openOutput ch.device with ⟨e | _, d⟩
    all_goals rw [hd] at hopened hcalled hok
    · cases hok
    · refine ⟨⟨_, rfl⟩, h.called hopened hcalled ?_⟩
      simp [waiting, ho, newOutput, Output.init, note]

theorem Holds.seek (h : ch.Holds G bs) (p : Place) : (ch.seek p).2.Holds G bs :=
  of_seek (P := Holds G bs) h (fun _ h => h.flushOutput hG)
    (fun ch p _ _ _ h => h.called (hG.seek p h.device) (.record _ ch.device fun _ => rfl) rfl) p

theorem Holds.aimed (h : ch.Holds G bs) : ch.aimed.Holds G bs := by
  unfold Channel.aimed
  split
  · exact of_seekToEnd (P := Holds G bs) h (fun _ _ h => ⟨h.device, h.traced⟩)
      fun p _ h => h.seek hG p
  · exact h

theorem Holds.read (h : ch.Holds G bs) (kind : ReadKind) (dst : Data) :
    (Channel.read kind dst ch).2.Holds G bs :=
  of_read (P := Holds G bs) h (fun _ h => h.flushOutput hG) (fun _ h => h.buildInput hG)
    (fun _ c n dst j h _ => h.readThrough hG c n dst j) kind dst

/-- A write that is not refused puts its text down. -/
theorem Holds.write (h : ch.Holds G bs) (p : Payload) :
    (ch.write p).2.Holds G (bs ++ (Op.write p).ink ch) := by
  have haimed := h.aimed hG
  simp only [Channel.write, Op.ink, Channel.aimed] at haimed ⊢
  generalize (if ch.mode.isAppend then ch.seekToEnd else ch) = start at haimed ⊢
  rcases ch.checkWrite with e | _
  · simpa using h
  obtain ⟨⟨o, hok⟩, hbuilt⟩ := haimed.buildOutput hG
  have ho := output_buildOutput hok
  rw [show start.buildOutput = (.ok o, start.buildOutput.2) from Prod.ext hok rfl]
  generalize start.buildOutput.2 = ch₁ at hbuilt ho ⊢
  dsimp only
  have htrace := hG.trace_perform (.write p) (s := (o, ch₁.device)) hbuilt.device
  refine ⟨hG.write_keeps p o hbuilt.device, ?_⟩
  rw [← hbuilt.traced]
  simp only [Channel.traced, waiting, runOutput, ho, Option.map_some, Option.getD_some]
  exact htrace

/-- Taking down the output side hands over what waits, and what it is ended with. -/
theorem Holds.releaseOutput (h : ch.Holds G bs)
    (hside : ∀ o, ch.output = some o → o.closed = false) :
    ch.releaseOutput.2.Holds G (bs ++ (ch.output.map Output.ending).getD []) := by
  unfold Channel.releaseOutput
  cases ho : ch.output with
  | none =>
    rw [Option.map_none, Option.getD_none, List.append_nil]
    exact h
  | some o =>
    have hall : received (o.close ch.device).2.2.log = received ch.device.log ++ o.buffer ++ o.ending :=
      hG.accepted_close (s := (o, ch.device)) (hside o ho) h.device
    refine ⟨hG.close_keeps o h.device, ?_⟩
    rw [← h.traced]
    simp [Channel.traced, waiting, ho, hall, note]

theorem Holds.prepareMarker (h : ch.Holds G bs) :
    ch.prepareMarker.1 = .ok () ∧ ch.prepareMarker.2.Holds G bs := by
  unfold Channel.prepareMarker
  split
  · obtain ⟨⟨o, hok⟩, hbuilt⟩ := h.buildOutput hG
    exact ⟨congrArg (Except.map fun _ => ()) hok, hbuilt⟩
  · exact ⟨rfl, h⟩

/-- What the marker is written with is ended with what the channel is to be ended with. -/
theorem Holds.ending_prepareMarker (h : ch.Holds G bs)
    (hmarked : ch.mode.isWritable = false → ch.settings.outputMarker = 0)
    (hside : ∀ o, ch.output = some o → o.closed = false) :
    (ch.prepareMarker.2.output.map Output.ending).getD [] =
        ({ ch with closed := false } : Channel (Recorded δ)).ending ∧
      ∀ o, ch.prepareMarker.2.output = some o → o.closed = false := by
  obtain ⟨built, -, hbuilt, ⟨hl, -, hsame⟩ | ⟨hl, ⟨⟨e, rfl⟩, -⟩ | ⟨-, sync, hnew⟩⟩⟩ :=
    prepareMarker_answered ch
  · rw [hsame]
    refine ⟨?_, hside⟩
    cases ho : ch.output with
    | some o => simp [ending]
    | none =>
      have hm : ch.settings.outputMarker = 0 := by
        cases hw : ch.mode.isWritable with
        | false => exact hmarked hw
        | true => simpa [lacksOutput, hw, ho] using hl
      simp [ending, hm]
  · rw [(h.prepareMarker hG).1] at hbuilt
    cases hbuilt
  · rw [hnew]
    refine ⟨?_, fun o ho => ?_⟩
    · simp [ending, output_of_lacksOutput hl, ending_newOutput]
    · obtain rfl := Option.some.inj ho
      rfl

/-- Closing puts down the ending, and hands over everything. -/
theorem Holds.close (h : ch.Holds G bs)
    (hquiet : ch.closed = true → ch.output = none)
    (hmarked : ch.mode.isWritable = false → ch.settings.outputMarker = 0)
    (hside : ∀ o, ch.output = some o → o.closed = false) :
    ch.close.2.Holds G (bs ++ ch.ending) := by
  cases hc : ch.closed with
  | true =>
    have hnone : ch.ending = [] := by simp [ending, hquiet hc, hc]
    simp only [Channel.close, hc, if_true]
    rwa [hnone, List.append_nil]
  | false =>
    obtain ⟨j, hj⟩ := exists_releaseInput ({ ch with closed := true } : Channel (Recorded δ))
    set start : Channel (Recorded δ) := { ch with closed := true, input := none, journal := j }
    obtain ⟨hdevice, houtput, hsettings, hmode⟩ : start.device = ch.device ∧
        start.output = ch.output ∧ start.settings = ch.settings ∧ start.mode = ch.mode :=
      ⟨rfl, rfl, rfl, rfl⟩
    have hholds : start.Holds G bs := by
      refine ⟨hdevice ▸ h.device, ?_⟩
      rw [← h.traced, Channel.traced, Channel.traced, waiting, waiting, hdevice, houtput]
    obtain ⟨hending, hopen⟩ := hholds.ending_prepareMarker hG (by rwa [hmode, hsettings])
      (by rwa [houtput])
    have hreleased := (hholds.prepareMarker hG).2.releaseOutput hG hopen
    have hsame : ({ start with closed := false } : Channel (Recorded δ)).ending = ch.ending := by
      simp only [ending, houtput, hsettings, hc]
    rw [hending, hsame] at hreleased
    have hclose : ch.close.2 = start.prepareMarker.2.releaseOutput.2.closeDevice.2 := by
      simp [Channel.close, hc, hj, start]
    rw [hclose]
    exact hreleased.called (hG.close hreleased.device)
      (.record _ start.prepareMarker.2.releaseOutput.2.device fun _ => rfl) rfl

/-- All that is put down is handed over or waits, through any call. -/
theorem Holds.perform (h : ch.Holds G bs)
    (hquiet : ch.closed = true → ch.output = none)
    (hmarked : ch.mode.isWritable = false → ch.settings.outputMarker = 0)
    (hside : ∀ o, ch.output = some o → o.closed = false) (op : Op) :
    (op.perform ch).Holds G (bs ++ op.puts ch) := by
  by_cases hset : op.isSetting = true
  · have hputs : op.puts ch = op.ink ch := by
      cases op with
      | close => cases hset
      | _ => rfl
    refine ⟨(op.adjusted hset ch).steady.2.2 ▸ h.device, ?_⟩
    rw [traced_adjusted (op.adjusted hset ch) hset, h.traced, hputs]
  have hnothing : ∀ {ch : Channel (Recorded δ)}, ch.Holds G bs → ch.Holds G (bs ++ []) := fun h => by
    rwa [List.append_nil]
  cases op with
  | close => exact h.close hG hquiet hmarked hside
  | read kind dst => exact hnothing (h.read hG kind dst)
  | write p => exact h.write hG p
  | flush =>
    refine hnothing ?_
    simp only [Op.perform, Channel.flush]
    split
    · exact h
    · split
      · exact h
      · exact h.flushOutput hG
  | seek p => exact hnothing (h.seek hG p)
  | _ => exact absurd rfl hset

end Channel

end ScriptChannel
