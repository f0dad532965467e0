import ScriptChannel.Proofs.Channel.Handover

/-!
# A channel through whatever is called

The number of owners, the name and what was noted have nothing to do with the device, and no call of
the channel itself changes the number of owners. However the calls come, the device is closed when the
channel is, once and behind all other calls, and there is no output side any more then.
-/

namespace ScriptChannel
open Transport

namespace Channel
variable {δ : Type}

/-- The second channel differs from the first in what no output depends on. -/
structure Aside (ch ch' : Channel δ) : Prop where
  device : ch'.device = ch.device
  mode : ch'.mode = ch.mode
  settings : ch'.settings = ch.settings
  closed : ch'.closed = ch.closed
  output : ch'.output = ch.output
  input : ch'.input.isSome = ch.input.isSome

theorem aside_retain (ch : Channel δ) : Aside ch ch.retain.2 := ⟨rfl, rfl, rfl, rfl, rfl, rfl⟩

theorem aside_release (ch : Channel δ) : Aside ch ch.release.2 := ⟨rfl, rfl, rfl, rfl, rfl, rfl⟩

theorem aside_note (e : Event) (ch : Channel δ) : Aside ch (ch.note e) :=
  ⟨rfl, rfl, rfl, rfl, rfl, rfl⟩

theorem Aside.trans {ch ch' ch'' : Channel δ} (h : Aside ch ch') (h' : Aside ch' ch'') :
    Aside ch ch'' where
  device := h'.device.trans h.device
  mode := h'.mode.trans h.mode
  settings := h'.settings.trans h.settings
  closed := h'.closed.trans h.closed
  output := h'.output.trans h.output
  input := h'.input.trans h.input

theorem Aside.ending {ch ch' : Channel δ} (h : Aside ch ch') : ch'.ending = ch.ending := by
  rw [Channel.ending, Channel.ending, h.output, h.closed, h.settings]

variable [Transport δ]

/-- No call of the channel itself changes the count. -/
theorem owners_perform (op : Op) (ch : Channel δ) : (op.perform ch).owners = ch.owners := by
  have hflush : ∀ ch' : Channel δ, ch'.owners = ch.owners → ch'.flushOutput.2.owners = ch.owners := by
    intro ch' h
    unfold flushOutput
    split <;> exact h
  have hbuild : ∀ ch' : Channel δ, ch'.owners = ch.owners →
      ch'.buildOutput.2.owners = ch.owners := by
    intro ch' h
    unfold buildOutput
    split
    · exact h
    · split <;> exact h
  have hseek : ∀ p, ∀ ch' : Channel δ, ch'.owners = ch.owners →
      (Channel.seek p ch').2.owners = ch.owners := fun p ch' h =>
    of_seek (P := fun ch' => ch'.owners = ch.owners) h hflush (fun _ _ _ _ _ h => h) p
  by_cases hop : op.isSetting = true
  · have hset := op.adjusted hop ch
    generalize op.perform ch = ch' at hset ⊢
    cases hset <;> rfl
  cases op with
  | read kind dst =>
    refine of_read (P := fun ch' => ch'.owners = ch.owners) rfl hflush
      (fun ch' h => ?_) (fun ch' c n dst j h _ => ?_) kind dst
    · unfold buildInput
      split
      · exact h
      · split <;> exact h
    · obtain ⟨c', d, ended, hrenew⟩ := exists_renew_readThrough dst c ch' n j
      rw [hrenew]
      exact h
  | write p =>
    exact of_write (P := fun ch' => ch'.owners = ch.owners) p rfl
      (fun ch' h => of_seekToEnd (P := fun ch' => ch'.owners = ch.owners) h (fun _ _ h => h) hseek)
      hbuild fun _ _ h _ => h
  | flush =>
    simp only [Op.perform, Channel.flush]
    split
    · rfl
    · split
      · rfl
      · exact hflush ch rfl
  | seek p => exact hseek p ch rfl
  | close =>
    refine of_close (P := fun ch' => ch'.owners = ch.owners) (fun _ => rfl) (fun _ => rfl) hbuild
      (fun ch' h => ?_) fun _ h => h
    unfold releaseOutput
    split <;> exact h
  | _ => exact absurd rfl hop

section Recorded
variable {ch ch' : Channel (Recorded δ)}

/-- A channel as calls leave it: the device is closed when the channel is, once and last, and there is
no output side any more. -/
structure Tended (ch : Channel (Recorded δ)) : Prop where
  keeps : ch.closed = false → ∃ bs, ch.Keeps bs
  last : ch.closed = true → ∃ before r, ch.device.log = before ++ [.close r] ∧
    ∀ e ∈ before, e.isClose = false
  quiet : ch.closed = true → ch.output = none
  marked : ch.mode.isWritable = false → ch.settings.outputMarker = 0
  running : ch.Maintains fun _ o => o.closed = false
  follows : ch.Maintains fun s o => o.Follows s

omit [Transport δ] in
theorem Aside.traced (ha : Aside ch ch') : ch'.traced = ch.traced := by
  simp only [Channel.traced, waiting, ha.device, ha.output]

theorem Tended.aside (h : ch.Tended) (ha : Aside ch ch') : ch'.Tended where
  keeps hc := by
    obtain ⟨bs, hkeeps⟩ := h.keeps (ha.closed ▸ hc)
    exact ⟨bs, hkeeps.carries ⟨ha.closed, ha.input, by rw [ha.output], ha.device ▸ .refl _ _,
      fun _ => ha.traced⟩⟩
  last hc := ha.device ▸ h.last (ha.closed ▸ hc)
  quiet hc := ha.output ▸ h.quiet (ha.closed ▸ hc)
  marked hm := ha.settings ▸ h.marked (ha.mode ▸ hm)
  running o ho := h.running o (ha.output ▸ ho)
  follows o ho := ha.settings ▸ h.follows o (ha.output ▸ ho)

omit [Transport δ] in
theorem Holds.aside {G : Recorded δ → Prop} {bs : List UInt8} (h : ch.Holds G bs)
    (ha : Aside ch ch') : ch'.Holds G bs :=
  ⟨ha.device ▸ h.device, ha.traced.trans h.traced⟩

/-- The device was closed once if the channel was closed, and not at all otherwise. -/
theorem Tended.closes (h : ch.Tended) : ch.device.log.countP Entry.isClose = ch.closed.toNat := by
  cases hc : ch.closed with
  | false =>
    obtain ⟨bs, hkeeps⟩ := h.keeps hc
    exact List.countP_eq_zero.2 fun e he => by simp [hkeeps.1.unclosed e he]
  | true =>
    obtain ⟨before, r, hlog, hbefore⟩ := h.last hc
    have hnone : before.countP Entry.isClose = 0 :=
      List.countP_eq_zero.2 fun e he => by simp [hbefore e he]
    simp [hlog, hnone, Entry.isClose]

theorem tended_fresh (d : δ) (m : OpenMode) : (init (Recorded.fresh d) m).Tended where
  keeps _ := ⟨[], keeps_fresh d m⟩
  last hc := by cases hc
  quiet _ := rfl
  marked _ := rfl
  running := Maintains.init _ m
  follows := Maintains.init _ m

/-- The end marker of a channel that is not open for writing is never set. -/
theorem marked_perform (op : Op)
    (h : ch.mode.isWritable = false → ch.settings.outputMarker = 0) :
    (op.perform ch).mode.isWritable = false → (op.perform ch).settings.outputMarker = 0 := by
  rw [mode_perform, settings_perform]
  intro hm
  cases op with
  | setEncoding name => cases name <;> simpa only [Op.sets] using h hm
  | setOutputMarker m => simp [Op.sets, hm, h hm]
  | setBufferSize | setInputTranslation | setOutputTranslation | setInputMarker =>
    simp only [Op.sets]
    split <;> exact h hm
  | _ => exact h hm

/-- No call builds an output side for a channel that was closed. -/
theorem output_perform_of_closed (hc : ch.closed = true) (ho : ch.output = none) (op : Op) :
    (op.perform ch).output = none := by
  by_cases hop : op.isSetting = true
  · have hset := op.adjusted hop ch
    generalize op.perform ch = ch' at hset ⊢
    cases hset with
    | ignored => exact ho
    | _ => exact Option.map_eq_none_iff.2 ho
  cases op with
  | read kind dst => simpa [Op.perform, Channel.read, checkRead, hc] using ho
  | write p => simpa [Op.perform, Channel.write, checkWrite, hc] using ho
  | flush => simpa [Op.perform, Channel.flush, checkOpen, hc] using ho
  | seek p => simpa [Op.perform, Channel.seek, checkOpen, hc] using ho
  | close => simpa [Op.perform, Channel.close, hc] using ho
  | _ => exact absurd rfl hop

variable [Tireless δ]

/-- What a close calls, and what it answers: the first failure among these calls. -/
theorem Tended.close (h : ch.Tended) :
    (∃ calls, ch.close.2.device.log = ch.device.log ++ calls ∧
      calls.countP Entry.isClose = (!ch.closed).toNat ∧
      ch.close.1 = (outcome calls).mapError .io) ∧
    ∃ before r, ch.close.2.device.log = before ++ [.close r] ∧
      ∀ e ∈ before, e.isClose = false := by
  cases hc : ch.closed with
  | true =>
    have hclose : ch.close = (.ok (), ch) := by simp [Channel.close, hc]
    rw [hclose]
    exact ⟨⟨[], (List.append_nil _).symm, rfl, rfl⟩, h.last hc⟩
  | false =>
    obtain ⟨bs, hkeeps⟩ := h.keeps hc
    obtain ⟨built, sunk, r, hclosing⟩ :=
      hkeeps.closing fun o ho => ⟨h.running o ho, (h.follows o ho).marker⟩
    refine ⟨⟨built ++ sunk ++ [.close r], hclosing.log, ?_, hclosing.answer⟩,
      hclosing.last hkeeps.1⟩
    have hbuilt : built.countP Entry.isClose = 0 := by
      rcases hclosing.building with ⟨-, rfl⟩ | ⟨-, a, rfl⟩ <;> rfl
    have hsunk : sunk.countP Entry.isClose = 0 := List.countP_eq_zero.2 fun e he => by
      have hsink := hclosing.sinking e he
      cases e <;> simp_all [Entry.isSink, Entry.isClose]
    simp [hbuilt, hsunk, Entry.isClose]

/-- A call closes the channel only if it is a close. -/
theorem Tended.perform (h : ch.Tended) (op : Op) :
    (op.perform ch).Tended ∧
      ((op.perform ch).closed = true ↔ ch.closed = true ∨ op = .close) := by
  have hmarked := marked_perform op h.marked
  have hrunning := h.running.perform running_invariant op
  have hfollows := h.follows.perform follows_invariant op
  by_cases hop : op = .close
  · subst hop
    have hclosed : (Op.close.perform ch).closed = true := closed_close ch
    have hquiet : (Op.close.perform ch).output = none := by
      cases hc : ch.closed with
      | true => exact output_perform_of_closed hc (h.quiet hc) .close
      | false => exact output_close hc
    refine ⟨⟨fun hc => ?_, fun _ => h.close.2, fun _ => hquiet, hmarked, hrunning, hfollows⟩, ?_⟩
    · rw [hclosed] at hc
      cases hc
    · simp [hclosed]
  cases hc : ch.closed with
  | true =>
    obtain ⟨hdevice, hclosed⟩ := closed_perform hc op
    refine ⟨⟨fun hopen => ?_, fun _ => hdevice ▸ h.last hc,
      fun _ => output_perform_of_closed hc (h.quiet hc) op, hmarked, hrunning, hfollows⟩, ?_⟩
    · rw [hclosed] at hopen
      cases hopen
    · simp [hclosed]
  | false =>
    obtain ⟨bs, hkeeps⟩ := h.keeps hc
    have hperformed := hkeeps.perform hop
    have hopen : (op.perform ch).closed = false := hperformed.1.running
    refine ⟨⟨fun _ => ⟨_, hperformed⟩, fun hclosed => ?_, fun hclosed => ?_, hmarked, hrunning,
      hfollows⟩, ?_⟩
    · rw [hopen] at hclosed
      cases hclosed
    · rw [hopen] at hclosed
      cases hclosed
    · simp [hopen, hop]

end Recorded

end Channel

end ScriptChannel
