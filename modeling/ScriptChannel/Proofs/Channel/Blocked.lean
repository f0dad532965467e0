import ScriptChannel.Proofs.Channel.InputSide
import ScriptChannel.Proofs.Input.Hearing

/-!
# Whether the last read fell short

A channel says that it is blocked when its source had nothing the last time it was asked. A read that
falls short for want of data has asked last, so it is always said of one that did. But it is said of
others as well: of a read that had all it wanted when more was asked for, and of one that asked for
nothing and came after another that was told to wait.
-/

namespace ScriptChannel
open Transport (Recorded)

/-- Only read calls add to the answers. -/
theorem Transport.inward_answers {δ : Type} [Transport δ] : Inward (Recorded.answers (δ := δ)) where
  write _ _ := by simp [RawWriter.write, Recorded.record, Recorded.answers, Entry.answer?]
  flush _ := by simp [RawWriter.flush, Recorded.record, Recorded.answers, Entry.answer?]
  sync _ := by simp [RawWriter.sync, Recorded.record, Recorded.answers, Entry.answer?]
  openInput _ := by simp [Transport.openInput, Recorded.record, Recorded.answers, Entry.answer?]
  openOutput _ := by simp [Transport.openOutput, Recorded.record, Recorded.answers, Entry.answer?]

namespace Channel

section Device
variable {δ : Type} [Transport δ]

/-- What the input side answers to a request for a line. -/
def lineRead (ch : Channel δ) : Input.LineRead :=
  (ch.chain.readLine ch.settings.blocking ch.prepared.device).1

/-- A read falls short if it brings fewer units than were asked for, and not for the end of the stream,
or brings nothing of a line and has not completed one. -/
def FallsShort (kind : ReadKind) (dst : Data) (ch : Channel δ) : Prop :=
  match wanted kind with
  | some n => ∃ k < n, (read kind dst ch).1.status = .ok (.data k) ∧ (read kind dst ch).2.ended = false
  | none => (read kind dst ch).1.status = .ok (.data 0) ∧ ∀ text, ch.lineRead ≠ .line text

theorem isBlocked_eq {ch : Channel δ} (h : ch.checkRead = .ok ()) :
    ch.isBlocked = .ok ch.chain.readAhead.starved := by
  rw [isBlocked, h]
  cases hi : ch.input with
  | some c => simp [Except.map, chain, hi]
  | none => simp [Except.map, chain, hi, newInput, Input.ReadAhead.init]

theorem closed_prepared (ch : Channel δ) : ch.prepared.closed = ch.closed := by
  have hbuild : ∀ ch : Channel δ, ch.buildInput.2.closed = ch.closed := by
    intro ch
    unfold buildInput
    split
    · rfl
    · split <;> rfl
  unfold prepared
  rw [hbuild]
  split
  · unfold flushOutput
    split <;> rfl
  · rfl

/-- A channel that was read can be read. -/
theorem checkRead_renew {ch ch' : Channel δ} (h : ch.checkRead = .ok ()) (hclosed : ch'.closed = ch.closed)
    (hmode : ch'.mode = ch.mode) : ch'.checkRead = .ok () := by
  unfold checkRead at h ⊢
  rw [hclosed, hmode]
  split at h
  · cases h
  split at h
  · cases h
  · rw [if_neg ‹_›, if_neg ‹_›]

/-- After a delay the marker was not met. -/
theorem awaits_invariant :
    Invariant δ fun _ _ c => c.readAhead.starved = true → c.cutoff.reached = false where
  fresh _ h := by cases h
  text h _ n d :=
    Input.Chain.readText_keeps (Input.Chain.closes_decoded Input.ReadAhead.closes_awaits) n d h
  bytes h _ n d := Input.Chain.readBytes_keeps Input.ReadAhead.closes_awaits n d h
  line {s _} h d :=
    Input.Chain.readLine_keeps (Input.Chain.closes_decoded Input.ReadAhead.closes_awaits) s.blocking d h
  resumed {_ _ c} _ n := by
    unfold Input.Chain.resumed
    split <;> exact fun h => by cases h
  encoding h _ := h
  bufferSize h _ := h
  buffering h _ := h
  blocking h _ := h
  translation h _ := h
  marker _ _ _ := rfl
  output h _ _ := h

/-- What the stages keep from the one that reads ahead down, a read of the channel keeps. -/
theorem readThrough_keeps {P : Input.ReadAhead × Input.Cutoff × δ → Prop}
    (h : Closes P (fun _ => True) (ByteSource.fetch (σ := Input.ReadAhead × Input.Cutoff × δ)))
    {c : Input.Chain} (ch : Channel δ) (hs : P (c.lower ch.device).2) (n : Option Nat) (dst : Data) :
    P ((readThrough dst c ch n).2.chain.lower (readThrough dst c ch n).2.device).2 := by
  have hdecoded := Input.Chain.closes_decoded h
  cases n with
  | some n =>
    simp only [readThrough, readUnits]
    split
    · exact Input.Chain.readBytes_keeps h n ch.device hs
    · exact Input.Chain.readText_keeps hdecoded n ch.device hs
  | none =>
    have hline := Input.Chain.readLine_keeps (c := c) hdecoded ch.settings.blocking ch.device hs
    simp only [readThrough, readLine]
    rcases hq : c.readLine ch.settings.blocking ch.device with ⟨_ | _ | _ | e, c', d⟩
    all_goals
      rw [hq] at hline
      exact hline

section Stream
variable [RawStream δ] {c : Input.Chain} {ch : Channel δ} {dst : Data}

/-- A run that brings less than was asked for, and neither fails nor ends, stops for want of data. -/
theorem halt_of_short {α : Type} {k n : Nat} {r : List α × Halt}
    (hstatus : statusOf r.1.length r.2 = .ok (.data k)) (hk : k < n) (hful : Fulfils n r)
    (he : r.2 ≠ .ended) : r.2 = .wouldBlock := by
  obtain ⟨us, halt⟩ := r
  cases halt with
  | wouldBlock => rfl
  | ended => exact absurd rfl he
  | failed e => cases hstatus
  | served =>
    obtain rfl : us.length = k := by simpa [statusOf] using hstatus
    exact absurd (hful.all_of_served rfl) (Nat.ne_of_lt hk)

variable {W : Input.ReadAhead × Input.Cutoff × δ → Prop}
  (h : Input.Admits W (ByteSource.fetch (σ := Input.ReadAhead × Input.Cutoff × δ)))
include h

/-- Too few units are brought where the source had nothing. -/
theorem units_admit {n k : Nat} (hs : (readUnits n dst c ch).1.status = .ok (.data k))
    (hk : k < n) (he : (readUnits n dst c ch).2.ended = false) :
    W ((readUnits n dst c ch).2.chain.lower (readUnits n dst c ch).2.device).2 := by
  simp only [readUnits] at hs he ⊢
  split at hs
  · rename_i hb
    simp only [hb, if_true, Bool.or_eq_false_iff, decide_eq_false_iff_not] at he ⊢
    exact Input.Chain.readBytes_admits h (halt_of_short hs hk (c.readBytes_fulfils n ch.device) he.2)
  · rename_i hb
    simp only [hb, Bool.false_eq_true, if_false, Bool.or_eq_false_iff,
      decide_eq_false_iff_not] at he ⊢
    obtain ⟨-, -, hful⟩ := c.readText_run n ch.device
    exact Input.Chain.readText_admits h (halt_of_short hs hk hful he.2)

theorem line_admits (hs : (readLine dst c ch).1.status = .ok (.data 0))
    (hline : ∀ text, (c.readLine ch.settings.blocking ch.device).1 ≠ .line text) :
    W ((readLine dst c ch).2.chain.lower (readLine dst c ch).2.device).2 := by
  have hblocked : (c.readLine ch.settings.blocking ch.device).1 = .blocked →
      W ((c.readLine ch.settings.blocking ch.device).2.1.lower
        (c.readLine ch.settings.blocking ch.device).2.2).2 := Input.Chain.readLine_admits h
  simp only [readLine] at hs ⊢
  rcases hq : c.readLine ch.settings.blocking ch.device with ⟨text | _ | _ | e, c', d⟩
  all_goals rw [hq] at hs hline hblocked
  · exact absurd rfl (hline text)
  · exact hblocked rfl
  · simp at hs
  · simp at hs

omit [RawStream δ] h in
/-- A read that falls short has a status to show for it. -/
theorem status_of_short {kind : ReadKind} (hshort : FallsShort kind dst ch) :
    ∃ k, (read kind dst ch).1.status = .ok (.data k) := by
  unfold FallsShort at hshort
  split at hshort
  · obtain ⟨k, -, hs, -⟩ := hshort
    exact ⟨k, hs⟩
  · exact ⟨0, hshort.1⟩

/-- A read falls short where the source had nothing. -/
theorem short_admits {kind : ReadKind} (hshort : FallsShort kind dst ch) :
    W ((read kind dst ch).2.chain.lower (read kind dst ch).2.device).2 := by
  obtain ⟨k, hs⟩ := status_of_short hshort
  rcases read_prepared Transport.inward_unit kind dst ch with ⟨hnot, -⟩ | ⟨-, -, hside, j, hread⟩
  · exact absurd hs (hnot k)
  unfold FallsShort lineRead at hshort
  rw [hread] at hshort ⊢
  cases hw : wanted kind with
  | some n =>
    rw [hw] at hshort
    obtain ⟨k, hk, hs, he⟩ := hshort
    exact units_admit h hs hk he
  | none =>
    rw [hw] at hshort
    obtain ⟨hs, hline⟩ := hshort
    rw [← hside.settings] at hline
    exact line_admits h hs hline

end Stream

end Device

section Recorded
variable {δ : Type} [Transport δ]

/-- The source had nothing when it was last asked, with these the answers of the device during a read:
the last of them was that nothing is there yet; or there are none, the read before was told to wait,
and what is held back behind the end marker has not changed since. -/
def Heard (answers : List (Except IoError (List UInt8))) (ch ch' : Channel (Recorded δ)) : Prop :=
  match answers.getLast? with
  | some answer => (Fetch.ofRead answer).isWouldBlock = true
  | none => ch.isBlocked = .ok true ∧ ch'.chain.cutoff = ch.chain.cutoff

section Read
variable {ch : Channel (Recorded δ)} (hb : ch.chain.readAhead.blocking = false)
  (haw : ch.chain.readAhead.starved = true → ch.chain.cutoff.reached = false) {kind : ReadKind}
  {dst : Data} {k : Nat} (hs : (read kind dst ch).1.status = .ok (.data k))
include hs

/-- A read that brings units leaves a channel that can be read. -/
theorem checkRead_of_data : ch.checkRead = .ok () ∧ (read kind dst ch).2.checkRead = .ok () := by
  rcases read_prepared Transport.inward_answers kind dst ch with ⟨hnot, -⟩ | ⟨hcheck, -, hb, j, hread⟩
  · exact absurd hs (hnot k)
  obtain ⟨c, d, ended, hrenew⟩ := exists_renew_readThrough dst ch.chain ch.prepared (wanted kind) j
  refine ⟨hcheck, ?_⟩
  rw [hread]
  dsimp only
  rw [hrenew]
  exact checkRead_renew hcheck ch.closed_prepared hb.mode

include hb haw in
/-- What it says afterwards is what was heard. -/
theorem blocked_iff_heard
    (hsound : ∀ a ∈ (read kind dst ch).2.device.answers.drop ch.device.answers.length,
      ∀ e, Fetch.ofRead a ≠ .failed e) :
    (read kind dst ch).2.isBlocked = .ok true ↔
      Heard ((read kind dst ch).2.device.answers.drop ch.device.answers.length) ch
        (read kind dst ch).2 := by
  obtain ⟨hcheck, hcheck'⟩ := checkRead_of_data hs
  rcases read_prepared Transport.inward_answers kind dst ch with ⟨hnot, -⟩ | ⟨-, -, hside, j, hread⟩
  · exact absurd hs (hnot k)
  have hstart : Input.ReadAhead.Follows (ch.chain.readAhead, ch.chain.cutoff) ch.device.answers
      (ch.chain.lower ch.prepared.device).2 :=
    hside.device ▸ Input.ReadAhead.follows_refl (ch.chain.lower ch.prepared.device).2
  have hfollows : Input.ReadAhead.Follows (ch.chain.readAhead, ch.chain.cutoff) ch.device.answers
      ((read kind dst ch).2.chain.lower (read kind dst ch).2.device).2 := by
    rw [hread]
    exact (readThrough_keeps Input.ReadAhead.closes_follows ch.prepared ⟨hb, haw, hstart⟩
      (wanted kind) dst).2.2
  have htold := hfollows.starved_iff hsound
  rw [isBlocked_eq hcheck', Except.ok.injEq]
  refine htold.trans ?_
  unfold Heard
  rw [isBlocked_eq hcheck, Except.ok.injEq]
  rfl

/-- That it fell short is always said. -/
theorem blocked_of_short [RawStream δ] (h : FallsShort kind dst ch) :
    (read kind dst ch).2.isBlocked = .ok true := by
  rw [isBlocked_eq (checkRead_of_data hs).2, Except.ok.injEq]
  exact short_admits Input.ReadAhead.admits_starved h

end Read

/-- A channel that does not wait says it is blocked when its source had nothing the last time that it
was asked. This is so whenever the read fell short for want of data. So what it says is the truth of the
read just if the source had something, or the read fell short. -/
theorem blocked_tells_short_iff [RawStream δ] (d : δ) (m : OpenMode) (ops : List Op) (kind : ReadKind)
    (dst : Data) (k : Nat) :
    let ch := after ops (init (Recorded.fresh d) m)
    let r := read kind dst ch
    let answers := r.2.device.answers.drop ch.device.answers.length
    ch.settings.blocking = false → r.1.status = .ok (.data k) →
      (∀ a ∈ answers, ∀ e, Fetch.ofRead a ≠ .failed e) →
      (r.2.isBlocked = .ok true ↔ Heard answers ch r.2) ∧
        ((r.2.isBlocked = .ok true ↔ FallsShort kind dst ch) ↔
          (Heard answers ch r.2 → FallsShort kind dst ch)) := by
  intro ch r answers hb hs hsound
  have hfresh : ∀ I : Settings → Bool → Input.Chain → Prop,
      (init (Recorded.fresh d) m).Upholds I := fun I c hc => by cases hc
  have he : ch.ended = false := by
    rcases read_prepared Transport.inward_answers kind dst ch with ⟨hnot, -⟩ | ⟨-, he, -⟩
    · exact absurd hs (hnot k)
    · exact he
  have haw := ((hfresh _).after awaits_invariant ops).chain awaits_invariant he
  have htuned := ((hfresh _).after tuned_invariant ops).chain tuned_invariant he
  have hwaits : ch.chain.readAhead.blocking = false := by
    simp only [Input.Chain.tuning, Input.ReadAhead.tuning, Settings.tuning, Prod.mk.injEq] at htuned
    exact htuned.2.2.1.2.2.trans hb
  have hheard := blocked_iff_heard hwaits haw hs hsound
  refine ⟨hheard, fun hiff hh => hiff.1 (hheard.2 hh), fun himp => ⟨fun hf => ?_, ?_⟩⟩
  · exact himp (hheard.1 hf)
  · exact blocked_of_short hs

end Recorded

/-- A line had to wait for its end. Two of the characters that waited with it are handed out then, and
nothing is asked for. -/
theorem blocked_tells_short_iff_kept :
    let d := Transport.Rehearsed.quiet.feed [.units [0x61, 0x62, 0x63], .delay, .units [0x64]]
    let ch := after [.setBlocking false, .read .line (.text [])] (init (Recorded.fresh d) .readOnly)
    let r := read (.units 2) (.text []) ch
    r.1.status = .ok (.data 2) ∧ r.2.device.answers = ch.device.answers ∧ r.2.isBlocked = .ok true := by
  intro d ch r
  have hs : r.1.status = .ok (.data 2) := by decide
  have hsame : r.2.device.answers = ch.device.answers := by decide
  have hnone : r.2.device.answers.drop ch.device.answers.length = [] := by
    rw [hsame, List.drop_length]
  obtain ⟨hheard, -⟩ := blocked_tells_short_iff d .readOnly
    [.setBlocking false, .read .line (.text [])] (.units 2) (.text []) 2 (by decide) hs (by
      rw [hnone]
      simp)
  refine ⟨hs, hsame, hheard.2 ?_⟩
  rw [hnone]
  exact ⟨by decide, by decide⟩

/-- The one character asked for is there, and it is still said that the channel is blocked: there were
no others. -/
theorem blocked_behind_probe :
    let d := Transport.Rehearsed.quiet.feed [.units [0x61], .delay]
    let ch := after [.setBlocking false] (init (Recorded.fresh d) .readOnly)
    let r := read (.units 1) (.text []) ch
    r.1.status = .ok (.data 1) ∧
      ¬ (r.2.isBlocked = .ok true ↔ FallsShort (.units 1) (.text []) ch) := by
  intro d ch r
  have hs : r.1.status = .ok (.data 1) := by decide
  have hblocked : r.2.isBlocked = .ok true := by decide
  refine ⟨hs, fun hiff => ?_⟩
  obtain ⟨k, hk, hk', -⟩ := hiff.1 hblocked
  obtain rfl : 1 = k := by simpa using hs.symm.trans hk'
  exact absurd hk (Nat.lt_irrefl 1)

end Channel

end ScriptChannel
