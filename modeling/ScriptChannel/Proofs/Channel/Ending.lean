import ScriptChannel.Proofs.Channel.Blocked
import ScriptChannel.Proofs.Channel.Lifecycle
import ScriptChannel.Proofs.Input.Spending
import ScriptChannel.Proofs.Sharing

/-!
# Every read comes to an end

A read of a channel, of whatever kind, reads its device no more often than there is script to pay for it,
and once more to hear of the end. It falls short only of a reader who does not wait, where the device had
nothing the last time it was read. Behind the end of the device or the marker the device is read no more,
until the channel is sent elsewhere or is to look for another marker.
-/

namespace ScriptChannel
open Transport (Rehearsed Step)

/-- Only read calls count as such, and use the script up. -/
theorem Transport.Rehearsed.inward_reading :
    Inward fun d : Rehearsed => (d.readCalls, d.reads) where
  write _ _ := congrArg₂ Prod.mk (Rehearsed.readCalls_cons rfl) rfl
  flush _ := congrArg₂ Prod.mk (Rehearsed.readCalls_cons rfl) rfl
  sync _ := congrArg₂ Prod.mk (Rehearsed.readCalls_cons rfl) rfl
  openInput _ := congrArg₂ Prod.mk (Rehearsed.readCalls_cons rfl) rfl
  openOutput _ := congrArg₂ Prod.mk (Rehearsed.readCalls_cons rfl) rfl

namespace Channel

/-- The input is to go on from elsewhere, or to look for another marker. A write in append mode goes to
the end of the device first. -/
def redirects (m : OpenMode) : Shared.Deed → Bool
  | .op (.seek _) | .op (.setInputMarker _) | .seekReset => true
  | .op (.write _) => m.isAppend
  | .op _ | .setName _ => false

section Device
variable {δ : Type} [Transport δ]

omit [Transport δ] in
/-- A name is given beside all else. -/
theorem beside_setName {α : Type} (f : δ → α) (name : String) (ch : Channel δ) :
    Beside f ch (ch.setName name).2 := by
  unfold setName
  split <;> exact ⟨rfl, rfl, rfl, rfl, rfl⟩

theorem mode_deed (deed : Shared.Deed) (ch : Channel δ) : (deed.perform ch).mode = ch.mode := by
  cases deed with
  | op o => exact mode_perform o ch
  | setName name => exact (beside_setName (fun _ => ()) name ch).mode
  | seekReset => rfl

theorem mode_done (deeds : List Shared.Deed) (ch : Channel δ) : (Shared.done deeds ch).mode = ch.mode := by
  induction deeds generalizing ch with
  | nil => rfl
  | cons deed deeds ih => exact (ih (deed.perform ch)).trans (mode_deed deed ch)

/-- The settings of the stages are those of the channel after any deeds. -/
theorem Upholds.done {I : Settings → Bool → Input.Chain → Prop} (hI : Invariant δ I) {ch : Channel δ}
    (h : ch.Upholds I) (deeds : List Shared.Deed) : (Shared.done deeds ch).Upholds I := by
  induction deeds generalizing ch with
  | nil => exact h
  | cons deed deeds ih =>
    have hdeed : (deed.perform ch).Upholds I := by
      cases deed with
      | op o => exact h.perform hI o
      | setName name => exact (beside_setName (fun _ => ()) name ch).upholds h
      | seekReset =>
        intro c hc
        obtain ⟨c', hc', rfl⟩ := Option.map_eq_some_iff.1 hc
        -- nothing but the place that was reached tells it from a seek
        exact hI.resumed (h c' hc') 1
    exact ih hdeed

omit [Transport δ] in
/-- Whether the end was seen or not. -/
theorem tuning_chain {ch : Channel δ} (h : ch.Upholds fun s _ c => c.tuning = s.tuning) :
    ch.chain.tuning = ch.settings.tuning := by
  cases hi : ch.input with
  | none =>
    simp only [chain, hi, Option.getD_none]
    rfl
  | some c => simpa only [chain, hi, Option.getD_some] using h c hi

/-- The channel is closed, or its input side has met the end or the marker. -/
def Stopped (ch : Channel δ) : Prop :=
  ch.closed = true ∨ Input.ReadAhead.Shut (ch.chain.lower ch.device).2

variable {α : Type} {f : δ → α}

omit [Transport δ] in
theorem Stopped.beside {ch ch' : Channel δ} (h : Input.ReadAhead.Shut (ch.chain.lower ch.device).2)
    (hb : Beside f ch ch') : ch'.Stopped := by
  have hchain : ch'.chain = ch.chain := by rw [chain, chain, hb.input, hb.settings]
  exact .inr (by rw [hchain]; exact h)

omit [Transport δ] in
/-- Only an input side that is built has met anything, and no setting but the marker makes it forget. -/
theorem Stopped.adjusted {ch ch' : Channel δ} {o : Op} (hset : Adjusted ch o ch')
    (h : Input.ReadAhead.Shut (ch.chain.lower ch.device).2) (hm : ∀ m, o ≠ .setInputMarker m) :
    ch'.Stopped := by
  cases hi : ch.input with
  | none => simp [Input.ReadAhead.Shut, chain, hi, newInput, Input.ReadAhead.init, Input.Cutoff.init,
      Input.Chain.lower] at h
  | some c =>
    have hc : Input.ReadAhead.Shut (c.lower ch.device).2 := by simpa [chain, hi] using h
    have hconfigured : ∀ s f g, Input.ReadAhead.Shut ((f c).lower ch.device).2 →
        (ch.configure s f g).Stopped := by
      intro s f g hf
      refine .inr ?_
      simpa [chain, configure, hi] using hf
    cases hset with
    | ignored => exact .inr h
    | inputMarker m => exact absurd rfl (hm m)
    | encoding | bufferSize | buffering | blocking | inputTranslation | outputTranslation
    | outputMarker => exact hconfigured _ _ _ hc

variable (hf : Transport.Inward f) (hclose : ∀ d : δ, f (Transport.close d).2 = f d)
include hf

/-- A read leaves the device as it is there. -/
theorem stopped_read {ch : Channel δ} (h : Input.ReadAhead.Shut (ch.chain.lower ch.device).2)
    (kind : ReadKind) (dst : Data) :
    (read kind dst ch).2.Stopped ∧ f (read kind dst ch).2.device = f ch.device := by
  rcases read_prepared hf kind dst ch with ⟨-, -, hb⟩ | ⟨-, -, hb, j, hread⟩
  · exact ⟨.beside h hb, hb.device⟩
  · obtain ⟨hshut, hdevice⟩ := readThrough_keeps
      (Input.ReadAhead.closes_shut ch.prepared.device) ch.prepared (c := ch.chain) ⟨h, rfl⟩ (wanted kind) dst
    rw [hread]
    exact ⟨.inr hshut, (congrArg f hdevice).trans hb.device⟩

include hclose

theorem device_close (ch : Channel δ) : f ch.close.2.device = f ch.device := by
  refine of_close (P := fun ch' => f ch'.device = f ch.device) (fun _ => rfl) (fun _ => rfl)
    (fun ch' h => ?_) (fun ch' h => ?_) fun ch' h => (hclose _).trans h
  · exact (beside_buildOutput hf ch').device.trans h
  · unfold releaseOutput
    split
    · exact h
    · exact (Output.inward_close hf _ _).trans h

/-- Nothing reads it but a read, and nothing lets reads go on but what redirects the input. -/
theorem stopped_deed {ch : Channel δ} (h : ch.Stopped) {deed : Shared.Deed}
    (hdeed : redirects ch.mode deed = false) :
    (deed.perform ch).Stopped ∧ f (deed.perform ch).device = f ch.device := by
  cases deed with
  | seekReset => cases hdeed
  | setName name =>
    have hb := beside_setName f name ch
    refine ⟨?_, hb.device⟩
    rcases h with hclosed | hshut
    · simp only [Shared.Deed.perform, setName]
      split <;> exact .inl hclosed
    · exact .beside hshut hb
  | op o =>
    rcases h with hclosed | hshut
    · obtain ⟨hdevice, hstays⟩ := closed_perform hclosed o
      exact ⟨.inl hstays, congrArg f hdevice⟩
    by_cases ho : o.isSetting = true
    · have hset := o.adjusted ho ch
      exact ⟨.adjusted hset hshut fun m hm => by simp [hm, redirects] at hdeed,
        congrArg f hset.steady.2.2⟩
    cases o with
    | read kind dst => exact stopped_read hf hshut kind dst
    | write p =>
      have hb : Beside f ch (ch.write p).2 := beside_write hf p hdeed
      exact ⟨.beside hshut hb, hb.device⟩
    | flush =>
      have hb := beside_flush hf ch
      exact ⟨.beside hshut hb, hb.device⟩
    | seek p => cases hdeed
    | close => exact ⟨.inl (closed_close ch), device_close hf hclose ch⟩
    | _ => exact absurd rfl ho

theorem stopped_done {ch : Channel δ} (h : ch.Stopped) {deeds : List Shared.Deed}
    (hdeeds : ∀ deed ∈ deeds, redirects ch.mode deed = false) :
    f (Shared.done deeds ch).device = f ch.device := by
  induction deeds generalizing ch with
  | nil => rfl
  | cons deed deeds ih =>
    obtain ⟨hstays, hdevice⟩ := stopped_deed hf hclose h (hdeeds deed (List.mem_cons_self ..))
    refine (ih hstays fun deed' hmem => ?_).trans hdevice
    rw [mode_deed]
    exact hdeeds deed' (List.mem_cons_of_mem _ hmem)

end Device

section Script
variable {m : OpenMode} {kind : ReadKind} {dst : Data} {ch : Channel Rehearsed}

/-- A read takes the script no further than to its end. -/
theorem drawn_of_read (kind : ReadKind) (dst : Data) (ch : Channel Rehearsed) :
    let after := (read kind dst ch).2
    Rehearsed.Drawn ch.device (Input.ReadAhead.Shut (after.chain.lower after.device).2) after.device := by
  have hsame : ∀ ch' : Channel Rehearsed,
      (ch'.device.readCalls, ch'.device.reads) = (ch.device.readCalls, ch.device.reads) →
      ∀ E, Rehearsed.Drawn ch.device E ch'.device := fun ch' hd E => by
    obtain ⟨hcalls, hreads⟩ := Prod.mk.inj hd
    exact (Rehearsed.drawn_refl E ch.device).congr hcalls hreads
  rcases read_prepared Rehearsed.inward_reading kind dst ch with ⟨-, -, hb⟩ | ⟨-, -, hb, j, hread⟩
  · exact hsame _ hb.device _
  · rw [hread]
    exact readThrough_keeps Input.ReadAhead.closes_drawn ch.prepared (c := ch.chain)
      (hsame _ hb.device _) (wanted kind) dst

/-- A reader who waits is not left short. -/
theorem delayed_of_short (htuned : (read kind dst ch).2.Upholds fun s _ c => c.tuning = s.tuning)
    (hshort : FallsShort kind dst ch) :
    ch.settings.blocking = false ∧ (read kind dst ch).2.device.Delayed := by
  obtain ⟨hblocking, hdelayed⟩ := short_admits Input.ReadAhead.admits_delayed hshort
  refine ⟨?_, hdelayed⟩
  have hsettings : (read kind dst ch).2.settings = ch.settings := settings_perform (.read kind dst) ch
  have hfollows := tuning_chain htuned
  simp only [Input.Chain.tuning, Input.ReadAhead.tuning, Settings.tuning, hsettings,
    Prod.mk.injEq] at hfollows
  exact hfollows.2.2.1.2.2.symm.trans hblocking

/-- How a read of a channel with a script ends, where these are the read calls that it makes. -/
structure Concludes (m : OpenMode) (kind : ReadKind) (dst : Data) (ch : Channel Rehearsed)
    (calls : List (Nat × Step UInt8)) : Prop where
  made : (read kind dst ch).2.device.readCalls = ch.device.readCalls ++ calls
  played : Step.Played ch.device.reads calls (read kind dst ch).2.device.reads
  length_le : calls.length + Step.budget (read kind dst ch).2.device.reads ≤
    Step.budget ch.device.reads + 1
  /-- It stops before it has all, or a line, only if it does not wait and the device had nothing. -/
  short : FallsShort kind dst ch →
    ch.settings.blocking = false ∧ (read kind dst ch).2.device.Delayed
  /-- Behind the end or the marker there are no read calls, whatever is called. -/
  silent : (∃ c ∈ calls, c.2.isEnd = true) ∨ (read kind dst ch).2.chain.cutoff.reached = true →
    ∀ later : List Shared.Deed, (∀ deed ∈ later, redirects m deed = false) →
      (Shared.done later (read kind dst ch).2).device.readCalls = (read kind dst ch).2.device.readCalls

/-- In every state, each stage that is asked for something answers with something or with news. So in
every state of a channel that can be reached, a read of any kind comes to an end: it makes finitely many
read calls, each of which takes something off the script as long as there is one. -/
theorem read_concludes (d : Rehearsed) (m : OpenMode) (s : Settings) (deeds : List Shared.Deed) :
    (∀ n, 0 < n → ∀ (c : Input.Chain) (d : Rehearsed), c.Serves n d) ∧
      ∀ kind dst, ∃ calls, Concludes m kind dst (Shared.done deeds (opened d m s)) calls := by
  refine ⟨fun n hn c d => c.serves hn d, fun kind dst => ?_⟩
  have htuned := ((Upholds.opened d m s).done tuned_invariant deeds).perform tuned_invariant
    (.read kind dst)
  have hmode : (read kind dst (Shared.done deeds (opened d m s))).2.mode = m :=
    (mode_perform (.read kind dst) _).trans (mode_done deeds (opened d m s))
  generalize Shared.done deeds (opened d m s) = ch at htuned hmode ⊢
  obtain ⟨calls, hcalls, hplayed, hend⟩ := drawn_of_read kind dst ch
  refine ⟨calls, hcalls, hplayed, hplayed.length_le.1, delayed_of_short htuned, ?_⟩
  intro hover later hlater
  have hstopped : (read kind dst ch).2.Stopped := .inr (hover.elim hend .inr)
  have hsilent := stopped_done Rehearsed.inward_reading
    (fun d => congrArg₂ Prod.mk (Rehearsed.readCalls_cons rfl) rfl) hstopped (hmode.symm ▸ hlater)
  exact congrArg Prod.fst hsilent

/-- The interrupted call is made again, and the second read makes none. -/
example :
    let d := Rehearsed.quiet.feed [.units [0x61], .interruption, .units [0x62]]
    let reads : List Shared.Deed := [.op (.read .all (.text [])), .op (.read .line (.text []))]
    (Shared.done reads (opened d .readOnly .default)).device.readCalls.map Prod.snd =
      [.units [0x61], .interruption, .units [0x62], .theEnd] := by decide

end Script

end Channel

end ScriptChannel
