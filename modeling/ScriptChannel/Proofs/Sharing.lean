import ScriptChannel.Proofs.Channel.Upkeep
import ScriptChannel.Shared

/-!
# The owners of a shared channel

Owners come and go in any order, and in between any of them does something to the channel under the
lock. Whatever they do, the count is that of the handles that were not detached, and the channel is
closed once: by the owner that leaves last, unless one of them closed it before. Nothing that an owner
has written is lost then.
-/

namespace ScriptChannel
open Transport

namespace Shared
open Channel
variable {δ : Type}

/-- What an owner does to the channel under the lock. -/
inductive Deed
  | op (op : Channel.Op)
  | setName (name : String)
  | seekReset
  deriving DecidableEq, Repr

/-- What an owner does, each named by its handle. -/
inductive Act
  | attach (h : Nat)
  | detach (h : Nat)
  | within (h : Nat) (deed : Deed)
  deriving DecidableEq, Repr

/-- A shared channel, the handles that were not detached, and how many there ever were. -/
structure Circle (δ : Type) where
  shared : Shared δ
  handles : List Nat
  issued : Nat

/-- A channel with its first owner. -/
def Circle.init (ch : Channel δ) : Circle δ := ⟨Shared.init ch, [0], 1⟩

def Act.owner : Act → Nat
  | attach h | detach h | within h _ => h

section Device
variable [Transport δ]

def Deed.perform : Deed → Channel δ → Channel δ
  | op a, ch => a.perform ch
  | setName name, ch => (ch.setName name).2
  | seekReset, ch => ch.seekReset

/-- The channel after some deeds. -/
def done (deeds : List Deed) (ch : Channel δ) : Channel δ :=
  deeds.foldl (fun ch deed => deed.perform ch) ch

def Act.perform : Act → Circle δ → Circle δ
  | attach _, w => ⟨w.shared.attach, w.issued :: w.handles, w.issued + 1⟩
  | detach h, w => { w with shared := w.shared.detach.2, handles := w.handles.erase h }
  | within _ deed, w => { w with shared := (w.shared.within fun ch => ((), deed.perform ch)).2 }

/-- The circle after some acts. -/
def run (acts : List Act) (w : Circle δ) : Circle δ := acts.foldl (fun w a => a.perform w) w

/-- Only owners act. -/
def Orderly : List Act → Circle δ → Prop
  | [], _ => True
  | a :: acts, w => a.owner ∈ w.handles ∧ Orderly acts (a.perform w)

instance Orderly.decide : (acts : List Act) → (w : Circle δ) → Decidable (Orderly acts w)
  | [], _ => .isTrue trivial
  | a :: acts, w =>
    have := Orderly.decide acts (a.perform w)
    inferInstanceAs (Decidable (a.owner ∈ w.handles ∧ Orderly acts (a.perform w)))

/-- The bytes that a deed puts down. -/
def Deed.puts : Deed → Channel (Recorded δ) → List UInt8
  | op a, ch => a.puts ch
  | setName _, _ | seekReset, _ => []

/-- The bytes that some deeds put down. -/
def put : List Deed → Channel (Recorded δ) → List UInt8
  | [], _ => []
  | deed :: deeds, ch => deed.puts ch ++ put deeds (deed.perform ch)

/-- The bytes that an act puts down. The owner that leaves last closes the channel. -/
def Act.puts : Act → Circle (Recorded δ) → List UInt8
  | attach _, _ => []
  | detach _, w => if w.shared.owners = 1 then w.shared.channel.ending else []
  | within _ deed, w => deed.puts w.shared.channel

/-- The bytes that some acts put down. -/
def putAmong : List Act → Circle (Recorded δ) → List UInt8
  | [], _ => []
  | a :: acts, w => a.puts w ++ putAmong acts (a.perform w)

end Device

/-- What holds of the owners of a channel at any time. An owner may have asked for it to be closed. -/
structure Circle.Governed [Transport δ] (w : Circle (Recorded δ)) (asked : Prop) : Prop where
  count : w.shared.owners = w.handles.length
  distinct : w.handles.Nodup
  closed : w.shared.channel.closed = true ↔ w.handles = [] ∨ asked
  once : w.shared.channel.device.log.countP Entry.isClose = w.shared.channel.closed.toNat
  /-- An owner that leaves others behind is told how many, and changes nothing else. -/
  leaves (h : Nat) (hh : h ∈ w.handles) (hothers : w.handles ≠ [h]) :
    w.shared.detach.1 = .ok (w.handles.erase h).length ∧
      w.shared.detach.2.channel.closed = w.shared.channel.closed ∧
      w.shared.detach.2.channel.device = w.shared.channel.device
  /-- The last one closes the channel, if that was not done, and is told the first failure. -/
  last (h : Nat) (hh : w.handles = [h]) :
    w.shared.detach.2.channel.closed = true ∧
      ∃ calls, w.shared.detach.2.channel.device.log = w.shared.channel.device.log ++ calls ∧
        calls.countP Entry.isClose = (!w.shared.channel.closed).toNat ∧
        w.shared.detach.1 = ((outcome calls).mapError .io).map fun _ => 0

section Detach
variable [Transport δ]

/-- The channel that the last owner closes. -/
def leaving (s : Shared δ) : Channel δ := s.channel.release.2.note (.lastDetached s.channel.name)

theorem detach_last {s : Shared δ} (h : s.owners = 1) :
    s.detach = (s.leaving.close.1.map fun _ => 0, ⟨s.leaving.close.2⟩) := by
  have hzero : s.channel.release.1 = 0 := by
    change s.channel.owners - 1 = 0
    rw [show s.channel.owners = 1 from h]
  simp only [detach, hzero, if_true]
  rfl

theorem detach_others {s : Shared δ} (h : 1 < s.owners) :
    s.detach = (.ok (s.owners - 1), ⟨s.channel.release.2⟩) := by
  have hsome : s.channel.release.1 ≠ 0 := by
    change s.channel.owners - 1 ≠ 0
    have := show 1 < s.channel.owners from h
    omega
  simp only [detach, hsome, if_false]
  rfl

omit [Transport δ] in
theorem aside_leaving (s : Shared δ) : Aside s.channel s.leaving :=
  (aside_release s.channel).trans (aside_note _ _)

end Detach

variable [Transport δ] {w : Circle (Recorded δ)} {asked : Prop}

/-- The count is right and the channel is well kept. -/
structure Circle.Sound (w : Circle (Recorded δ)) (asked : Prop) : Prop where
  count : w.shared.owners = w.handles.length
  distinct : w.handles.Nodup
  fresh : ∀ h ∈ w.handles, h < w.issued
  tended : w.shared.channel.Tended
  closed : w.shared.channel.closed = true ↔ w.handles = [] ∨ asked

/-- The act asks for the channel to be closed. -/
def Act.Asks (a : Act) : Prop := ∃ h, a = .within h (.op .close)

theorem exists_asks_iff {acts : List Act} :
    (∃ a ∈ acts, a.Asks) ↔ ∃ h, Act.within h (.op .close) ∈ acts := by
  constructor
  · rintro ⟨a, ha, h, rfl⟩
    exact ⟨h, ha⟩
  · rintro ⟨h, ha⟩
    exact ⟨_, ha, h, rfl⟩

theorem Deed.owners_perform (deed : Deed) (ch : Channel δ) :
    (deed.perform ch).owners = ch.owners := by
  cases deed with
  | op a => exact Channel.owners_perform a ch
  | setName name =>
    simp only [Deed.perform, Channel.setName]
    split <;> rfl
  | seekReset => rfl

theorem aside_setName (name : String) (ch : Channel δ) :
    Aside ch ((Deed.setName name).perform ch) := by
  simp only [Deed.perform, Channel.setName]
  split <;> exact ⟨rfl, rfl, rfl, rfl, rfl, rfl⟩

theorem aside_seekReset (ch : Channel δ) : Aside ch (Deed.seekReset.perform ch) :=
  ⟨rfl, rfl, rfl, rfl, rfl, Option.isSome_map⟩

section Delivery
variable {G : Recorded δ → Prop} (hG : Willing G)
include hG

/-- What an owner writes is handed over or waits. -/
theorem Deed.holds {ch : Channel (Recorded δ)} {bs : List UInt8} (h : ch.Holds G bs)
    (ht : ch.Tended) (deed : Deed) : (deed.perform ch).Holds G (bs ++ deed.puts ch) := by
  cases deed with
  | op a => exact h.perform hG ht.quiet ht.marked ht.running a
  | setName name =>
    rw [Deed.puts, List.append_nil]
    exact h.aside (aside_setName name ch)
  | seekReset =>
    rw [Deed.puts, List.append_nil]
    exact h.aside (aside_seekReset ch)

theorem Act.holds {bs : List UInt8} (h : w.shared.channel.Holds G bs) (hw : w.Sound asked) {a : Act}
    (ha : a.owner ∈ w.handles) : (a.perform w).shared.channel.Holds G (bs ++ a.puts w) := by
  cases a with
  | attach i =>
    rw [Act.puts, List.append_nil]
    exact h.aside ((aside_retain _).trans (aside_note _ _))
  | within i deed => exact Deed.holds hG h hw.tended deed
  | detach i =>
    change (w.shared.detach.2).channel.Holds G _
    have hpos : 0 < w.handles.length := List.length_pos_of_mem ha
    rw [← hw.count] at hpos
    rcases Nat.lt_or_eq_of_le hpos with hothers | hlast
    · rw [detach_others hothers, Act.puts, if_neg (by omega), List.append_nil]
      exact h.aside (aside_release _)
    · rw [detach_last hlast.symm, Act.puts, if_pos hlast.symm]
      have ha := aside_leaving w.shared
      have ht := hw.tended.aside ha
      have hclose := (h.aside ha).close hG ht.quiet ht.marked ht.running
      rw [ha.ending] at hclose
      exact hclose

end Delivery

section Owners
variable [Tireless δ]

theorem Deed.tended {ch : Channel (Recorded δ)} (h : ch.Tended) (deed : Deed) :
    (deed.perform ch).Tended ∧
      ((deed.perform ch).closed = true ↔ ch.closed = true ∨ deed = .op .close) := by
  cases deed with
  | op a => simpa [Deed.perform] using h.perform a
  | setName name =>
    have ha := aside_setName name ch
    exact ⟨h.aside ha, by rw [ha.closed]; simp⟩
  | seekReset =>
    have ha := aside_seekReset ch
    exact ⟨h.aside ha, by rw [ha.closed]; simp⟩

/-- Each act of an owner keeps the count right, and closes the channel only if it asks for that or is
the departure of the last one. -/
theorem Circle.Sound.perform (h : w.Sound asked) {a : Act} (ha : a.owner ∈ w.handles) :
    (a.perform w).Sound (asked ∨ a.Asks) := by
  have hsome : w.handles ≠ [] := List.ne_nil_of_mem ha
  have hcount : w.shared.channel.owners = w.handles.length := h.count
  have hclosed : w.shared.channel.closed = true ↔ asked := by simpa [hsome] using h.closed
  cases a with
  | attach i =>
    have haside : Aside w.shared.channel ((Act.attach i).perform w).shared.channel :=
      (aside_retain _).trans (aside_note _ _)
    refine ⟨congrArg (· + 1) hcount, ?_, ?_, h.tended.aside haside, ?_⟩
    · refine List.nodup_cons.2 ⟨fun hi => ?_, h.distinct⟩
      exact absurd (h.fresh _ hi) (Nat.lt_irrefl _)
    · intro j hj
      rcases List.mem_cons.1 hj with rfl | hj
      · exact Nat.lt_succ_self _
      · exact Nat.lt_succ_of_lt (h.fresh j hj)
    · rw [haside.closed, hclosed]
      simp [Act.perform, Act.Asks]
  | within i deed =>
    obtain ⟨htended, hdone⟩ := Deed.tended h.tended deed
    refine ⟨(deed.owners_perform _).trans hcount, h.distinct, h.fresh, htended, ?_⟩
    refine hdone.trans ?_
    rw [hclosed]
    simp [Act.perform, Act.Asks, hsome]
  | detach i =>
    have hmem : i ∈ w.handles := ha
    have herase : (w.handles.erase i).length = w.handles.length - 1 := List.length_erase_of_mem hmem
    have hpos : 0 < w.handles.length := List.length_pos_of_mem hmem
    have hkept : ∀ j ∈ w.handles.erase i, j < w.issued := fun j hj =>
      h.fresh j (List.mem_of_mem_erase hj)
    have hasks : ¬ (Act.detach i).Asks := by simp [Act.Asks]
    rcases Nat.lt_or_eq_of_le hpos with hothers | hlast
    · have hdetach : ((Act.detach i).perform w).shared = ⟨w.shared.channel.release.2⟩ :=
        congrArg Prod.snd (detach_others (h.count ▸ hothers))
      have hleft : w.handles.erase i ≠ [] := by
        rw [← List.length_pos_iff, herase]
        omega
      refine ⟨?_, h.distinct.erase i, hkept, ?_, ?_⟩
      · rw [hdetach]
        exact (congrArg (· - 1) hcount).trans herase.symm
      · rw [hdetach]
        exact h.tended.aside (aside_release _)
      · rw [hdetach]
        refine hclosed.trans ?_
        simp [Act.perform, hleft, hasks]
    · have hdetach : ((Act.detach i).perform w).shared = ⟨w.shared.leaving.close.2⟩ :=
        congrArg Prod.snd (detach_last (hcount.trans hlast.symm))
      have hnone : w.handles.erase i = [] := by
        rw [← List.length_eq_zero_iff, herase, ← hlast]
      have howners : w.shared.leaving.close.2.owners = w.shared.channel.owners - 1 :=
        Channel.owners_perform .close w.shared.leaving
      refine ⟨?_, h.distinct.erase i, hkept, ?_, ?_⟩
      · rw [hdetach]
        exact howners.trans ((congrArg (· - 1) hcount).trans herase.symm)
      · rw [hdetach]
        exact ((h.tended.aside (aside_leaving _)).perform .close).1
      · rw [hdetach]
        have hclosed' := closed_close w.shared.leaving
        simp [Act.perform, hnone, hclosed']

theorem Circle.Sound.governed (h : w.Sound asked) : w.Governed asked where
  count := h.count
  distinct := h.distinct
  closed := h.closed
  once := h.tended.closes
  leaves i hi hothers := by
    have hlength : 1 < w.shared.owners := by
      rw [h.count]
      refine Nat.lt_of_le_of_ne (List.length_pos_of_mem hi) fun hone => hothers ?_
      obtain ⟨j, hj⟩ := List.length_eq_one_iff.1 hone.symm
      rw [hj, List.mem_singleton] at hi
      rw [hj, hi]
    rw [detach_others hlength, List.length_erase_of_mem hi, h.count]
    exact ⟨rfl, rfl, rfl⟩
  last i hi := by
    have hone : w.shared.owners = 1 := by rw [h.count, hi]; rfl
    have ha := aside_leaving w.shared
    obtain ⟨⟨calls, hlog, hcloses, hanswer⟩, -⟩ := (h.tended.aside ha).close
    rw [detach_last hone]
    refine ⟨closed_close _, calls, ?_, ?_, ?_⟩
    · rw [← ha.device]
      exact hlog
    · rw [← ha.closed]
      exact hcloses
    · rw [hanswer]

/-- What is so at any time, and what was handed over by then, through any run. -/
theorem Circle.Sound.run (h : w.Sound asked) {acts : List Act} (hacts : Orderly acts w) :
    (run acts w).Sound (asked ∨ ∃ a ∈ acts, a.Asks) ∧
      ∀ {G : Recorded δ → Prop} {bs : List UInt8}, Willing G → w.shared.channel.Holds G bs →
        (Shared.run acts w).shared.channel.Holds G (bs ++ putAmong acts w) := by
  induction acts generalizing w asked with
  | nil =>
    refine ⟨by simpa [Shared.run] using h, fun _ hholds => ?_⟩
    rw [putAmong, List.append_nil]
    exact hholds
  | cons a acts ih =>
    obtain ⟨ha, hacts⟩ := hacts
    obtain ⟨hsound, hholds⟩ := ih (h.perform ha) hacts
    refine ⟨?_, fun hG hstart => ?_⟩
    · simpa only [Shared.run, List.foldl_cons, List.mem_cons, exists_eq_or_imp, or_assoc] using hsound
    · rw [putAmong, ← List.append_assoc]
      exact hholds hG (Act.holds hG hstart h ha)

/-- So it is with what is done before the channel is shared. -/
theorem tended_done {ch : Channel (Recorded δ)} (h : ch.Tended) (deeds : List Deed) :
    (done deeds ch).Tended ∧
      ((done deeds ch).closed = true ↔ ch.closed = true ∨ .op .close ∈ deeds) ∧
      (done deeds ch).owners = ch.owners ∧
      ∀ {G : Recorded δ → Prop} {bs : List UInt8}, Willing G → ch.Holds G bs →
        (done deeds ch).Holds G (bs ++ put deeds ch) := by
  induction deeds generalizing ch with
  | nil =>
    refine ⟨h, by simp [done], rfl, fun _ hholds => ?_⟩
    rw [put, List.append_nil]
    exact hholds
  | cons deed deeds ih =>
    obtain ⟨htended, hclosed⟩ := Deed.tended h deed
    obtain ⟨hdone, hdones, howners, hholds⟩ := ih htended
    refine ⟨hdone, ?_, howners.trans (deed.owners_perform ch), fun hG hstart => ?_⟩
    · rw [List.mem_cons, ← or_assoc, @eq_comm _ (Deed.op .close) deed, ← hclosed]
      exact hdones
    · rw [put, ← List.append_assoc]
      exact hholds hG (Deed.holds hG hstart h deed)

/-- Whatever the owners of a channel do, in whatever order, the count is that of their handles. The
channel is closed when one of them asks for it or when the last of them leaves, and the device is
closed once then. If the device does not fail, all that they put down is handed over by the time the
last one has left. -/
theorem owners_govern (d : δ) (m : OpenMode) (before : List Deed) {acts : List Act}
    (hacts : Orderly acts (.init (done before (.init (Recorded.fresh d) m)))) :
    let fresh := Channel.init (Recorded.fresh d) m
    let start := Circle.init (done before fresh)
    let w := run acts start
    w.Governed (.op .close ∈ before ∨ ∃ h, .within h (.op .close) ∈ acts) ∧
      ∀ {G : δ → Prop}, Willing G → G d →
        w.shared.channel.traced = put before fresh ++ putAmong acts start ∧
          (w.handles = [] →
            received w.shared.channel.device.log = put before fresh ++ putAmong acts start) := by
  intro fresh start w
  obtain ⟨htended, hclosed, howners, hholds⟩ := tended_done (tended_fresh d m) before
  have hretained := aside_retain (done before fresh)
  have hstart : start.Sound (.op .close ∈ before) :=
    ⟨congrArg (· + 1) howners, by simp [start, Circle.init], by simp [start, Circle.init],
      htended.aside hretained, by
        change (done before fresh).closed = true ↔ _
        rw [hclosed]
        simp [Channel.init, start, Circle.init]⟩
  obtain ⟨hsound, hrun⟩ := hstart.run hacts
  refine ⟨?_, fun {G} hG hd => ?_⟩
  · rw [← exists_asks_iff]
    exact hsound.governed
  · have hfresh : fresh.Holds (fun d => G d.device) [] := ⟨hd, rfl⟩
    have hheld := hrun (Recorded.willing hG)
      ((hholds (Recorded.willing hG) hfresh).aside hretained)
    refine ⟨hheld.traced, fun hleft => ?_⟩
    have hquiet := hsound.tended.quiet (hsound.closed.2 (.inl hleft))
    have htraced := hheld.traced
    rw [Channel.traced, waiting, hquiet] at htraced
    exact (List.append_nil _).symm.trans htraced

end Owners

/-- The first of two owners leaves behind what the other has written. The sink takes it byte by byte
when the other one leaves, who is told that the device could not be closed. -/
theorem owners_govern_two :
    let d : Rehearsed := { Rehearsed.quiet with
      writes := [.atMost 1]
      hooks := fun h => if h = .close then [some ⟨.other, "stuck"⟩] else [] }
    let start := Circle.init (Channel.init (Recorded.fresh d) ⟨4⟩)
    let acts : List Act :=
      [.attach 0, .within 1 (.op (.write (.text ['h', 'i']))), .detach 0]
    let w := run acts start
    Orderly acts start ∧ w.shared.owners = 1 ∧ w.shared.channel.closed = false ∧
      (∃ calls, calls.countP Entry.isClose = 1 ∧
        w.shared.detach.1 = ((outcome calls).mapError .io).map fun _ => 0) ∧
      w.shared.detach.1 = .error (.io ⟨.other, "stuck"⟩) ∧
      received (run (acts ++ [.detach 1]) start).shared.channel.device.log = [0x68, 0x69] := by
  intro d start acts w
  have hacts : Orderly acts start := by decide
  have hall : Orderly (acts ++ [.detach 1]) start := by decide
  obtain ⟨hgoverned, -⟩ := owners_govern d ⟨4⟩ [] hacts
  obtain ⟨-, hhanded⟩ := owners_govern d ⟨4⟩ [] hall
  obtain ⟨-, calls, -, hcloses, hanswer⟩ := hgoverned.last 1 (by decide)
  refine ⟨hacts, hgoverned.count.trans (by decide), by decide, ⟨calls, ?_, hanswer⟩, by decide, ?_⟩
  · exact hcloses.trans (by decide)
  · exact ((hhanded Rehearsed.willing (by decide)).2 (by decide)).trans (by decide)

end Shared

end ScriptChannel
