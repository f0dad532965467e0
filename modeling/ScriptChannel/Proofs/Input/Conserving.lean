import Mathlib.Data.List.Induction
import Mathlib.Data.List.TakeWhile
import ScriptChannel.Proofs.Input.Hearing
import ScriptChannel.Proofs.Stock

/-!
# No byte lost at the marker

The stage with the marker in use: it is read with buffers of any size, its marker is changed at any
time, and its reader hands bytes back that were delivered last. Whatever the order of all this, the
bytes that the device said are those delivered for good and those held, in that order. A marker that
was found closes the stage until a marker is set, be it the same.
-/

namespace ScriptChannel.Input.Cutoff

/-- What a user of the stage does. -/
inductive Call
  | read (size : Nat)
  | setMarker (marker : UInt8)
  /-- The last bytes that were delivered and not handed back, so many of them. -/
  | handBack (count : Nat)

namespace Call

/-- The marker that a call puts in force. -/
def marker? : Call → Option UInt8
  | setMarker m => some m
  | _ => none

end Call

/-- The marker in force after some calls: the one that was set last. -/
def inForce (m : UInt8) (calls : List Call) : UInt8 := (calls.filterMap Call.marker?).getLastD m

/-- The stage and what its user has of it. -/
structure Usage (δ : Type) where
  /-- Delivered and not handed back. -/
  kept : List UInt8
  cutoff : Cutoff
  device : δ

section Reader
variable {δ : Type} [RawReader δ]

/-- A read meets the marker among the bytes that it looks at. -/
def Meets (s : Cutoff × δ) : Call → Prop
  | .read n =>
    s.1.reached = false ∧ n ≠ 0 ∧ s.1.marker ≠ 0 ∧ s.1.marker ∈ (take n s).1.units
  | _ => False

theorem take_marker (n : Nat) (s : Cutoff × δ) :
    (take n s).2.1.marker = s.1.marker ∧ (take n s).2.1.reached = s.1.reached := by
  obtain ⟨c, d⟩ := s
  simp only [take]
  split <;> exact ⟨rfl, rfl⟩

omit [RawReader δ] in
theorem screen_spec (c : Cutoff) (bs : List UInt8) :
    (c.screen bs).2.marker = c.marker ∧
      ((c.screen bs).2.reached = true ↔ c.reached = true ∨ c.marker ≠ 0 ∧ c.marker ∈ bs) ∧
      (c.marker ≠ 0 → c.marker ∉ (c.screen bs).1.units) := by
  unfold screen
  by_cases hmiss : c.marker = 0 ∨ (!bs.contains c.marker) = true
  · rw [if_pos hmiss]
    have hclear : ¬ (c.marker ≠ 0 ∧ c.marker ∈ bs) := by
      simpa [imp_iff_not_or] using hmiss
    exact ⟨rfl, by simp [hclear], fun hm hmem => hclear ⟨hm, hmem⟩⟩
  · rw [if_neg hmiss]
    have hfound : c.marker ≠ 0 ∧ c.marker ∈ bs := by simpa [not_or] using hmiss
    refine ⟨rfl, by simp [unread, hfound], fun _ hmem => ?_⟩
    -- what is delivered stands in front of the first marker
    have hbefore : c.marker ∈ bs.takeWhile (· != c.marker) := by
      dsimp only at hmem
      split at hmem
      · cases hmem
      · exact hmem
    simpa using List.mem_takeWhile_imp hbefore

/-- One read: the marker stays what it is, it is not among the bytes delivered, and it counts as met
when it was met before or is met now. -/
theorem fetch_spec (n : Nat) (s : Cutoff × δ) :
    (fetch n s).2.1.marker = s.1.marker ∧
      ((fetch n s).2.1.reached = true ↔ s.1.reached = true ∨ Meets s (.read n)) ∧
      (s.1.marker ≠ 0 → s.1.marker ∉ (fetch n s).1.units) := by
  obtain ⟨c, d⟩ := s
  obtain ⟨hmarker, hreached⟩ := take_marker n (c, d)
  by_cases hr : c.reached = true
  · rw [fetch_of_reached hr]
    exact ⟨rfl, by simp [hr], fun _ => List.not_mem_nil⟩
  by_cases hn : n = 0
  · have hnone : fetch n (c, d) = (.got [], c, d) := by simp [fetch, hr, hn]
    rw [hnone]
    exact ⟨rfl, by simp [Meets, hn], fun _ => List.not_mem_nil⟩
  simp only [fetch, if_neg hr, if_neg hn, Meets]
  dsimp only at hmarker hreached
  rcases hq : take n (c, d) with ⟨bs | _ | _ | e, c', d'⟩
  · rw [hq] at hmarker hreached
    dsimp only at hmarker hreached
    obtain ⟨hsame, hmet, hclear⟩ := c'.screen_spec bs
    rw [hmarker] at hsame hmet hclear
    refine ⟨hsame, ?_, hclear⟩
    rw [hmet, hreached]
    simp [hr, hn, Fetch.units]
  all_goals
    rw [hq] at hmarker hreached
    dsimp only at hreached
    exact ⟨hmarker, by simp [hreached, Fetch.units], fun _ => List.not_mem_nil⟩

namespace Usage

/-- A new stage over a device. -/
def init (m : UInt8) (d : δ) : Usage δ := ⟨[], .init m, d⟩

def place (u : Usage δ) : Cutoff × δ := (u.cutoff, u.device)

def call (u : Usage δ) : Call → Usage δ
  | .read n =>
    let r := fetch n u.place
    ⟨u.kept ++ r.1.units, r.2.1, r.2.2⟩
  | .setMarker m => { u with cutoff := u.cutoff.setMarker m }
  | .handBack count =>
    let rest := u.kept.length - count
    ⟨u.kept.take rest, u.cutoff.unread (u.kept.drop rest), u.device⟩

def after (u : Usage δ) (calls : List Call) : Usage δ := calls.foldl call u

theorem after_concat (u : Usage δ) (calls : List Call) (c : Call) :
    u.after (calls ++ [c]) = (u.after calls).call c := by
  simp [after]

/-- Among these calls one met the marker, and no other was set since. -/
def Met (u : Usage δ) (calls : List Call) : Prop :=
  ∃ before call between, calls = before ++ call :: between ∧ Meets (u.after before).place call ∧
    ∀ c ∈ between, c.marker? = none

/-- A call delivers bytes, or takes some back, and adds to the bytes said what the device says. -/
theorem said_call (u : Usage δ) (c : Call) :
    ∃ us, RawReader.Said u.device us (u.call c).device ∧
      u.kept ++ u.cutoff.held ++ us = (u.call c).kept ++ (u.call c).cutoff.held := by
  cases c with
  | read n =>
    obtain ⟨us, hsaid, hall⟩ := fetch_said n u.place
    refine ⟨us, hsaid, ?_⟩
    simp only [call, place] at hall ⊢
    rw [List.append_assoc, hall, ← List.append_assoc]
  | setMarker m => exact ⟨[], .start, List.append_nil _⟩
  | handBack count =>
    refine ⟨[], .start, ?_⟩
    simp only [call, unread]
    rw [List.append_nil, ← List.append_assoc, List.take_append_drop]

theorem marker_call (u : Usage δ) (c : Call) :
    (u.call c).cutoff.marker = c.marker?.getD u.cutoff.marker := by
  cases c with
  | read n => exact (fetch_spec n u.place).1
  | setMarker | handBack => rfl

/-- A call that sets a marker opens the stage. Any other leaves it closed, or closes it where it meets
the marker. -/
theorem reached_call (u : Usage δ) (c : Call) :
    (u.call c).cutoff.reached = true ↔
      c.marker? = none ∧ (u.cutoff.reached = true ∨ Meets u.place c) := by
  cases c with
  | read n => exact (fetch_spec n u.place).2.1.trans (by simp [Call.marker?, place])
  | setMarker => simp [call, setMarker, Call.marker?]
  | handBack => simp [call, unread, Call.marker?, Meets]

theorem met_concat (u : Usage δ) (calls : List Call) (c : Call) :
    u.Met (calls ++ [c]) ↔ c.marker? = none ∧ (u.Met calls ∨ Meets (u.after calls).place c) := by
  constructor
  · rintro ⟨before, call, between, hcalls, hmeets, hquiet⟩
    rcases List.eq_nil_or_concat between with rfl | ⟨between, last, rfl⟩
    · obtain ⟨rfl, hlast⟩ := List.append_inj' hcalls rfl
      obtain rfl : c = call := by simpa using hlast
      refine ⟨?_, .inr hmeets⟩
      cases c with
      | read => rfl
      | setMarker | handBack => exact hmeets.elim
    · rw [List.concat_eq_append] at hcalls hquiet
      rw [← List.cons_append, ← List.append_assoc] at hcalls
      obtain ⟨rfl, hlast⟩ := List.append_inj' hcalls rfl
      obtain rfl : c = last := by simpa using hlast
      refine ⟨hquiet c (by simp), .inl ⟨before, call, between, rfl, hmeets, fun c' hc' => ?_⟩⟩
      exact hquiet c' (List.mem_append_left _ hc')
  · rintro ⟨hc, ⟨before, call, between, rfl, hmeets, hquiet⟩ | hmeets⟩
    · refine ⟨before, call, between ++ [c], by simp, hmeets, fun c' hc' => ?_⟩
      rcases List.mem_append.1 hc' with hc' | hc'
      · exact hquiet c' hc'
      · rwa [List.mem_singleton.1 hc']
    · exact ⟨calls, c, [], rfl, hmeets, by simp⟩

/-- Induction over the calls. -/
theorem said_after (u : Usage δ) (calls : List Call) :
    ∃ us, RawReader.Said u.device us (u.after calls).device ∧
      u.kept ++ u.cutoff.held ++ us = (u.after calls).kept ++ (u.after calls).cutoff.held := by
  induction calls using List.reverseRecOn with
  | nil => exact ⟨[], .start, List.append_nil _⟩
  | append_singleton calls c ih =>
    obtain ⟨us, hsaid, hall⟩ := ih
    obtain ⟨vs, hsaid', hall'⟩ := (u.after calls).said_call c
    rw [after_concat]
    exact ⟨us ++ vs, hsaid.trans hsaid', by rw [← List.append_assoc, hall, hall']⟩

theorem marker_after (u : Usage δ) (calls : List Call) :
    (u.after calls).cutoff.marker = inForce u.cutoff.marker calls := by
  induction calls using List.reverseRecOn with
  | nil => rfl
  | append_singleton calls c ih =>
    rw [after_concat, marker_call, ih]
    cases hc : c.marker? <;> simp [inForce, hc]

theorem reached_after {u : Usage δ} (hu : u.cutoff.reached = false) (calls : List Call) :
    (u.after calls).cutoff.reached = true ↔ u.Met calls := by
  induction calls using List.reverseRecOn with
  | nil => simp [after, hu, Met]
  | append_singleton calls c ih => rw [after_concat, reached_call, met_concat, ih]

/-- All that the device said was delivered for good or is held, in the order in which it was said: so
for a device with its bytes in stock the bytes kept, those held and those left in stock are the whole
stream. The marker in force is the one set last, and no read delivers it. And from the read that meets
it up to the next setting, and only then, every read says that the stream has ended, and leaves what is
held and the device alone. -/
theorem conserves (m : UInt8) (d : δ) (calls : List Call) :
    let u := (init m d).after calls
    (RawReader.Said d (u.kept ++ u.cutoff.held) u.device ∧
      ∀ [RawStock δ], u.kept ++ u.cutoff.held ++ RawStock.stock u.device = RawStock.stock d) ∧
    (u.cutoff.marker = inForce m calls ∧
      ∀ n, inForce m calls ≠ 0 → inForce m calls ∉ (fetch n u.place).1.units) ∧
    ((init m d).Met calls ↔ ∀ n, fetch n u.place = (.ended, u.place)) := by
  intro u
  obtain ⟨us, hsaid, hall⟩ := said_after (init m d) calls
  have hmarker : u.cutoff.marker = inForce m calls := marker_after (init m d) calls
  have hreached : u.cutoff.reached = true ↔ (init m d).Met calls := reached_after rfl calls
  obtain rfl : us = u.kept ++ u.cutoff.held := hall
  refine ⟨⟨hsaid, fun {_} => hsaid.stock.symm⟩, ⟨hmarker, fun n => ?_⟩, ?_⟩
  · rw [← hmarker]
    exact (fetch_spec n u.place).2.2
  · rw [← hreached]
    refine ⟨fun hr n => fetch_of_reached hr n u.device, fun hends => ?_⟩
    -- a read into an empty buffer says so only of a closed stage
    by_contra hr
    have hnone : fetch 0 u.place = (.got [], u.place) := by simp [fetch, place, hr]
    cases (hends 0).symm.trans hnone

/-- A byte handed back is the marker now: it is not delivered again. -/
example :
    let d : Transport.Rehearsed :=
      { Transport.Rehearsed.quiet with
        reads := [.interruption, .units [97, 98, 35, 99], .delay, .units [100]] }
    let u := (init 35 d).after
      [.read 3, .setMarker 0, .read 9, .handBack 2, .setMarker 98, .read 1, .handBack 1, .read 8]
    u.kept = [] ∧ u.cutoff = ⟨98, true, [97, 98, 35]⟩ ∧ RawStock.stock u.device = [99, 100] := by
  decide

end Usage

end Reader

end ScriptChannel.Input.Cutoff
