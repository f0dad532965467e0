import ScriptChannel.Proofs.Input.Hearing
import ScriptChannel.Proofs.Input.Latching
import ScriptChannel.Proofs.Input.Translating
import ScriptChannel.Proofs.Transport.Spending

/-!
# Each stage gets on, and none goes on for ever

Whoever asks a stage for something gets something, or the news why not. So each of the loops in the stages
takes from a script what it goes round for, and none is cut short. The device is read until it says that
the stream has ended, and neither it nor the marker is gone past.
-/

namespace ScriptChannel

/-- There is something in the answer to a request for `n` units, and no more than that, or it is news. -/
def Fetch.Serves {α : Type} (n : Nat) : Fetch α → Prop
  | got us => us ≠ [] ∧ us.length ≤ n
  | _ => True

theorem Fetch.Takes.serves {α : Type} {n : Nat} {f : Fetch α} {xs ys : Coming α}
    (h : f.Takes n xs ys) : f.Serves n := by
  cases f with
  | got us => exact ⟨h.1, h.2.1⟩
  | wouldBlock | ended | failed => trivial

namespace Input
open Transport (Rehearsed Step)

namespace Cutoff

/-- Interrupted calls are made again, so no failure is one. -/
theorem fetch_uninterrupted {δ : Type} [RawReader δ] [RawStream δ] {n : Nat} (hn : 0 < n)
    (s : Cutoff × δ) (e : IoError) (h : (fetch n s).1 = .failed e) : e.kind ≠ .interrupted := by
  have htakes := fetch_takes hn s
  rw [h] at htakes
  have hmem : Signal.failure e ∈ coming s := by
    rw [show coming s = _ from htakes]
    exact List.mem_cons_self ..
  unfold coming at hmem
  split at hmem
  · cases hmem
  · have hwhole := Coming.mem_of_mem_upTo hmem
    rcases List.mem_append.1 hwhole with hheld | hdevice
    · simp [Coming.ofUnits] at hheld
    · exact Coming.uninterrupted_of_mem_eased hdevice

/-- That nothing is there yet is what the device answered last. -/
theorem admits_delayed :
    Admits (fun s : Cutoff × Rehearsed => s.2.Delayed) (fetch (δ := Rehearsed)) := by
  rintro n ⟨c, d⟩ h
  by_cases hr : c.reached = true
  · simp [fetch_of_reached hr] at h
  rw [Bool.not_eq_true] at hr
  by_cases hn : n = 0
  · simp [fetch, hr, hn] at h
  by_cases hh : c.held = []
  · obtain ⟨d', -, hlast⟩ := persist_eq_attempt interrupted RawReader.budget (RawReader.read n)
      (P := fun _ : Rehearsed => True) (fun _ _ _ => trivial) (s := d) trivial
    rw [fetch_of_empty hn hr hh, hlast] at h ⊢
    refine ⟨n, (Step.play n d'.reads).1, ?_, ?_⟩
    · simp [Rehearsed.readCalls_read]
    · rw [← Rehearsed.read_fst, ← (c.pass_news _).1]
      exact congrArg Fetch.isWouldBlock h
  · rw [fetch_of_held hn hr hh] at h
    have hbytes := (({ c with held := c.held.drop n } : Cutoff).screen_of_bytes (c.held.take n)).1
    dsimp only at h
    rw [h] at hbytes
    cases hbytes

section Script
variable {start : Rehearsed} {s : Cutoff × Rehearsed}

theorem drawn_take (h : Rehearsed.Drawn start False s.2) {n : Nat} (hn : n ≠ 0) :
    Rehearsed.Drawn start ((take n s).1 = .ended) (take n s).2.2 := by
  obtain ⟨c, d⟩ := s
  simp only [take]
  split
  · obtain ⟨d', hd', hlast⟩ := persist_eq_attempt interrupted RawReader.budget (RawReader.read n)
      (fun d' hd' hagain => (hd'.read hn).imp fun hend => by
        rw [hend] at hagain
        cases hagain) h
    rw [hlast]
    exact (hd'.read hn).imp fun hend => by
      dsimp only
      rw [hend]
      rfl
  · exact h.imp False.elim

/-- Only an end that the stage passes on was answered. -/
theorem drawn_fetch (h : Rehearsed.Drawn start False s.2) (n : Nat) :
    Rehearsed.Drawn start ((fetch n s).1 = .ended) (fetch n s).2.2 := by
  obtain ⟨c, d⟩ := s
  simp only [fetch]
  split
  · exact h.imp False.elim
  split
  · exact h.imp False.elim
  rename_i hn
  have htake := drawn_take h hn
  rcases hq : take n (c, d) with ⟨bs | _ | _ | e, c', d'⟩
  all_goals rw [hq] at htake
  · exact htake.imp fun hend => by cases hend
  all_goals exact htake

end Script

end Cutoff

namespace ReadAhead

/-- The end was noted, or the marker met. -/
def Shut {δ : Type} (s : ReadAhead × Cutoff × δ) : Prop := s.1.ended = true ∨ s.2.1.reached = true

/-- Then nothing is asked of the device, and it stays so. -/
theorem fetch_shut {δ : Type} [RawReader δ] {s : ReadAhead × Cutoff × δ} (h : Shut s) (n : Nat) :
    (fetch n s).2.2 = s.2 ∧ Shut (fetch n s).2 := by
  obtain ⟨b, k, d⟩ := s
  rcases fetch_asks n b (k, d) with ⟨hs, -, hended⟩ | ⟨-, hopen, m, -, hs, -, -⟩
  · refine ⟨hs, ?_⟩
    rw [Shut, hs, hended]
    exact h
  · have hr : k.reached = true := h.resolve_left (by simp [hopen])
    have hask : (ask m (b, k, d)).2.2 = (k, d) := by
      obtain ⟨s', rfl, -, hsame⟩ := ask_answers (n := m) (P := (· = (k, d)))
        (fun s hs hdelay => by
          rw [hs] at hdelay
          simp [ByteSource.fetch, Cutoff.fetch_of_reached hr] at hdelay) b rfl
      rw [hsame]
      simp [ByteSource.fetch, Cutoff.fetch_of_reached hr]
    refine ⟨hs.trans hask, .inr ?_⟩
    rw [hs, hask]
    exact hr

section Script
variable {start : Rehearsed}

/-- Whatever is fetched, the device is read no further than to the end. -/
theorem closes_drawn : Closes (fun s => Rehearsed.Drawn start (Shut s) s.2.2) (fun _ => True)
    (fetch (σ := Cutoff × Rehearsed)) := by
  refine fun n s => ⟨fun h => ?_, fun _ => trivial, fun _ _ => trivial⟩
  by_cases hshut : Shut s
  · obtain ⟨hsame, hstays⟩ := fetch_shut hshut n
    rw [hsame]
    exact h.imp fun _ => hstays
  replace h := h.imp hshut
  obtain ⟨b, s⟩ := s
  rcases fetch_asks n b s with ⟨hs, -⟩ | ⟨-, -, m, -, hs, -, hended⟩
  · rw [hs]
    exact h.imp False.elim
  · obtain ⟨s', hs', hanswer, hsource⟩ := ask_answers (n := m)
      (P := fun s : Cutoff × Rehearsed => Rehearsed.Drawn start False s.2)
      (fun s hs hdelay => (Cutoff.drawn_fetch hs m).imp fun hend => by
        cases hdelay.symm.trans hend) b h
    rw [hs, hsource]
    refine (Cutoff.drawn_fetch hs' m).imp fun hend => .inl ?_
    rw [hended, hanswer]
    exact beq_iff_eq.2 hend

end Script

/-- With the end noted or the marker met the device is left as it is. -/
theorem closes_shut {δ : Type} [RawReader δ] (d : δ) :
    Closes (fun s => Shut s ∧ s.2.2 = d) (fun _ => True) (fetch (σ := Cutoff × δ)) := by
  refine fun n s => ⟨fun ⟨h, hd⟩ => ?_, fun _ => trivial, fun _ _ => trivial⟩
  obtain ⟨hsame, hstays⟩ := fetch_shut h n
  exact ⟨hstays, hsame ▸ hd⟩

/-- Only a reader who does not wait hears of a delay, and it is what the device answered last. -/
theorem admits_delayed : Admits (fun s => s.1.blocking = false ∧ s.2.2.Delayed)
    (fetch (σ := Cutoff × Rehearsed)) := by
  intro n s h
  refine ⟨?_, ?_⟩
  · have htuning := steady_tuning n s
    simp only [tuning, Prod.mk.injEq] at htuning
    rw [htuning.2.2]
    exact Bool.eq_false_iff.2 fun hb => fetch_patient n hb s.2 h
  · rcases fetch_cases n s with ⟨hnot, -⟩ | ⟨m, -, hasked, -, hs⟩
    · exact absurd h hnot
    · obtain ⟨s', -, hanswer, hsource⟩ := ask_answers (n := m) (P := fun _ : Cutoff × Rehearsed => True)
        (fun _ _ _ => trivial) s.1 (s := s.2) trivial
      rw [hs, hsource]
      exact Cutoff.admits_delayed m s' (hanswer.symm.trans (hasked h))

end ReadAhead

namespace Chain

/-- What a request for `n` units comes to at each of the stages. -/
structure Serves {δ : Type} [RawReader δ] (n : Nat) (c : Chain) (d : δ) : Prop where
  cutoff : (Cutoff.fetch n (c.cutoff, d)).1.Serves n
  /-- An interrupted call of the device is made again. -/
  uninterrupted : ∀ e, (Cutoff.fetch n (c.cutoff, d)).1 = .failed e → e.kind ≠ .interrupted
  readAhead : (ReadAhead.fetch n (c.lower d).2).1.Serves n
  /-- A reader who waits does not hear of delays. -/
  patient : c.readAhead.blocking = true → (ReadAhead.fetch n (c.lower d).2).1 ≠ .wouldBlock
  rewind : (Rewind.fetch n (c.lower d)).1.Serves n
  decoding : (Decoding.fetch n (c.decoding, c.lower d)).1.Serves n
  lines : (Lines.read n (c.whole d)).1.2 = .served →
    (Lines.read n (c.whole d)).1.1 ≠ [] ∧ (Lines.read n (c.whole d)).1.1.length ≤ n
  /-- News but a failure comes alone. -/
  alone : (Lines.read n (c.whole d)).1.2 = .wouldBlock ∨ (Lines.read n (c.whole d)).1.2 = .ended →
    (Lines.read n (c.whole d)).1.1 = []

/-- In whatever state they are. -/
theorem serves {δ : Type} [RawReader δ] [RawStream δ] {n : Nat} (hn : 0 < n) (c : Chain) (d : δ) :
    c.Serves n d where
  cutoff := (Cutoff.fetch_takes hn _).serves
  uninterrupted := Cutoff.fetch_uninterrupted hn _
  readAhead := (ReadAhead.fetch_takes hn _).1.serves
  patient hb := ReadAhead.fetch_patient n hb _
  rewind := (Rewind.fetch_takes hn _).serves
  decoding := (Decoding.fetch_takes hn _).serves
  lines hs := by
    obtain ⟨-, -, hfits⟩ := Lines.read_run hn (c.whole d)
    exact ⟨hfits.some_of_served hs, hfits.length_le⟩
  alone hnews := Lines.read_alone n (c.whole d) (by rcases hnews with h | h <;> simp [h])
    (by rcases hnews with h | h <;> simp [h])

end Chain

end Input

end ScriptChannel
