import ScriptChannel.Input.Rewind
import ScriptChannel.Proofs.Runs

/-!
# Going back to a mark, signal by signal

What is to come are the bytes to be handed out again and then what the source says. What is kept
behind a mark is what was handed out since, as long as it fits, so going back undoes it.
-/

namespace ScriptChannel.Input.Rewind
variable {σ : Type}

/-- Nothing read since the mark is lost, if it is not more than may be kept. -/
def Keeps (us : List UInt8) (s s' : Rewind × σ) : Prop :=
  ∀ limit, s.1.limit = some limit → s.1.behind.length + us.length ≤ limit →
    s'.1.limit = some limit ∧ s'.1.behind = s.1.behind ++ us

theorem Keeps.append {us vs : List UInt8} {s s' s'' : Rewind × σ} (h : Keeps us s s')
    (h' : Keeps vs s' s'') : Keeps (us ++ vs) s s'' := by
  intro limit hl hle
  simp only [List.length_append] at hle
  obtain ⟨hl', hb'⟩ := h limit hl (by omega)
  have hlen : s'.1.behind.length = s.1.behind.length + us.length := by simp [hb']
  obtain ⟨hl'', hb''⟩ := h' limit hl' (by omega)
  exact ⟨hl'', by rw [hb'', hb', List.append_assoc]⟩

theorem reset_of_limit {r : Rewind} {limit : Nat} (h : r.limit = some limit) :
    r.reset = (.ok (), ⟨[], r.behind ++ r.ahead, none⟩) := by
  simp [reset, h]

theorem record_ahead (r : Rewind) (h : r.ahead = []) (bs : List UInt8) : (r.record bs).ahead = [] := by
  unfold record
  split
  · exact h
  · split
    · rfl
    · exact h

variable [ByteSource σ]

theorem fetch_keeps (n : Nat) (s : Rewind × σ) : Keeps (fetch n s).1.units s (fetch n s).2 := by
  obtain ⟨r, s⟩ := s
  intro limit hl hle
  dsimp only at hl
  simp only [fetch] at hle ⊢
  by_cases h0 : n = 0
  · simp [h0, hl, Fetch.units]
  · rw [if_neg h0] at hle ⊢
    by_cases ha : r.ahead.isEmpty = true
    · simp only [ha, Bool.not_true, Bool.false_eq_true, if_false] at hle ⊢
      rcases hf : (ByteSource.fetch n s).1 with us | _ | _ | e
      · simp only [hf, Fetch.units] at hle
        have hfit : ¬ r.behind.length + us.length > limit := by omega
        simp [Fetch.isGot, Fetch.units, record, hl, hfit]
      · simp [Fetch.isGot, Fetch.units, hl]
      · simp [Fetch.isGot, Fetch.units, hl]
      · simp [Fetch.isGot, Fetch.units, hl]
    · have ha' : r.ahead.isEmpty = false := Bool.eq_false_iff.2 ha
      simp [ha', replay, isMarked, hl, Fetch.units]

variable [ByteStream σ]

/-- What is to come from this stage. -/
def coming (s : Rewind × σ) : Coming UInt8 :=
  Coming.ofUnits s.1.ahead ++ ByteStream.coming s.2

theorem fetch_takes {n : Nat} (hn : 0 < n) (s : Rewind × σ) :
    (fetch n s).1.Takes n (coming s) (coming (fetch n s).2) := by
  obtain ⟨r, s⟩ := s
  simp only [fetch]
  rw [if_neg (Nat.pos_iff_ne_zero.1 hn)]
  by_cases ha : r.ahead = []
  · have ht := ByteStream.fetch_takes n s hn
    have hr : (if (ByteSource.fetch n s).1.isGot = true then
        r.record (ByteSource.fetch n s).1.units else r).ahead = [] := by
      split
      · exact record_ahead r ha _
      · exact ha
    simp only [ha, List.isEmpty_nil, Bool.not_true, Bool.false_eq_true, if_false]
    simpa [coming, ha, hr] using ht
  · have ha' : r.ahead.isEmpty = false := by simpa using ha
    simp only [ha', Bool.not_false, if_true, replay]
    refine ⟨by simp [List.take_eq_nil_iff, ha, Nat.pos_iff_ne_zero.1 hn], List.length_take_le _ _, ?_⟩
    simp only [coming]
    rw [← List.append_assoc, ← Coming.ofUnits_append, List.take_append_drop]

instance : ByteStream (Rewind × σ) where
  coming := coming
  fetch_takes _ s hn := fetch_takes hn s
  length_coming_le s := by
    have hs := ByteStream.length_coming_le s.2
    simp only [coming, List.length_append, Coming.length_ofUnits, ByteSource.budget]
    omega

instance [Settled σ] : Settled (Rewind × σ) where
  coming_of_ended n s h := by
    obtain ⟨r, s⟩ := s
    simp only [ByteSource.fetch, fetch] at h ⊢
    by_cases h0 : n = 0
    · simp [h0] at h
    · by_cases ha : r.ahead = []
      · simp only [h0, ha, List.isEmpty_nil, Bool.not_true, Bool.false_eq_true, if_false] at h ⊢
        simp [ByteStream.coming, coming, h, Fetch.isGot, ha, Settled.coming_of_ended n s h]
      · simp [h0, ha] at h

/-- A run of at most `limit` bytes from a fresh mark can be undone. -/
theorem collect_reset [Settled σ] {piece : Nat} (hp : 0 < piece) (limit : Nat) (s : Rewind × σ) :
    let q := collect piece ByteSource.run limit (s.1.mark limit, s.2)
    q.1.2.Takes Coming.Off q.1.1 (coming s) (coming q.2) ∧
      (q.1.2 = .ended → coming q.2 = []) ∧ Fulfils limit q.1 ∧
      q.2.1.reset = (.ok (), ⟨[], q.1.1 ++ q.2.1.ahead, none⟩) := by
  obtain ⟨r, s⟩ := s
  have hrun := collect_spec piece (ByteSource.run (σ := Rewind × σ))
    (Q := fun us h s s' => h.Takes Coming.Off us (coming s) (coming s') ∧
      (h = .ended → coming s' = []) ∧ Keeps us s s')
    (fun s => ⟨rfl, by simp, fun limit hl hle => ⟨hl, (List.append_nil _).symm⟩⟩)
    (fun h h' => ⟨Halt.Takes.append Coming.Off.append h.1 h'.1, h'.2.1, h.2.2.append h'.2.2⟩)
    hp
    (by
      intro n s hn
      obtain ⟨⟨ht, hend⟩, hfit⟩ := ByteSource.run_takes hn s
      refine ⟨⟨ht, hend, ?_⟩, hfit⟩
      have hk := fetch_keeps n s
      have hu : (ByteSource.run n s).1.1 = (fetch n s).1.units := by
        simp only [ByteSource.run, ByteSource.fetch]
        cases (fetch n s).1 <;> rfl
      rw [hu]
      exact hk)
    limit (r.mark limit, s)
  obtain ⟨⟨ht, hend, hk⟩, hful⟩ := hrun
  refine ⟨ht, hend, hful, ?_⟩
  obtain ⟨hl, hb⟩ := hk limit rfl (by simpa [mark] using hful.length_le)
  rw [reset_of_limit hl, hb]
  rfl

end ScriptChannel.Input.Rewind
