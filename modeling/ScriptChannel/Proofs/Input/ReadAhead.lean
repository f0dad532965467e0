import ScriptChannel.Input.ReadAhead
import ScriptChannel.Proofs.Coming
import ScriptChannel.Proofs.Persist

/-!
# Reading ahead, signal by signal

What is to come is the cache and then, unless the end was met, what the source says. A reader who
waits does not hear of delays. Sizes and policies decide about the pieces only.
-/

namespace ScriptChannel.Input.ReadAhead

/-- What of the source's signals gets through to the reader. -/
def heard {α : Type} (b : ReadAhead) (xs : Coming α) : Coming α := if b.blocking then xs.patient else xs

section Heard
variable {α : Type} (b : ReadAhead)

@[simp] theorem heard_nil : b.heard ([] : Coming α) = [] := by
  simp [heard]

@[simp] theorem heard_ofUnits_append (us : List α) (xs : Coming α) :
    b.heard (Coming.ofUnits us ++ xs) = Coming.ofUnits us ++ b.heard xs := by
  unfold heard
  split <;> simp

@[simp] theorem heard_failure (e : IoError) (xs : Coming α) :
    b.heard (.failure e :: xs) = .failure e :: b.heard xs := by
  unfold heard
  split <;> simp

theorem length_heard_le (xs : Coming α) : (b.heard xs).length ≤ xs.length := by
  unfold heard
  split
  · exact Coming.length_patient_le xs
  · exact Nat.le_refl _

end Heard

theorem firstLine_prefix (n : Nat) (bs : List UInt8) : firstLine n bs <+: bs := by
  induction n generalizing bs with
  | zero => exact List.nil_prefix
  | succ n ih =>
    cases bs with
    | nil => exact List.nil_prefix
    | cons b bs =>
      simp only [firstLine]
      split
      · exact ⟨bs, rfl⟩
      · exact List.cons_prefix_cons.2 ⟨rfl, ih bs⟩

theorem length_firstLine_le (n : Nat) (bs : List UInt8) : (firstLine n bs).length ≤ n := by
  induction n generalizing bs with
  | zero => simp [firstLine]
  | succ n ih =>
    cases bs with
    | nil => simp [firstLine]
    | cons b bs =>
      simp only [firstLine]
      split
      · simp
      · simpa using ih bs

theorem firstLine_ne_nil {n : Nat} (hn : 0 < n) {bs : List UInt8} (h : bs ≠ []) :
    firstLine n bs ≠ [] := by
  obtain ⟨k, rfl⟩ : ∃ k, n = k + 1 := ⟨n - 1, by omega⟩
  cases bs with
  | nil => exact absurd rfl h
  | cons b bs =>
    simp only [firstLine]
    split <;> simp

theorem share_prefix (b : ReadAhead) (n : Nat) : b.share n <+: b.cache := by
  unfold share
  split
  · exact firstLine_prefix n b.cache
  · exact List.take_prefix n b.cache

/-- A request is served from the front of the cache, and gets something if there is something. -/
theorem serve_spec (b : ReadAhead) {n : Nat} (hn : 0 < n) (h : b.cache ≠ []) :
    (b.serve n).1 ≠ [] ∧ (b.serve n).1.length ≤ n ∧
      (b.serve n).1 ++ (b.serve n).2.cache = b.cache := by
  refine ⟨?_, ?_, List.prefix_iff_eq_append.1 (b.share_prefix n)⟩
  · simp only [serve, share]
    split
    · exact firstLine_ne_nil hn h
    · simp [List.take_eq_nil_iff, h, Nat.pos_iff_ne_zero.1 hn]
  · simp only [serve, share]
    split
    · exact length_firstLine_le n b.cache
    · exact List.length_take_le n b.cache

section Source
variable {σ : Type} [ByteSource σ]

/-- A request changes nothing of the cache and of the policy, and notes an end. -/
theorem ask_notes (n : Nat) (b : ReadAhead) (s : σ) :
    (ask n (b, s)).2.1.cache = b.cache ∧ (ask n (b, s)).2.1.buffering = b.buffering ∧
      (ask n (b, s)).2.1.ended = (b.ended || (ask n (b, s)).1 == .ended) := by
  simp only [ask]
  generalize persist (fun f : Fetch UInt8 => b.blocking && f.isWouldBlock) ByteSource.budget
    (ByteSource.fetch n) s = r
  obtain ⟨us | _ | _ | e, s'⟩ := r <;> simp

/-- The answer to a request is that of the source to the last of the fetches made for it, which follow on
delays. -/
theorem ask_answers {P : σ → Prop} {n : Nat}
    (next : ∀ s, P s → (ByteSource.fetch n s).1 = .wouldBlock → P (ByteSource.fetch n s).2)
    (b : ReadAhead) {s : σ} (h : P s) :
    ∃ s', P s' ∧ (ask n (b, s)).1 = (ByteSource.fetch n s').1 ∧
      (ask n (b, s)).2.2 = (ByteSource.fetch n s').2 := by
  obtain ⟨s', hs', hlast⟩ := persist_eq_attempt (fun f : Fetch UInt8 => b.blocking && f.isWouldBlock)
    ByteSource.budget (ByteSource.fetch n)
    (fun s hs hagain => next s hs (by
      cases hf : (ByteSource.fetch n s).1 with
      | wouldBlock => rfl
      | got _ | ended | failed _ => simp [hf, Fetch.isWouldBlock] at hagain)) h
  refine ⟨s', hs', ?_⟩
  simp only [ask, hlast]
  rcases ByteSource.fetch n s' with ⟨us | _ | _ | e, s''⟩ <;> exact ⟨rfl, rfl⟩

end Source

section Stream
variable {σ : Type} [ByteSource σ] [ByteStream σ]

/-- What is to come from this stage. -/
def coming (s : ReadAhead × σ) : Coming UInt8 :=
  Coming.ofUnits s.1.cache ++ if s.1.ended then [] else s.1.heard (ByteStream.coming s.2)

/-- The state after asking: the settings and the cache are as before, and an end was noted. -/
structure Asked (b b' : ReadAhead) (f : Fetch UInt8) : Prop where
  cache : b'.cache = b.cache
  blocking : b'.blocking = b.blocking
  ended : b'.ended = (b.ended || f == .ended)

theorem ask_takes {n : Nat} (hn : 0 < n) (b : ReadAhead) (s : σ) :
    (ask n (b, s)).1.Takes n (b.heard (ByteStream.coming s))
      (b.heard (ByteStream.coming (ask n (b, s)).2.2)) ∧
    Asked b (ask n (b, s)).2.1 (ask n (b, s)).1 := by
  obtain ⟨s', hs', he, hlast⟩ := persist_settles
    (fun f : Fetch UInt8 => b.blocking && f.isWouldBlock) ByteSource.budget (ByteSource.fetch n)
    (μ := fun s => (ByteStream.coming s).length)
    (P := fun s' : σ => b.heard (ByteStream.coming s') = b.heard (ByteStream.coming s))
    (fun s' _ => ByteStream.length_coming_le s')
    (by
      intro s' hs' ha
      have ht := ByteStream.fetch_takes n s' hn
      rcases hf : ByteSource.fetch n s' with ⟨f, s''⟩
      rw [hf] at ht ha
      cases f with
      | wouldBlock =>
        have hb : b.blocking = true := by simpa [Fetch.isWouldBlock] using ha
        have hc : ByteStream.coming s' = .delay :: ByteStream.coming s'' := ht
        rw [hc] at hs'
        exact ⟨by simpa [heard, hb] using hs', by simp [hc]⟩
      | got _ | ended | failed _ => simp [Fetch.isWouldBlock] at ha)
    rfl
  simp only [ask, he]
  rw [← hs']
  have ht := ByteStream.fetch_takes n s' hn
  rcases hf : ByteSource.fetch n s' with ⟨f, s''⟩
  rw [hf] at ht hlast
  cases f with
  | got us =>
    obtain ⟨hus, hlen, hc⟩ := ht
    refine ⟨⟨hus, hlen, ?_⟩, ⟨rfl, rfl, by simp⟩⟩
    rw [hc, heard_ofUnits_append]
  | wouldBlock =>
    have hb : b.blocking = false := by simpa [Fetch.isWouldBlock] using hlast
    have hc : ByteStream.coming s' = .delay :: ByteStream.coming s'' := ht
    refine ⟨?_, ⟨rfl, rfl, by simp⟩⟩
    simp [Fetch.Takes, hc, heard, hb]
  | ended =>
    have hc : ByteStream.coming s' = [] := ht
    refine ⟨?_, ⟨rfl, rfl, by simp⟩⟩
    simp [Fetch.Takes, hc]
  | failed e =>
    have hc : ByteStream.coming s' = .failure e :: ByteStream.coming s'' := ht
    refine ⟨?_, ⟨rfl, rfl, by simp⟩⟩
    simp [Fetch.Takes, hc]

/-- An answer without bytes does not touch an empty cache, so what is to come is the source's. -/
theorem coming_of_asked {b b' : ReadAhead} {f : Fetch UInt8} (h : Asked b b' f) (hc : b.cache = [])
    (hb : b.ended = false) (s : σ) :
    coming (b', s) = if f = .ended then [] else b.heard (ByteStream.coming s) := by
  have hh : b'.heard (ByteStream.coming s) = b.heard (ByteStream.coming s) := by
    simp [heard, h.blocking]
  simp [coming, h.cache, hc, h.ended, hb, hh]

theorem serve_coming {n : Nat} (hn : 0 < n) (b : ReadAhead) (s : σ) (h : b.cache ≠ []) :
    Fetch.Takes n (.got (b.serve n).1) (coming (b, s)) (coming ((b.serve n).2, s)) := by
  obtain ⟨hne, hlen, happ⟩ := serve_spec b hn h
  refine ⟨hne, hlen, ?_⟩
  simp only [coming]
  rw [← happ, Coming.ofUnits_append, List.append_assoc]
  rfl

theorem fetch_takes {n : Nat} (hn : 0 < n) (s : ReadAhead × σ) :
    (fetch n s).1.Takes n (coming s) (coming (fetch n s).2) ∧
      ((fetch n s).1 = .ended → coming (fetch n s).2 = []) := by
  obtain ⟨b, s⟩ := s
  simp only [fetch]
  rw [if_neg (Nat.pos_iff_ne_zero.1 hn)]
  by_cases hc : b.cache = []
  · by_cases he : b.ended = true
    · simp [hc, he, Fetch.Takes, coming]
    · have he' : b.ended = false := Bool.eq_false_iff.2 he
      have hnow : coming (b, s) = b.heard (ByteStream.coming s) := by simp [coming, hc, he']
      simp only [hc, List.isEmpty_nil, Bool.not_true, Bool.false_eq_true, if_false, he', hnow]
      by_cases hbuf : b.buffering = .none
      · rw [if_pos hbuf]
        obtain ⟨ht, ha⟩ := ask_takes hn b s
        rw [coming_of_asked ha hc he']
        refine ⟨?_, fun h => by simp [h]⟩
        by_cases hend : (ask n (b, s)).1 = .ended
        · rw [hend] at ht ⊢
          exact ht
        · rwa [if_neg hend]
      · rw [if_neg hbuf]
        obtain ⟨ht, ha⟩ := ask_takes (n := max b.size 1) (by omega) b s
        rcases hq : ask (max b.size 1) (b, s) with ⟨f, b', s'⟩
        rw [hq] at ht ha
        have hthen := coming_of_asked ha hc he' s'
        cases f with
        | got bs =>
          obtain ⟨hbs, -, happ⟩ := ht
          dsimp only
          have hserve := serve_coming hn { b' with cache := bs } s' hbs
          have hfull : coming ({ b' with cache := bs }, s') = b.heard (ByteStream.coming s) := by
            have hempty : coming (b', s') = b.heard (ByteStream.coming s') := by simpa using hthen
            have hb' : b'.cache = [] := ha.cache.trans hc
            rw [happ, ← hempty]
            simp only [coming, hb', Coming.ofUnits_nil, List.nil_append]
            rfl
          rw [hfull] at hserve
          exact ⟨hserve, by simp⟩
        | wouldBlock =>
          have hx : b.heard (ByteStream.coming s) = .delay :: b.heard (ByteStream.coming s') := ht
          exact ⟨by simp [Fetch.Takes, hx, hthen], by simp⟩
        | ended => exact ⟨ht, fun _ => by simpa using hthen⟩
        | failed e =>
          have hx : b.heard (ByteStream.coming s) = .failure e :: b.heard (ByteStream.coming s') := ht
          exact ⟨by simp [Fetch.Takes, hx, hthen], by simp⟩
  · have hc' : b.cache.isEmpty = false := by simpa using hc
    simp only [hc', Bool.not_false, if_true]
    exact ⟨serve_coming hn b s hc, by simp⟩

instance : ByteStream (ReadAhead × σ) where
  coming := coming
  fetch_takes _ s hn := (fetch_takes hn s).1
  length_coming_le s := by
    have hs := ByteStream.length_coming_le s.2
    have hh := length_heard_le s.1 (ByteStream.coming s.2)
    simp only [coming, List.length_append, Coming.length_ofUnits, ByteSource.budget]
    split
    · simp
    · omega

instance : Settled (ReadAhead × σ) where
  coming_of_ended n s h := by
    cases n with
    | zero =>
      have h0 : (fetch 0 s).1 = .ended := h
      simp [fetch] at h0
    | succ n => exact (fetch_takes (Nat.succ_pos n) s).2 h

end Stream

end ScriptChannel.Input.ReadAhead
