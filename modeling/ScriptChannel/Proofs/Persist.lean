import ScriptChannel.Source

/-!
# Repeated attempts

The result of `persist` is the result of its last attempt, made in a state that the earlier attempts
have led to. If every attempt that calls for another one takes something from what the budget
covers, the last one calls for none.
-/

namespace ScriptChannel
variable {α σ : Type} (again : α → Bool) (budget : σ → Nat) (attempt : σ → α × σ) {μ : σ → Nat}
  {P : σ → Prop}

/-- What the attempts that call for another one preserve holds before the last one. -/
theorem retry_eq_attempt (next : ∀ s, P s → again (attempt s).1 = true → P (attempt s).2)
    (n : Nat) {s : σ} (h : P s) : ∃ s', P s' ∧ retry again attempt n (attempt s) = attempt s' := by
  induction n generalizing s with
  | zero => exact ⟨s, h, rfl⟩
  | succ n ih =>
    unfold retry
    by_cases ha : again (attempt s).1 = true
    · rw [if_pos ha]
      exact ih (next s h ha)
    · rw [if_neg ha]
      exact ⟨s, h, rfl⟩

theorem persist_eq_attempt (next : ∀ s, P s → again (attempt s).1 = true → P (attempt s).2)
    {s : σ} (h : P s) : ∃ s', P s' ∧ persist again budget attempt s = attempt s' := by
  rw [persist_eq_retry]
  exact retry_eq_attempt again attempt next _ h

/-- What no attempt changes, all of them together leave as it was. -/
theorem persist_unchanged {β : Type} {f : σ → β} (hf : ∀ s, f (attempt s).2 = f s) (s : σ) :
    f (persist again budget attempt s).2 = f s := by
  obtain ⟨s', hs', he⟩ := persist_eq_attempt again budget attempt (P := fun s' => f s' = f s)
    (fun s' hs' _ => (hf s').trans hs') rfl
  rw [he]
  exact (hf s').trans hs'

/-- Attempts that each take something from a measure come to an end. -/
theorem retry_settles
    (next : ∀ s, P s → again (attempt s).1 = true → P (attempt s).2 ∧ μ (attempt s).2 < μ s)
    (n : Nat) {r : α × σ} (h : again r.1 = true → P r.2 ∧ μ r.2 < n) :
    again (retry again attempt n r).1 = false := by
  induction n generalizing r with
  | zero =>
    have hr : ¬ again r.1 = true := fun ha => absurd (h ha).2 (Nat.not_lt_zero _)
    simpa [retry] using hr
  | succ n ih =>
    unfold retry
    by_cases ha : again r.1 = true
    · rw [if_pos ha]
      apply ih
      intro ha'
      have hr := h ha
      have hn := next r.2 hr.1 ha'
      exact ⟨hn.1, by omega⟩
    · rw [if_neg ha]
      exact Bool.eq_false_iff.2 ha

/-- The last attempt was made in a state with the invariant, and calls for no other, if the budget
covers a measure from which each attempt that calls for another one takes something. -/
theorem persist_settles (cover : ∀ s, P s → μ s ≤ budget s)
    (next : ∀ s, P s → again (attempt s).1 = true → P (attempt s).2 ∧ μ (attempt s).2 < μ s)
    {s : σ} (h : P s) :
    ∃ s', P s' ∧ persist again budget attempt s = attempt s' ∧ again (attempt s').1 = false := by
  have keep : ∀ s, P s → again (attempt s).1 = true → P (attempt s).2 :=
    fun s hs ha => (next s hs ha).1
  obtain ⟨s', hs', he⟩ := persist_eq_attempt again budget attempt keep h
  refine ⟨s', hs', he, ?_⟩
  rw [← he, persist]
  obtain ⟨q, hq, heq⟩ := retry_eq_attempt again attempt keep quickAttempts h
  rw [heq]
  by_cases ha : again (attempt q).1 = true
  · rw [if_pos ha]
    apply retry_settles again attempt next
    intro _
    have hq' := keep q hq ha
    exact ⟨hq', Nat.lt_succ_of_le (cover _ hq')⟩
  · rw [if_neg ha]
    exact Bool.eq_false_iff.2 ha

end ScriptChannel
