import ScriptChannel.Proofs.Input.Endings

/-!
# What failures cost

A failure behind a held carriage return makes the machine for line endings forget it. The text stays
the same all the same if a newline comes next, since the pair would have been one newline, and if
moreover nothing hangs on what the pair would have settled. In every other case it is another text.
-/

namespace ScriptChannel.Endings

/-- A carriage return is held only where what follows it can matter. -/
def Sound (s : Endings) : Prop := s.held = true → s.mode = .auto ∨ s.mode = .crlf

theorem sound_of_free {s : Endings} (h : s.held = false) : s.Sound := by
  intro hheld
  rw [h] at hheld
  cases hheld

theorem sound_single (m : Translation) (c : Char) : (single m c).2.Sound := by
  unfold single
  split <;> simp [Sound]

theorem sound_take (s : Endings) (c : Char) : (s.take c).2.Sound := by
  unfold take
  split
  · split
    · exact sound_of_free rfl
    · exact sound_single _ c
  · exact sound_single _ c

/-- What comes next makes up for a lost carriage return: a newline does, and where the endings are
still to be settled there must be no pair behind it. -/
def Heals (m : Translation) : List Char → Prop
  | '\n' :: cs => m = .auto → Translation.readCrlf cs = cs
  | _ => False

instance (m : Translation) : DecidablePred (Heals m) := by
  intro cs
  unfold Heals
  split <;> infer_instance

theorem heals_newline {m : Translation} {cs : List Char} :
    Heals m ('\n' :: cs) ↔ (m = .auto → Translation.readCrlf cs = cs) := Iff.rfl

theorem not_heals {m : Translation} {cs : List Char} (h : cs.head? ≠ some '\n') : ¬ Heals m cs := by
  intro hheals
  unfold Heals at hheals
  split at hheals
  · exact h rfl
  · exact hheals

/-- No failure costs anything: whenever one comes while a carriage return is held, what follows makes
up for it. -/
def Spared : Endings → Coming Char → Prop
  | _, [] => True
  | s, .unit c :: xs => Spared (s.take c).2 xs
  | s, .delay :: xs => Spared s xs
  | s, .failure _ :: xs =>
    (s.held = true → Heals s.mode (Coming.units xs)) ∧ Spared { s with held := false } xs

instance Spared.decide : (s : Endings) → (xs : Coming Char) → Decidable (Spared s xs)
  | _, [] => inferInstanceAs (Decidable True)
  | s, .unit c :: xs => Spared.decide (s.take c).2 xs
  | s, .delay :: xs => Spared.decide s xs
  | s, .failure _ :: xs =>
    have := Spared.decide { s with held := false } xs
    inferInstanceAs (Decidable (_ ∧ _))

/-- Where carriage returns are never held there is nothing to be lost. -/
theorem spared_of_single {m : Translation} (h : ∀ c, (single m c).2 = ⟨m, false⟩)
    (xs : Coming Char) : Spared ⟨m, false⟩ xs := by
  induction xs with
  | nil => trivial
  | cons x xs ih =>
    cases x with
    | unit c => simpa [Spared, take, h] using ih
    | delay => exact ih
    | failure e => exact ⟨by simp, ih⟩

/-- A newline that comes next settles an `auto`. -/
theorem spared_of_newline {xs : Coming Char} {cs : List Char} (h : xs.units = '\n' :: cs) :
    Spared ⟨.auto, false⟩ xs := by
  induction xs with
  | nil => simp at h
  | cons x xs ih =>
    cases x with
    | unit c =>
      obtain ⟨rfl, -⟩ := List.cons.inj h
      exact spared_of_single (m := .lf) (fun _ => rfl) xs
    | delay => exact ih h
    | failure e => exact ⟨by simp, ih h⟩

theorem length_units_coming_le (s : Endings) (xs : Coming Char) :
    (s.coming xs).units.length ≤ s.weight + xs.units.length := by
  induction xs generalizing s with
  | nil =>
    simp only [coming, rest, weight]
    split <;> simp
  | cons x xs ih =>
    cases x with
    | unit c =>
      have htake := s.length_take_le c
      have hrest := ih (s.take c).2
      simp only [coming, Coming.units_append, Coming.units_ofUnits, List.length_append,
        Coming.units_unit, List.length_cons]
      omega
    | delay => simpa [coming] using ih s
    | failure e =>
      have hrest := ih { s with held := false }
      simp only [weight, Bool.false_eq_true, if_false] at hrest
      simp only [coming, Coming.units_failure]
      omega

/-- A held carriage return with a newline behind it adds nothing to the text. -/
theorem text_pair (m : Translation) (cs : List Char) :
    text ⟨m, true⟩ ('\n' :: cs) = '\n' :: text ⟨paired m, false⟩ cs := by
  simp [text, take]

/-- With anything else behind it, or nothing, it adds a character. -/
theorem text_lone (m : Translation) {cs : List Char} (h : cs.head? ≠ some '\n') :
    text ⟨m, true⟩ cs = (lone m).1 :: text ⟨(lone m).2, false⟩ cs := by
  cases cs with
  | nil => rfl
  | cons c cs =>
    have hc : c ≠ '\n' := by simpa using h
    simp [text, take, hc]

/-- In `crlf` failures take characters away only. -/
theorem length_crlf_le (held : Bool) (xs : Coming Char) :
    (coming ⟨.crlf, held⟩ xs).units.length ≤ (text ⟨.crlf, held⟩ xs.units).length := by
  induction xs generalizing held with
  | nil => simp [coming, text]
  | cons x xs ih =>
    cases x with
    | unit c =>
      obtain ⟨held', htake⟩ : ∃ held', (take ⟨.crlf, held⟩ c).2 = ⟨.crlf, held'⟩ := by
        cases held <;> by_cases hr : c = '\r' <;> by_cases hn : c = '\n' <;>
          simp [take, single, lone, paired, hr, hn]
      have hrest := ih held'
      simp only [coming, Coming.units_append, Coming.units_ofUnits, List.length_append,
        Coming.units_unit, text, htake]
      omega
    | delay => exact ih held
    | failure e =>
      refine Nat.le_trans (ih false) ?_
      cases held with
      | false => exact Nat.le_refl _
      | true =>
        rw [Coming.units_failure]
        by_cases hn : (Coming.units xs).head? = some '\n'
        · obtain ⟨cs, hcs⟩ := List.head?_eq_some_iff.1 hn
          rw [hcs, text_pair]
          simp [text, take, single, paired]
        · rw [text_lone _ hn]
          exact Nat.le_succ _

/-- A failure right behind a held carriage return spares the text just if what follows makes up for
it. -/
theorem forget_eq_iff {m : Translation} (hm : m = .auto ∨ m = .crlf) {xs : Coming Char}
    (ih : (coming ⟨m, false⟩ xs).units = text ⟨m, false⟩ xs.units ↔ Spared ⟨m, false⟩ xs) :
    (coming ⟨m, false⟩ xs).units = text ⟨m, true⟩ xs.units ↔
      Heals m xs.units ∧ Spared ⟨m, false⟩ xs := by
  by_cases hn : xs.units.head? = some '\n'
  · obtain ⟨cs, hcs⟩ := List.head?_eq_some_iff.1 hn
    rw [hcs] at ih ⊢
    rw [heals_newline]
    rcases hm with rfl | rfl
    · -- without the carriage return the newline settles on `lf`, with it on `crlf`
      have hspared := spared_of_newline hcs
      have hlost : (coming ⟨.auto, false⟩ xs).units = '\n' :: cs := by
        rw [ih.2 hspared, text_eq_read]
        rfl
      have hkept : text ⟨.auto, true⟩ ('\n' :: cs) = '\n' :: Translation.readCrlf cs := by
        rw [text_pair, paired, text_eq_read]
        rfl
      rw [hlost, hkept]
      constructor
      · intro heq
        exact ⟨fun _ => (List.cons.inj heq).2.symm, hspared⟩
      · rintro ⟨hpairs, -⟩
        rw [hpairs rfl]
    · have hkept : text ⟨.crlf, true⟩ ('\n' :: cs) = text ⟨.crlf, false⟩ ('\n' :: cs) := by
        rw [text_pair]
        simp [text, take, single, paired]
      rw [hkept, ih]
      exact ⟨fun hspared => ⟨by simp, hspared⟩, fun h => h.2⟩
  · have hshort : (coming ⟨m, false⟩ xs).units.length < (text ⟨m, true⟩ xs.units).length := by
      rw [text_lone m hn, List.length_cons, Nat.lt_succ_iff]
      rcases hm with rfl | rfl
      · have hle := length_units_coming_le ⟨.auto, false⟩ xs
        simpa [lone, text_cr, Translation.readCr, weight] using hle
      · exact length_crlf_le false xs
    constructor
    · intro heq
      rw [heq] at hshort
      exact absurd hshort (Nat.lt_irrefl _)
    · intro h
      exact absurd h.1 (not_heals hn)

/-- With failures in it a stream says what it says without them just if none of them costs anything. -/
theorem units_coming_eq_text_iff {s : Endings} (h : s.Sound) (xs : Coming Char) :
    (s.coming xs).units = s.text xs.units ↔ s.Spared xs := by
  induction xs generalizing s with
  | nil => simp [coming, text, Spared]
  | cons x xs ih =>
    cases x with
    | unit c =>
      rw [Spared, ← ih (sound_take s c)]
      simp [coming, text]
    | delay => exact ih h
    | failure e =>
      obtain ⟨m, held⟩ := s
      have hfree := ih (s := ⟨m, false⟩) (sound_of_free rfl)
      cases held with
      | false =>
        simp only [coming, Spared, Coming.units_failure, hfree]
        simp
      | true =>
        have hforget := forget_eq_iff (h rfl) hfree
        simpa [coming, Spared] using hforget

end ScriptChannel.Endings
