import Mathlib.Data.List.Basic
import ScriptChannel.Proofs.Input.Chain

/-!
# Lines that have to wait

A reader who does not wait takes a line from the view character by character, and stops at the first
delay. The characters in front of it become the partial line. Whatever is read next takes them first.
-/

namespace ScriptChannel

namespace Coming
variable {α : Type}

/-- Units come off in order: either some of those in front, or all of those first. -/
theorem Past.front {cs us : List α} {rest ys : Coming α} (h : Past us (ofUnits cs ++ rest) ys) :
    (∃ vs, cs = us ++ vs ∧ ys = ofUnits vs ++ rest) ∨
      ∃ vs, us = cs ++ vs ∧ Past vs rest ys := by
  obtain ⟨p, hp, hx⟩ := h
  rcases List.append_eq_append_iff.1 hx with ⟨q, rfl, rfl⟩ | ⟨q, hq, rfl⟩
  · obtain ⟨q', hus, hq'⟩ : ∃ q' : List α, us = cs ++ q' ∧ patient q = ofUnits q' := by
      rw [patient_append, patient_ofUnits] at hp
      obtain ⟨as, bs, hall, ha, hb⟩ := List.map_eq_append_iff.1 hp.symm
      exact ⟨bs, by rw [hall, ofUnits_injective ha], hb.symm⟩
    exact .inr ⟨q', hus, q, hq', rfl⟩
  · obtain ⟨as, bs, rfl, ha, hb⟩ := List.map_eq_append_iff.1 hq
    obtain rfl : p = ofUnits as := ha.symm
    obtain rfl : q = ofUnits bs := hb.symm
    rw [patient_ofUnits] at hp
    exact .inl ⟨bs, by rw [ofUnits_injective hp], rfl⟩

/-- Past what stands in front something else than a unit is met behind it. -/
theorem Past.front_of_stop {cs us : List α} {rest ys : Coming α}
    (h : Past us (ofUnits cs ++ rest) ys) (hys : ∀ c ∈ cs, ys.head? ≠ some (.unit c)) : cs <+: us := by
  rcases h.front with ⟨vs, rfl, rfl⟩ | ⟨vs, rfl, -⟩
  · cases vs with
    | nil => simp
    | cons v vs => exact absurd rfl (hys v (by simp))
  · exact List.prefix_append cs vs

/-- A signal that is none of the units in front can stand in one place only. -/
theorem split_unique {us vs : List α} {x y : Signal α} {xs ys : Coming α}
    (h : ofUnits us ++ x :: xs = ofUnits vs ++ y :: ys) (hx : ∀ v ∈ vs, x ≠ .unit v)
    (hy : ∀ u ∈ us, y ≠ .unit u) : us = vs ∧ x = y ∧ xs = ys := by
  induction us generalizing vs with
  | nil =>
    cases vs with
    | nil => simpa using h
    | cons v vs => exact absurd (List.cons.inj h).1 (hx v (List.mem_cons_self ..))
  | cons u us ih =>
    cases vs with
    | nil => exact absurd (List.cons.inj h).1.symm (hy u (List.mem_cons_self ..))
    | cons v vs =>
      simp only [ofUnits_cons, List.cons_append, List.cons.injEq, Signal.unit.injEq] at h
      obtain ⟨rfl, hrest⟩ := h
      obtain ⟨rfl, hsame⟩ := ih hrest (fun w hw => hx w (List.mem_cons_of_mem _ hw))
        (fun w hw => hy w (List.mem_cons_of_mem _ hw))
      exact ⟨rfl, hsame⟩

end Coming

namespace Input.Lines
variable {σ : Type} [CharSource σ]

/-- The source is asked only before it has ended. -/
theorem ended_of_fill_wouldBlock {n : Nat} {s s' : Lines × σ}
    (h : fill n s = (some .wouldBlock, s')) : s'.1.ended = false := by
  obtain ⟨l, s⟩ := s
  simp only [fill] at h
  split at h
  · simp at h
  split at h
  · simp at h
  · rename_i hended
    split at h <;> simp at h
    rw [← h]
    simpa using hended

section Waits
variable {Q : Lines × σ → Prop} (hfill : ∀ {n s s'}, fill n s = (some .wouldBlock, s') → Q s')
  (hahead : ∀ {l : Lines} {s : σ} (cs : List Char), Q (l, s) → Q ({ l with ahead := cs }, s))
include hfill hahead

/-- What holds where the source was asked and had nothing holds where a carriage return has to wait. -/
theorem afterReturn_waits {pair lone : Lines → Next × Lines} (hpair : ∀ l, (pair l).1 ≠ .wouldBlock)
    (hlone : ∀ l, (lone l).1 ≠ .wouldBlock) {s s' : Lines × σ}
    (h : afterReturn pair lone s = (.wouldBlock, s')) : Q s' := by
  simp only [afterReturn] at h
  split at h
  · rename_i hf
    simp only [Prod.mk.injEq, true_and] at h
    rw [← h]
    exact hahead _ (hfill hf)
  · simp at h
  · rw [Prod.mk.injEq] at h
    split at h
    · exact absurd h.1 (hpair _)
    · exact absurd h.1 (hlone _)

theorem next_waits {n : Nat} {s s' : Lines × σ} (h : next n s = (.wouldBlock, s')) : Q s' := by
  simp only [next] at h
  split at h
  · rename_i hf
    simp only [Prod.mk.injEq] at h
    rw [← h.2]
    exact hfill (h.1 ▸ hf)
  · split at h
    · simp at h
    · split at h
      · simp at h
      · exact afterReturn_waits hfill hahead (by simp) (by simp) h
      · simp at h
      · exact afterReturn_waits hfill hahead (by simp) (by simp) h
      · simp at h

variable [CharStream σ]

/-- Within its patience a line has to wait there only. -/
theorem untilNewline_waits {blocking : Bool} {fuel : Nat} {s : Lines × σ}
    (hfuel : (view s).length < fuel) (h : (untilNewline blocking fuel s).1.2 = .wouldBlock) :
    Q (untilNewline blocking fuel s).2 := by
  induction fuel generalizing s with
  | zero => exact absurd hfuel (Nat.not_lt_zero _)
  | succ fuel ih =>
    obtain ⟨hstep, -⟩ := next_steps 1 s
    have hless : ∀ {x : Signal Char} {s' : Lines × σ}, view s = x :: view s' →
        (view s').length < fuel := by
      intro x s' hx
      rw [hx, List.length_cons] at hfuel
      exact Nat.lt_of_succ_lt_succ hfuel
    simp only [untilNewline] at h ⊢
    rcases hq : next 1 s with ⟨c | _ | _ | e, s'⟩
    all_goals
      rw [hq] at h hstep
      dsimp only at h ⊢
    · split at h
      · cases h
      · rw [if_neg ‹_›]
        exact ih (hless hstep) h
    · split at h
      · rw [if_pos ‹_›]
        exact ih (hless hstep) h
      · rw [if_neg ‹_›]
        exact next_waits hfill hahead hq
    · cases h
    · cases h

end Waits

variable [CharStream σ]

/-- What the characters up to the end of the line, and the reason for it, take when nothing is waited
for. -/
def EndsAt (cs : List Char) : Stop → Coming Char → Coming Char → Prop
  | .newline, xs, ys => xs = Coming.ofUnits cs ++ .unit '\n' :: ys
  | .wouldBlock, xs, ys => xs = Coming.ofUnits cs ++ .delay :: ys
  | .ended, xs, ys => xs = Coming.ofUnits cs ∧ ys = []
  | .failed e, xs, ys => xs = Coming.ofUnits cs ++ .failure e :: ys

theorem untilNewline_endsAt {n : Nat} {s : Lines × σ} (h : (view s).length < n) :
    EndsAt (untilNewline false n s).1.1 (untilNewline false n s).1.2 (view s)
      (view (untilNewline false n s).2) := by
  induction n generalizing s with
  | zero => exact absurd h (Nat.not_lt_zero _)
  | succ n ih =>
    obtain ⟨hstep, -⟩ := next_steps 1 s
    simp only [untilNewline]
    rcases hq : next 1 s with ⟨c | _ | _ | e, s'⟩
    all_goals rw [hq] at hstep
    · have hx : view s = .unit c :: view s' := hstep
      by_cases hc : c = '\n'
      · simp only [hc, if_true]
        rw [hc] at hx
        exact hx
      · simp only [hc, if_false]
        rw [hx, List.length_cons] at h
        have hends := ih (s := s') (by omega)
        rw [hx]
        cases hstop : (untilNewline false n s').1.2 with
        | newline | wouldBlock | failed =>
          rw [hstop] at hends
          exact congrArg (Signal.unit c :: ·) hends
        | ended =>
          rw [hstop] at hends
          exact ⟨congrArg (Signal.unit c :: ·) hends.1, hends.2⟩
    all_goals exact hstep

/-- A line that stops for want of more stops at a delay. -/
theorem coming_of_wouldBlock {s : Lines × σ} (h : lineStop false s = .wouldBlock) :
    ∃ cs rest, coming s = Coming.ofUnits cs ++ .delay :: rest := by
  have hlen := length_view_le s
  have hends := untilNewline_endsAt (n := budget s + 2) (s := s) (by omega)
  unfold lineStop at h
  rw [h] at hends
  refine ⟨s.1.partialLine ++ (untilNewline false (budget s + 2) s).1.1,
    view (untilNewline false (budget s + 2) s).2, ?_⟩
  rw [coming, Coming.ofUnits_append, List.append_assoc]
  exact congrArg (Coming.ofUnits s.1.partialLine ++ ·) hends

/-- A line in which a delay comes before the newline is not complete. It stays to come without the
delay. -/
theorem readLine_of_delay {s : Lines × σ} {cs : List Char} {rest : Coming Char} (hfree : '\n' ∉ cs)
    (h : coming s = Coming.ofUnits cs ++ .delay :: rest) :
    let r := readLine false s
    r.1 = .blocked ∧ r.2.1.ended = false ∧ coming r.2 = Coming.ofUnits cs ++ rest := by
  have hlen := length_view_le s
  have hends := untilNewline_endsAt (n := budget s + 2) (s := s) (by omega)
  have hopen : (untilNewline false (budget s + 2) s).1.2 = .wouldBlock →
      (untilNewline false (budget s + 2) s).2.1.ended = false :=
    untilNewline_waits (Q := fun s => s.1.ended = false) ended_of_fill_wouldBlock (fun _ => id)
      (by omega)
  obtain ⟨-, -, hkeep, -⟩ := untilNewline_ends false (budget s + 2) s
  simp only [readLine]
  rcases hq : untilNewline false (budget s + 2) s with ⟨⟨ds, stop⟩, l, s'⟩
  rw [hq] at hends hopen hkeep
  dsimp only at hends hopen hkeep ⊢
  have hview : ∀ xs, view s = Coming.ofUnits ds ++ xs →
      Coming.ofUnits (l.partialLine ++ ds) ++ xs = Coming.ofUnits cs ++ .delay :: rest := by
    intro xs hxs
    rw [← h, coming, hxs, hkeep, Coming.ofUnits_append, List.append_assoc]
  cases stop with
  | wouldBlock =>
    obtain ⟨hcs, -, hrest⟩ := Coming.split_unique (hview _ hends) (by simp) (by simp)
    refine ⟨rfl, hopen rfl, ?_⟩
    rw [coming, hcs, ← hrest]
    rfl
  | newline =>
    have hne : ∀ c ∈ cs, Signal.unit '\n' ≠ .unit c := by
      rintro c hmem heq
      exact hfree (Signal.unit.inj heq ▸ hmem)
    simpa using (Coming.split_unique (hview _ hends) hne (by simp)).2.1
  | failed e => simpa using (Coming.split_unique (hview _ hends) (by simp) (by simp)).2.1
  | ended =>
    have hmem : Signal.delay ∈ Coming.ofUnits (l.partialLine ++ ds) := by
      rw [← List.append_nil (Coming.ofUnits _), hview [] (by simpa using hends.1)]
      simp
    simp [Coming.ofUnits] at hmem

end Input.Lines

theorem Input.Chain.readLine_of_delay {δ : Type} [RawReader δ] [RawStream δ] {c : Chain} {d : δ}
    {cs : List Char} {rest : Coming Char} (hfree : '\n' ∉ cs)
    (h : c.coming d = Coming.ofUnits cs ++ .delay :: rest) :
    let r := c.readLine false d
    r.1 = .blocked ∧ r.2.1.lines.isEnded = false ∧ r.2.1.coming r.2.2 = Coming.ofUnits cs ++ rest := by
  obtain ⟨hblocked, hopen, hbehind⟩ := Lines.readLine_of_delay hfree h
  refine ⟨hblocked, ?_, hbehind⟩
  change (Lines.readLine false (c.whole d)).2.1.isEnded = false
  simp [Lines.isEnded, hopen]

end ScriptChannel
