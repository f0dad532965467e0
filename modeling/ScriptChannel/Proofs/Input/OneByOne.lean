import ScriptChannel.Proofs.Input.Lines

/-!
# Line endings told by one character

Where a character is a line ending or none whatever follows it, the stage for line endings looks at no
character beyond those it hands out. In front of a source that goes no further than it is asked to it
keeps nothing back: a run of characters, or a line, takes its characters from the source and no more.
-/

namespace ScriptChannel

namespace Translation

/-- No line ending has two characters, and none tells what others are. -/
def Single (t : Translation) : Prop := t ≠ .auto ∧ t ≠ .crlf

instance : DecidablePred Single := fun t => inferInstanceAs (Decidable (t ≠ .auto ∧ t ≠ .crlf))

/-- What such a translation reads a character as. -/
def turn (t : Translation) (c : Char) : Char := if t = .cr ∧ c = '\r' then '\n' else c

theorem Single.read_eq {t : Translation} (h : t.Single) (cs : List Char) :
    t.read cs = cs.map t.turn := by
  have hsame : ∀ {t : Translation}, t ≠ .cr → cs = cs.map t.turn := by
    intro t ht
    refine (List.map_id cs).symm.trans (List.map_congr_left fun c _ => ?_)
    simp [turn, ht]
  cases t with
  | auto => exact absurd rfl h.1
  | crlf => exact absurd rfl h.2
  | cr => simp [read, readCr, turn]
  | lf | binary | platform => exact hsame (by decide)

end Translation

namespace Input.Lines
variable {σ : Type} [CharSource σ]

/-- A source with a text in front of which it stands. Asked for characters of it, it brings some of
them, and if it brings all of those it was asked for it has nothing half done. It ends only where the
text is all there is, which it may not be. -/
structure Frugal (before : List Char → σ → Prop) (whole : σ → Prop) (all : Prop) : Prop where
  answers {n : Nat} {cs : List Char} {s : σ} (h : before cs s) (hn : 0 < n) (hc : n ≤ cs.length ∨ all) :
    (∃ us vs s', CharSource.fetch n s = (.got us, s') ∧ us ≠ [] ∧ us.length ≤ n ∧ cs = us ++ vs ∧
      before vs s' ∧ (us.length = n → whole s')) ∨
    ∃ s', CharSource.fetch n s = (.ended, s') ∧ cs = [] ∧ all
  budget {cs : List Char} {s : σ} (h : before cs s) : cs.length ≤ CharSource.budget s

/-- Nothing is kept back, and each character is read by itself. -/
structure Bare (l : Lines) : Prop where
  partialLine : l.partialLine = []
  ahead : l.ahead = []
  ended : l.ended = false
  single : l.translation.Single

section Ahead
variable {l : Lines}

/-- The next character is the one ahead. -/
theorem next_of_ahead (h : l.translation.Single) {c : Char} {cs : List Char} (ha : l.ahead = c :: cs)
    (n : Nat) (s : σ) :
    next n (l, s) = (.char (l.translation.turn c), { l with ahead := cs }, s) := by
  have hfill : fill n (l, s) = (none, l, s) := by simp [fill, ha]
  simp only [next, hfill, ha, mode_with_ahead]
  cases ht : l.translation with
  | auto => exact absurd ht h.1
  | crlf => exact absurd ht h.2
  | cr => by_cases hc : c = '\r' <;> simp [mode, ht, Translation.turn, hc]
  | lf | binary | platform => simp [mode, ht, Translation.turn, Translation.native]

/-- All that is ahead is handed out. -/
theorem gather_ahead (h : l.translation.Single) {n : Nat} (hn : l.ahead.length ≤ n) (s : σ) :
    gather n true (l, s) =
      ((l.ahead.map l.translation.turn, .served), { l with ahead := [] }, s) := by
  generalize ha : l.ahead = cs at hn
  induction cs generalizing n l with
  | nil =>
    have hsame : { l with ahead := [] } = l := by rw [← ha]
    cases n <;> simp [gather, ha, hsame]
  | cons c cs ih =>
    obtain ⟨n, rfl⟩ : ∃ k, n = k + 1 := Nat.exists_eq_succ_of_ne_zero (by simp at hn; omega)
    have hrest := ih (l := { l with ahead := cs }) h rfl (Nat.le_of_succ_le_succ hn)
    simp [gather, ha, next_of_ahead h ha, hrest]

end Ahead

section Bare
variable {l : Lines} (hl : l.Bare) {n : Nat} {s s' : σ}
include hl

omit [CharSource σ] in
theorem Bare.with_nothing_ahead : { l with ahead := [] } = l := by rw [← hl.ahead]

omit [CharSource σ] in
theorem Bare.pending_eq : l.pending = [] := by rw [pending, hl.partialLine, hl.ahead, List.append_nil]

omit [CharSource σ] in
/-- Nothing is left over for whoever goes around the line endings. -/
theorem Bare.takePending (n : Nat) : l.takePending n = ([], l) := by
  obtain ⟨hpartial, hahead, -, -⟩ := hl
  obtain ⟨t, detected, ahead, partialLine, ended⟩ := l
  obtain rfl : partialLine = [] := hpartial
  obtain rfl : ahead = [] := hahead
  simp [Lines.takePending, pending]

/-- With nothing kept back the next character is the first that the source brings. -/
theorem next_of_got {u : Char} {us : List Char} (hn : 0 < n)
    (hf : CharSource.fetch n s = (.got (u :: us), s')) :
    next n (l, s) = (.char (l.translation.turn u), { l with ahead := us }, s') := by
  have hfill : fill n (l, s) = fill n ({ l with ahead := u :: us }, s') := by
    simp [fill, hl.ahead, hl.ended, Nat.max_eq_left hn, hf]
  rw [← next_of_ahead (l := { l with ahead := u :: us }) hl.single rfl n s', next, next, hfill]

theorem next_of_ended (hn : 0 < n) (hf : CharSource.fetch n s = (.ended, s')) :
    next n (l, s) = (.ended, { l with ended := true }, s') := by
  simp [next, fill, hl.ahead, hl.ended, Nat.max_eq_left hn, hf]

theorem read_eq_gather : read n (l, s) = gather n false (l, s) := by
  have hsame : ({ l with partialLine := [] } : Lines) = l := by rw [← hl.partialLine]
  simp [read, hl.partialLine, hsame]

/-- A piece is what one fetch brings, translated. -/
theorem read_of_got {us : List Char} (hn : 0 < n) (hus : us ≠ []) (hlen : us.length ≤ n)
    (hf : CharSource.fetch n s = (.got us, s')) :
    read n (l, s) = ((us.map l.translation.turn, .served), l, s') := by
  obtain ⟨u, us, rfl⟩ := List.exists_cons_of_ne_nil hus
  have hnext := next_of_got hl hn hf
  obtain ⟨n, rfl⟩ := Nat.exists_eq_succ_of_ne_zero (Nat.pos_iff_ne_zero.1 hn)
  have hrest := gather_ahead (l := { l with ahead := us }) hl.single (Nat.le_of_succ_le_succ hlen) s'
  rw [read_eq_gather hl]
  simp [gather, hnext, hrest, hl.with_nothing_ahead]

theorem read_of_ended (hn : 0 < n) (hf : CharSource.fetch n s = (.ended, s')) :
    read n (l, s) = (([], .ended), { l with ended := true }, s') := by
  have hnext := next_of_ended hl hn hf
  obtain ⟨n, rfl⟩ := Nat.exists_eq_succ_of_ne_zero (Nat.pos_iff_ne_zero.1 hn)
  rw [read_eq_gather hl]
  simp [gather, hnext]

end Bare

section Runs
variable {l : Lines} (hl : l.Bare) {before : List Char → σ → Prop} {whole : σ → Prop} {all : Prop}
  (hs : Frugal before whole all) {cs : List Char} {s : σ}
include hl hs

/-- A run of pieces takes as many characters as are wanted, or all there are if they are fewer. -/
theorem collectIn_frugal {piece fuel wanted : Nat} (hp : 0 < piece) (hw : wanted ≤ fuel)
    (hwhole : wanted = 0 → whole s) (h : before cs s) (hc : wanted ≤ cs.length ∨ all) :
    let r := collectIn piece read fuel wanted (l, s)
    (wanted ≤ cs.length → r.1 = ((cs.take wanted).map l.translation.turn, .served) ∧ r.2.1 = l ∧
      before (cs.drop wanted) r.2.2 ∧ whole r.2.2) ∧
    (cs.length < wanted → all ∧ r.1 = (cs.map l.translation.turn, .ended)) := by
  induction fuel generalizing wanted cs s with
  | zero =>
    obtain rfl := Nat.le_zero.1 hw
    refine ⟨fun _ => ?_, fun hlt => absurd hlt (Nat.not_lt_zero _)⟩
    simpa [collectIn] using ⟨h, hwhole rfl⟩
  | succ fuel ih =>
    by_cases h0 : wanted = 0
    · subst h0
      refine ⟨fun _ => ?_, fun hlt => absurd hlt (Nat.not_lt_zero _)⟩
      simpa [collectIn] using ⟨h, hwhole rfl⟩
    · have hmin : 0 < min wanted piece := by omega
      have hle : min wanted piece ≤ wanted := Nat.min_le_left _ _
      simp only [collectIn, if_neg h0]
      rcases hs.answers h hmin (hc.imp_left (Nat.le_trans hle)) with
        ⟨us, vs, s', hf, hus, hlen, rfl, hrest, hlast⟩ | ⟨s', hf, rfl, hall⟩
      · rw [read_of_got hl hmin hus hlen hf]
        have hpos := List.length_pos_iff.2 hus
        rw [List.length_append] at hc
        have hfuel : wanted - us.length ≤ fuel := by omega
        obtain ⟨hmore, hfewer⟩ := ih hfuel (fun hz => hlast (by omega)) hrest
          (hc.imp_left fun _ => by omega)
        simp only [List.length_map, List.length_append]
        refine ⟨fun hlong => ?_, fun hshort => ?_⟩
        · obtain ⟨hgot, hsame, hthen⟩ := hmore (by omega)
          have hcut : (us ++ vs).take wanted = us ++ vs.take (wanted - us.length) := by
            rw [List.take_append, List.take_of_length_le (by omega)]
          have hdrop : (us ++ vs).drop wanted = vs.drop (wanted - us.length) := by
            rw [List.drop_append, List.drop_eq_nil_of_le (by omega), List.nil_append]
          rw [hgot, hcut, hdrop, List.map_append]
          exact ⟨rfl, hsame, hthen⟩
        · obtain ⟨hall, hgot⟩ := hfewer (by omega)
          rw [hgot, List.map_append]
          exact ⟨hall, rfl⟩
      · rw [read_of_ended hl hmin hf]
        refine ⟨fun hlong => absurd hlong ?_, fun _ => ⟨hall, rfl⟩⟩
        simpa using h0

/-- A single character is asked for by itself. -/
theorem next_one {c : Char} (h : before (c :: cs) s) :
    ∃ s', next 1 (l, s) = (.char (l.translation.turn c), l, s') ∧ before cs s' ∧ whole s' := by
  rcases hs.answers h Nat.one_pos (.inl (Nat.succ_le_succ (Nat.zero_le _))) with
    ⟨us, vs, s', hf, hus, hlen, hsplit, hrest, hlast⟩ | ⟨s', hf, hnil, -⟩
  · have hone : us.length = 1 := Nat.le_antisymm hlen (List.length_pos_iff.2 hus)
    obtain ⟨u, rfl⟩ := List.length_eq_one_iff.1 hone
    obtain ⟨rfl, rfl⟩ := List.cons.inj hsplit
    refine ⟨s', ?_, hrest, hlast hone⟩
    rw [next_of_got hl Nat.one_pos hf, hl.with_nothing_ahead]
  · cases hnil

/-- A line is taken with its ending and no further. -/
theorem untilNewline_line (blocking : Bool) {as : List Char} {c : Char} {fuel : Nat}
    (h : before (as ++ c :: cs) s) (has : ∀ a ∈ as, l.translation.turn a ≠ '\n')
    (hc : l.translation.turn c = '\n') (hfuel : as.length < fuel) :
    ∃ s', untilNewline blocking fuel (l, s) =
        ((as.map l.translation.turn, .newline), l, s') ∧ before cs s' ∧ whole s' := by
  induction as generalizing fuel s with
  | nil =>
    obtain ⟨fuel, rfl⟩ := Nat.exists_eq_succ_of_ne_zero (Nat.ne_zero_of_lt hfuel)
    obtain ⟨s', hnext, hthen⟩ := next_one hl hs h
    refine ⟨s', ?_, hthen⟩
    simp [untilNewline, hnext, hc]
  | cons a as ih =>
    obtain ⟨fuel, rfl⟩ := Nat.exists_eq_succ_of_ne_zero (Nat.ne_zero_of_lt hfuel)
    obtain ⟨hnot, has⟩ := List.forall_mem_cons.1 has
    obtain ⟨s₁, hnext, hrest, -⟩ := next_one hl hs h
    obtain ⟨s', hline, hthen⟩ := ih hrest has (Nat.lt_of_succ_lt_succ hfuel)
    refine ⟨s', ?_, hthen⟩
    simp [untilNewline, hnext, hnot, hline]

/-- The last line, which has no ending, takes all there is. -/
theorem untilNewline_last (blocking : Bool) {fuel : Nat} (h : before cs s) (hall : all)
    (hcs : ∀ c ∈ cs, l.translation.turn c ≠ '\n') (hfuel : cs.length < fuel) :
    ∃ s', untilNewline blocking fuel (l, s) =
      ((cs.map l.translation.turn, .ended), { l with ended := true }, s') := by
  induction cs generalizing fuel s with
  | nil =>
    obtain ⟨fuel, rfl⟩ := Nat.exists_eq_succ_of_ne_zero (Nat.ne_zero_of_lt hfuel)
    rcases hs.answers h Nat.one_pos (.inr hall) with
      ⟨us, vs, s', -, hus, -, hsplit, -⟩ | ⟨s', hf, -⟩
    · exact absurd (List.append_eq_nil_iff.1 hsplit.symm).1 hus
    · exact ⟨s', by simp [untilNewline, next_of_ended hl Nat.one_pos hf]⟩
  | cons c cs ih =>
    obtain ⟨fuel, rfl⟩ := Nat.exists_eq_succ_of_ne_zero (Nat.ne_zero_of_lt hfuel)
    obtain ⟨hnot, hcs⟩ := List.forall_mem_cons.1 hcs
    obtain ⟨s₁, hnext, hrest, -⟩ := next_one hl hs h
    obtain ⟨s', hline⟩ := ih hrest hcs (Nat.lt_of_succ_lt_succ hfuel)
    exact ⟨s', by simp [untilNewline, hnext, hnot, hline]⟩

theorem readLine_line (blocking : Bool) {as : List Char} {c : Char} (h : before (as ++ c :: cs) s)
    (has : ∀ a ∈ as, l.translation.turn a ≠ '\n') (hc : l.translation.turn c = '\n') :
    ∃ s', readLine blocking (l, s) = (.line (as.map l.translation.turn), l, s') ∧
      before cs s' ∧ whole s' := by
  have hbudget := hs.budget h
  have hfuel : as.length < budget (l, s) + 2 := by
    simp only [List.length_append, budget] at hbudget ⊢
    omega
  obtain ⟨s', hline, hthen⟩ := untilNewline_line hl hs blocking h has hc hfuel
  have hsame : ({ l with partialLine := [] } : Lines) = l := by rw [← hl.partialLine]
  exact ⟨s', by simp [readLine, hline, hl.partialLine, hsame], hthen⟩

theorem readLine_last (blocking : Bool) (h : before cs s) (hall : all)
    (hcs : ∀ c ∈ cs, l.translation.turn c ≠ '\n') :
    let r := readLine blocking (l, s)
    r.1 = (if cs = [] then .ended else .line (cs.map l.translation.turn)) ∧ r.2.1.isEnded = true := by
  have hbudget := hs.budget h
  have hfuel : cs.length < budget (l, s) + 2 := by
    simp only [budget]
    omega
  obtain ⟨s', hline⟩ := untilNewline_last hl hs blocking h hall hcs hfuel
  cases cs with
  | nil => simp [readLine, hline, hl.partialLine, hl.ahead, isEnded]
  | cons c cs => simp [readLine, hline, hl.partialLine, hl.ahead, isEnded]

end Runs

end Input.Lines

end ScriptChannel
