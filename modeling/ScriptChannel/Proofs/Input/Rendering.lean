import ScriptChannel.Proofs.Input.Settling

/-!
# Line endings as newlines

When some reads go around the line endings and others do not, what comes out is not the translation
of any one text. Still every character comes out once and in its place, and the only ones that are
changed on the way are line endings.
-/

namespace ScriptChannel

namespace Translation

/-- A carriage return by itself is a line ending, or may be one. -/
def EndsAlone (t : Translation) : Prop := t = .auto ∨ t = .cr

/-- A carriage return with a newline behind it is a line ending, or may be one. -/
def EndsPaired (t : Translation) : Prop := t = .auto ∨ t = .crlf

/-- What comes out is the text but for some line endings, which come out as newlines. -/
inductive Renders (t : Translation) : (text out : List Char) → Prop
  | nil : Renders t [] []
  | same {text out : List Char} (c : Char) : Renders t text out → Renders t (c :: text) (c :: out)
  | lone {text out : List Char} : t.EndsAlone → Renders t text out →
      Renders t ('\r' :: text) ('\n' :: out)
  | pair {text out : List Char} : t.EndsPaired → Renders t text out →
      Renders t ('\r' :: '\n' :: text) ('\n' :: out)

section Renders
variable {t : Translation} {text out text' out' : List Char}

theorem renders_refl (t : Translation) (cs : List Char) : t.Renders cs cs := by
  induction cs with
  | nil => exact .nil
  | cons c cs ih => exact .same c ih

theorem Renders.append (h : t.Renders text out) (h' : t.Renders text' out') :
    t.Renders (text ++ text') (out ++ out') := by
  induction h with
  | nil => exact h'
  | same c _ ih => exact .same c ih
  | lone ht _ ih => exact .lone ht ih
  | pair ht _ ih => exact .pair ht ih

theorem Renders.mem (h : t.Renders text out) {c : Char} (hc : c ∈ out) : c ∈ text ∨ c = '\n' := by
  induction h with
  | nil => exact .inl hc
  | same x _ ih =>
    rcases List.mem_cons.1 hc with rfl | hc
    · exact .inl (List.mem_cons_self ..)
    · exact (ih hc).imp_left (List.mem_cons_of_mem x)
  | lone _ _ ih =>
    rcases List.mem_cons.1 hc with rfl | hc
    · exact .inr rfl
    · exact (ih hc).imp_left (List.mem_cons_of_mem _)
  | pair _ _ ih =>
    rcases List.mem_cons.1 hc with rfl | hc
    · exact .inr rfl
    · exact (ih hc).imp_left fun hc => List.mem_cons_of_mem _ (List.mem_cons_of_mem _ hc)

/-- With more endings there are more renderings. -/
theorem Renders.mono {t' : Translation} (h : t'.Renders text out)
    (halone : t'.EndsAlone → t.EndsAlone) (hpaired : t'.EndsPaired → t.EndsPaired) :
    t.Renders text out := by
  induction h with
  | nil => exact .nil
  | same c _ ih => exact .same c ih
  | lone ht _ ih => exact .lone (halone ht) ih
  | pair ht _ ih => exact .pair (hpaired ht) ih

/-- What `auto` settles on knows no other endings than it. -/
theorem Renders.of_settled {t' : Translation} (h : t'.Renders text out) (ht : t' = t ∨ t = .auto) :
    t.Renders text out := by
  rcases ht with rfl | rfl
  · exact h
  · exact h.mono (fun _ => .inl rfl) fun _ => .inl rfl

/-- The translation of a text is one of its renderings. -/
theorem renders_read (t : Translation) (cs : List Char) : t.Renders cs (t.read cs) := by
  have hcr : ∀ t : Translation, t.EndsAlone → ∀ cs, t.Renders cs (readCr cs) := by
    intro t ht cs
    induction cs with
    | nil => exact .nil
    | cons c cs ih =>
      by_cases hc : c = '\r'
      · subst hc
        exact .lone ht ih
      · simp only [readCr, List.map_cons, if_neg hc]
        exact .same c ih
  have hcrlf : ∀ t : Translation, t.EndsPaired → ∀ cs, t.Renders cs (readCrlf cs) := by
    intro t ht cs
    fun_induction readCrlf cs with
    | case1 => exact .nil
    | case2 cs ih => exact .pair ht ih
    | case3 c cs _ ih => exact .same c ih
  cases t with
  | auto =>
    change Renders .auto cs (readAuto cs)
    fun_induction readAuto cs with
    | case1 => exact .nil
    | case2 cs => exact .same _ (renders_refl _ cs)
    | case3 cs => exact .pair (.inl rfl) (hcrlf _ (.inl rfl) cs)
    | case4 cs _ => exact .lone (.inl rfl) (hcr _ (.inl rfl) cs)
    | case5 c cs _ _ _ ih => exact .same c ih
  | cr => exact hcr _ (.inr rfl) cs
  | crlf => exact hcrlf _ (.inr rfl) cs
  | lf | binary | platform => exact renders_refl _ cs

end Renders

end Translation

namespace Endings

/-- Only `auto` settles on anything. -/
theorem settle_after (m : Translation) (cs : List Char) :
    (after ⟨m, false⟩ cs).settle = m ∨ m = .auto := by
  have hsingle : ∀ m c, (single m c).2.mode = m ∨ m = .auto := by
    intro m c
    unfold single
    split <;> simp
  have hlone : ∀ m, (lone m).2 = m ∨ m = .auto := by
    intro m
    cases m <;> simp [lone]
  have hpaired : ∀ m, paired m = m ∨ m = .auto := by
    intro m
    cases m <;> simp [paired]
  have htake : ∀ s c, (take s c).2.mode = s.mode ∨ s.mode = .auto := by
    intro s c
    unfold take
    split
    · split
      · exact hpaired s.mode
      · rcases hlone s.mode with hl | hl
        · rw [hl]
          exact hsingle s.mode c
        · exact .inr hl
    · exact hsingle s.mode c
  have hafter : ∀ cs s, s.mode = m ∨ m = .auto → (after s cs).mode = m ∨ m = .auto := by
    intro cs
    induction cs with
    | nil => exact fun s hs => hs
    | cons c cs ih =>
      intro s hs
      apply ih
      rcases hs with rfl | hs
      · exact htake s c
      · exact .inr hs
  rcases hafter cs ⟨m, false⟩ (.inl rfl) with hm | hm
  · unfold settle
    split
    · rw [hm]
      exact hlone m
    · exact .inl hm
  · exact .inr hm

end Endings

namespace Input.Lines
variable {σ : Type} [CharSource σ] {P : List Char → σ → Prop} {E : σ → Prop} {cs : List Char}

/-- So much of what was handed up has passed the stage, and the rest waits here. -/
structure Holds (P : List Char → σ → Prop) (E : σ → Prop) (cs : List Char) (s : Lines × σ) : Prop where
  below : P (cs ++ s.1.pending) s.2
  finish : s.1.ended = true → E s.2

omit [CharSource σ] in
theorem Told.holds {start : Endings} {handed : List Char} {s : Lines × σ}
    (h : Told P E start handed cs s) : Holds P E cs s where
  below := by
    have hbelow := h.stands.below
    rwa [List.append_assoc] at hbelow
  finish := h.stands.finish

/-- A source whose answers are to go by stays one behind some characters. -/
theorem Tells.behind (hP : Tells P E) (us : List Char) : Tells (fun vs => P (us ++ vs)) E := by
  intro n vs s hn h
  obtain ⟨hadds, hsound, hover⟩ := hP hn h
  refine ⟨?_, hsound, hover⟩
  rw [← List.append_assoc]
  exact hadds

variable [CharStream σ]

/-- A line renders what is taken for it, whatever was read before it and how. -/
theorem readLine_holds (hP : Tells P E) (blocking : Bool) {s : Lines × σ} (h : Holds P E cs s) :
    let r := readLine blocking s
    ∃ us, Holds P E (cs ++ us) r.2 ∧
      s.1.mode.Renders us (lineText r.1 ++ (lineStop blocking s).closing) ∧
      (r.2.1.mode = s.1.mode ∨ s.1.mode = .auto) ∧ (∀ error, r.1 ≠ .failed error) ∧
      (r.1 = .ended → r.2.1.isEnded = true) := by
  -- the stage stands behind its partial line, which comes out as it is
  have hstands : Stands (fun us => P (cs ++ s.1.partialLine ++ us)) E ⟨s.1.mode, false⟩ [] s := by
    refine ⟨?_, rfl, by simp [Endings.after], by simp [Endings.after], h.finish⟩
    have hbelow := h.below
    rwa [pending, ← List.append_assoc] at hbelow
  obtain ⟨us, huntil, hsound, htext, hlit, hend⟩ :=
    untilNewline_stands (hP.behind _) blocking (budget s + 2) hstands
  obtain ⟨-, -, hkeep, -⟩ := untilNewline_ends blocking (budget s + 2) s
  have hmode := huntil.mode
  have hsettle := Endings.settle_after s.1.mode us
  rw [← hmode] at hsettle
  have hrenders := s.1.mode.renders_read us
  rw [← Endings.text_eq_read, htext] at hrenders
  have hline := (s.1.mode.renders_refl s.1.partialLine).append hrenders
  simp only [readLine, lineStop]
  rcases hq : untilNewline blocking (budget s + 2) s with ⟨⟨vs, stop⟩, l, s'⟩
  rw [hq] at huntil hsound hlit hkeep hend hsettle hline
  obtain ⟨hbelow, -, -, -, hover⟩ := huntil
  dsimp only at hsound hlit hkeep hend hbelow hover hsettle hline ⊢
  simp only [Endings.text, Endings.rest, Bool.false_eq_true, if_false, List.nil_append,
    ← List.append_assoc] at hline
  rw [← hkeep] at hline hbelow
  have hpast : P (cs ++ (l.partialLine ++ us) ++ l.ahead) s' := by
    simpa only [List.append_assoc] using hbelow
  cases stop with
  | newline =>
    refine ⟨l.partialLine ++ us, ⟨hpast, hover⟩, ?_, hsettle, by simp, by simp⟩
    simpa [lineText, Stop.closing] using hline
  | ended =>
    obtain rfl : us = vs := (hlit (by simp)).1
    by_cases hnil : l.partialLine ++ us = []
    · obtain ⟨hp, rfl⟩ := List.append_eq_nil_iff.1 hnil
      simp only [hnil, List.isEmpty_nil, if_true]
      refine ⟨[], ⟨?_, hover⟩, .nil, hsettle, by simp, ?_⟩
      · simpa [pending, hp] using hpast
      · intro _
        obtain ⟨he, ha⟩ := hend rfl
        exact isEnded_iff.2 ⟨he, ha, hp⟩
    · have hne : (l.partialLine ++ us).isEmpty = false := by simpa using hnil
      simp only [hne, Bool.false_eq_true, if_false]
      refine ⟨l.partialLine ++ us, ⟨hpast, hover⟩, ?_, hsettle, by simp, by simp⟩
      simpa [lineText, Stop.closing] using hline
  | wouldBlock =>
    obtain rfl : us = vs := (hlit (by simp)).1
    refine ⟨[], ⟨?_, hover⟩, .nil, hsettle, by simp, by simp⟩
    simpa [pending] using hpast
  | failed error => exact absurd rfl (hsound error)

end Input.Lines

end ScriptChannel
