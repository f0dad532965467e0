import ScriptChannel.Proofs.Input.Lines

/-!
# Line endings behind a text

What a text was made of can be cut anywhere but inside a pair: what lies behind the cut is read on
with the mode that has been settled in front of it. The stage cuts in no other place. Of the
characters taken from below, those it has not handed out wait as they are.
-/

namespace ScriptChannel

namespace Endings

/-- The state behind a text. -/
def after : Endings → List Char → Endings
  | s, [] => s
  | s, c :: cs => after (s.take c).2 cs

/-- What comes out before the end is known. -/
def out : Endings → List Char → List Char
  | _, [] => []
  | s, c :: cs => (s.take c).1 ++ out (s.take c).2 cs

/-- The mode once it is known that no newline follows. -/
def settle (s : Endings) : Translation := if s.held then (lone s.mode).2 else s.mode

@[simp] theorem settle_free (m : Translation) : settle ⟨m, false⟩ = m := rfl

@[simp] theorem settle_held (m : Translation) : settle ⟨m, true⟩ = (lone m).2 := rfl

theorem after_append (s : Endings) (us vs : List Char) :
    s.after (us ++ vs) = (s.after us).after vs := by
  induction us generalizing s with
  | nil => rfl
  | cons u us ih => exact ih _

theorem text_append (s : Endings) (us vs : List Char) :
    s.text (us ++ vs) = s.out us ++ (s.after us).text vs := by
  induction us generalizing s with
  | nil => rfl
  | cons u us ih =>
    rw [List.cons_append, text, ih, out, List.append_assoc]
    rfl

theorem text_eq (s : Endings) (us : List Char) : s.text us = s.out us ++ (s.after us).rest := by
  have h := s.text_append us []
  rwa [List.append_nil] at h

/-- A held carriage return in front of anything but a newline stands for itself. -/
theorem text_of_free {s : Endings} {cs : List Char} (h : s.held = true → cs.head? ≠ some '\n') :
    s.text cs = s.rest ++ text ⟨s.settle, false⟩ cs := by
  obtain ⟨m, held⟩ := s
  cases held with
  | false => rfl
  | true =>
    cases cs with
    | nil => rfl
    | cons c cs =>
      have hc : c ≠ '\n' := fun hn => h rfl (by rw [hn]; rfl)
      simp [text, take, hc, rest]

theorem after_of_free {s : Endings} {c : Char} (h : s.held = true → c ≠ '\n') (cs : List Char) :
    s.after (c :: cs) = after ⟨s.settle, false⟩ (c :: cs) := by
  obtain ⟨m, held⟩ := s
  cases held with
  | false => rfl
  | true =>
    have hc := h rfl
    simp [after, take, hc]

section Cut
variable {s : Endings} {us vs : List Char}

/-- A text cut anywhere but inside a pair. -/
theorem text_cut (h : (s.after us).held = true → vs.head? ≠ some '\n') :
    s.text (us ++ vs) = s.text us ++ text ⟨(s.after us).settle, false⟩ vs := by
  rw [text_append, text_of_free h, text_eq s us, List.append_assoc]

theorem after_cut {c : Char} {cs : List Char} (h : (s.after us).held = true → c ≠ '\n') :
    s.after (us ++ c :: cs) = after ⟨(s.after us).settle, false⟩ (c :: cs) := by
  rw [after_append, after_of_free h]

end Cut

section Return
variable {s : Endings} {us : List Char} {m : Translation} (hr : single m '\r' = ([], ⟨m, true⟩))
  (hs : (s.after us).settle = m)
include hr hs

/-- A carriage return that may begin a pair is held. -/
theorem after_return : s.after (us ++ ['\r']) = ⟨m, true⟩ := by
  rw [after_cut fun _ => by decide, hs]
  simp [after, take, hr]

theorem after_pair : s.after (us ++ ['\r', '\n']) = ⟨paired m, false⟩ := by
  rw [after_cut fun _ => by decide, hs]
  simp [after, take, hr]

theorem text_return : s.text (us ++ ['\r']) = s.text us ++ [(lone m).1] := by
  rw [text_cut fun _ => by simp, hs]
  simp [text, take, hr, rest]

theorem text_of_pair : s.text (us ++ ['\r', '\n']) = s.text us ++ ['\n'] := by
  rw [text_cut fun _ => by simp, hs]
  simp [text, take, hr, rest]

end Return

/-- Characters of no line ending come out as they are. -/
theorem text_plain {m : Translation} {us : List Char} (h : ∀ c ∈ us, c ≠ '\n' ∧ c ≠ '\r')
    (vs : List Char) : text ⟨m, false⟩ (us ++ vs) = us ++ text ⟨m, false⟩ vs := by
  induction us with
  | nil => rfl
  | cons c cs ih =>
    obtain ⟨⟨hn, hr⟩, hcs⟩ := List.forall_mem_cons.1 h
    have hc : single m c = ([c], ⟨m, false⟩) :=
      single_of_other (fun _ => hr) (fun _ => hr) (fun _ => hn) (fun _ => hr)
    simp [text, take, hc, ih hcs]

/-- So they do in the middle of a text, and those behind them come out as if they stood alone. -/
theorem length_text_plain {us : List Char} (h : ∀ c ∈ us, c ≠ '\n' ∧ c ≠ '\r') (hus : us ≠ [])
    (s : Endings) (as bs : List Char) :
    (s.text (as ++ (us ++ bs))).length =
      (s.text as).length + us.length + (text ⟨(s.after as).settle, false⟩ bs).length := by
  have hcut : s.text (as ++ (us ++ bs)) = s.text as ++ text ⟨(s.after as).settle, false⟩ (us ++ bs) := by
    apply text_cut
    intro _
    cases us with
    | nil => exact absurd rfl hus
    | cons c cs => simpa using (h c (List.mem_cons_self ..)).1
  rw [hcut, text_plain h, List.length_append, List.length_append, Nat.add_assoc]

/-- A character of a text is one of those it was made of, or a newline. -/
theorem mem_text {s : Endings} {cs : List Char} {c : Char} (h : c ∈ s.text cs) :
    c ∈ cs ∨ c = '\n' ∨ c = '\r' := by
  have hlone : ∀ m, (lone m).1 = '\n' ∨ (lone m).1 = '\r' := by
    intro m
    cases m <;> simp [lone]
  have hsingle : ∀ m x, c ∈ (single m x).1 → c = x ∨ c = '\n' := by
    intro m x hx
    unfold single at hx
    split at hx <;> simp_all
  induction cs generalizing s with
  | nil =>
    right
    simp only [text, rest] at h
    split at h
    · rw [List.mem_singleton.1 h]
      exact hlone s.mode
    · simp at h
  | cons x cs ih =>
    rcases List.mem_append.1 h with h | h
    · have hx : c = x ∨ c = '\n' ∨ c = '\r' := by
        simp only [take] at h
        split at h
        · split at h
          · exact .inr (.inl (List.mem_singleton.1 h))
          · rcases List.mem_cons.1 h with rfl | h
            · exact .inr (hlone s.mode)
            · exact (hsingle _ _ h).imp_right .inl
        · exact (hsingle _ _ h).imp_right .inl
      rcases hx with rfl | hx
      · exact .inl (List.mem_cons_self ..)
      · exact .inr hx
    · exact (ih h).imp_left (List.mem_cons_of_mem x)

/-- Behind some text a further one comes out as it is, however far one reads into it, and settles
nothing. -/
def Literal (s : Endings) (us vs : List Char) : Prop :=
  ∀ ws, ws <+: vs → s.text (us ++ ws) = s.text us ++ ws ∧
    (s.after (us ++ ws)).settle = (s.after us).settle

section Literal
variable {s : Endings} {us vs ws : List Char}

theorem literal_nil (s : Endings) (us : List Char) : s.Literal us [] := by
  intro ws hws
  rw [List.prefix_nil.1 hws, List.append_nil, List.append_nil]
  exact ⟨rfl, rfl⟩

theorem Literal.behind (h : s.Literal us (vs ++ ws)) : s.Literal (us ++ vs) ws := by
  intro xs hxs
  obtain ⟨ht, hs⟩ := h vs (List.prefix_append vs ws)
  obtain ⟨ht', hs'⟩ := h (vs ++ xs) ((List.prefix_append_right_inj vs).2 hxs)
  rw [List.append_assoc, ht', ht, List.append_assoc]
  exact ⟨rfl, hs'.trans hs.symm⟩

theorem Literal.append (h : s.Literal us vs) (h' : s.Literal (us ++ vs) ws) :
    s.Literal us (vs ++ ws) := by
  intro xs hxs
  rcases List.prefix_or_prefix_of_prefix hxs (List.prefix_append vs ws) with hin | ⟨ys, rfl⟩
  · exact h xs hin
  · have hys := (List.prefix_append_right_inj vs).1 hxs
    obtain ⟨ht, hs⟩ := h vs (List.prefix_refl vs)
    obtain ⟨ht', hs'⟩ := h' ys hys
    rw [← List.append_assoc, ht', ht, List.append_assoc]
    exact ⟨rfl, hs'.trans hs⟩

theorem literal_single {c : Char} (ht : s.text (us ++ [c]) = s.text us ++ [c])
    (hs : (s.after (us ++ [c])).settle = (s.after us).settle) : s.Literal us [c] := by
  intro xs hxs
  rcases List.prefix_cons_iff.1 hxs with rfl | ⟨ys, rfl, hys⟩
  · exact s.literal_nil us [] (List.prefix_refl [])
  · rw [List.prefix_nil.1 hys]
    exact ⟨ht, hs⟩

end Literal

end Endings

namespace Input.Lines
variable {σ : Type} [CharSource σ]

theorem isEnded_iff {l : Lines} :
    l.isEnded = true ↔ l.ended = true ∧ l.ahead = [] ∧ l.partialLine = [] := by
  simp [isEnded, and_assoc]

/-- Every answer of the source is one to go by. -/
def Tells (P : List Char → σ → Prop) (E : σ → Prop) : Prop :=
  ∀ ⦃n : Nat⦄ ⦃cs : List Char⦄ ⦃s : σ⦄, 0 < n → P cs s →
    (CharSource.fetch n s).1.Truthful P E cs (CharSource.fetch n s).2

/-- The stage stands behind so much of what was handed up; the rest of that is ahead. It does not
stand inside a pair. -/
structure Stands (P : List Char → σ → Prop) (E : σ → Prop) (start : Endings) (cs : List Char)
    (s : Lines × σ) : Prop where
  below : P (cs ++ s.1.ahead) s.2
  mode : s.1.mode = (start.after cs).settle
  front : (start.after cs).held = true → s.1.ahead.head? ≠ some '\n'
  ended : (start.after cs).held = true → s.1.ahead = [] → s.1.ended = true
  finish : s.1.ended = true → E s.2

variable [CharStream σ] {P : List Char → σ → Prop} {E : σ → Prop} {start : Endings} {cs : List Char}

/-- What is asked for goes ahead. If there is nothing, it is for a reason that is no failure. -/
theorem fill_tells (hP : Tells P E) {n : Nat} {s : Lines × σ} (h : P (cs ++ s.1.ahead) s.2)
    (ho : s.1.ended = true → E s.2) :
    let r := fill n s
    P (cs ++ r.2.1.ahead) r.2.2 ∧ (r.2.1.ended = true → E r.2.2) ∧
      (∀ error, r.1 ≠ some (.failed error)) ∧
      (r.1 = some .ended → r.2.1.ended = true) ∧ (r.1 = none → r.2.1.ahead ≠ []) ∧
      (r.1 ≠ none → r.2.1.ahead = []) ∧ (s.1.ahead ≠ [] ∨ s.1.ended = true → r.2 = s) := by
  obtain ⟨l, s⟩ := s
  simp only [fill]
  by_cases ha : l.ahead = []
  · by_cases he : l.ended = true
    · simp only [ha, he, List.isEmpty_nil, Bool.not_true, Bool.false_eq_true, if_false, if_true]
      rw [ha] at h
      exact ⟨h, fun _ => ho he, by simp, by simp, by simp, by simp, by simp⟩
    · have hn : 0 < max n 1 := by omega
      obtain ⟨hnext, hsound, hover⟩ := hP hn h
      have htakes := CharStream.fetch_takes (max n 1) s hn
      simp only [ha, he, List.isEmpty_nil, Bool.not_true, Bool.false_eq_true, if_false]
      rw [ha, List.append_nil] at hnext
      rcases hf : CharSource.fetch (max n 1) s with ⟨us | _ | _ | error, s'⟩
      all_goals
        rw [hf] at hnext hsound hover htakes
        simp only [Fetch.units, List.append_nil] at hnext
      · cases us with
        | nil => exact absurd rfl htakes.1
        | cons u us =>
          exact ⟨hnext, by simp, by simp, by simp, by simp, by simp, by simp⟩
      · refine ⟨by simpa [ha] using hnext, fun hend => absurd hend he, ?_⟩
        exact ⟨by simp, by simp, by simp, fun _ => ha, by simp⟩
      · exact ⟨by simpa using hnext, fun _ => hover rfl, by simp, by simp, by simp, by simp, by simp⟩
      · exact absurd rfl (hsound error)
  · have ha' : l.ahead.isEmpty = false := by simpa using ha
    simp only [ha', Bool.not_false, if_true]
    exact ⟨h, ho, by simp, by simp, fun _ => ha, by simp, by simp⟩

theorem fill_stands (hP : Tells P E) {n : Nat} {s : Lines × σ} (h : Stands P E start cs s) :
    Stands P E start cs (fill n s).2 := by
  obtain ⟨hbelow, hover, -, -, -, -, hsame⟩ := fill_tells hP (n := n) h.below h.finish
  obtain ⟨-, hkeep⟩ := fill_filled n s
  by_cases hfree : (start.after cs).held = true
  · have hs : (fill n s).2 = s := by
      apply hsame
      by_cases ha : s.1.ahead = []
      · exact .inr (h.ended hfree ha)
      · exact .inl ha
    rw [hs]
    exact h
  · exact ⟨hbelow, hkeep.mode.trans h.mode, fun hf => absurd hf hfree, fun hf => absurd hf hfree, hover⟩

/-- How the answer to the question for the next character takes the stage from one text to the
next. Any character but a newline stands for itself. -/
def Advances (start : Endings) (cs cs' : List Char) : Next → Prop
  | .char c => start.text cs' = start.text cs ++ [c] ∧ (c ≠ '\n' →
      cs' = cs ++ [c] ∧ (start.after cs').settle = (start.after cs).settle)
  | .failed _ => False
  | _ => cs' = cs

omit [CharSource σ] [CharStream σ] in
/-- A character that is read by itself. -/
theorem stands_single {c : Char} {l : Lines} {s : σ} (out : Char) {m : Translation}
    (h : P (cs ++ c :: l.ahead) s) (ho : l.ended = true → E s)
    (hc : (start.after cs).held = true → c ≠ '\n')
    (hs : Endings.single (start.after cs).settle c = ([out], ⟨m, false⟩)) (hm : l.mode = m)
    (hout : out ≠ '\n' → out = c ∧ m = (start.after cs).settle) :
    Stands P E start (cs ++ [c]) (l, s) ∧ Advances start cs (cs ++ [c]) (.char out) := by
  have hafter : start.after (cs ++ [c]) = ⟨m, false⟩ := by
    rw [Endings.after_cut hc]
    simp [Endings.after, Endings.take, hs]
  have htext : start.text (cs ++ [c]) = start.text cs ++ [out] := by
    rw [Endings.text_cut fun hf => by simpa using hc hf]
    simp [Endings.text, Endings.take, hs, Endings.rest]
  refine ⟨⟨by simpa using h, by rw [hafter, hm]; rfl, ?_, ?_, ho⟩, htext, ?_⟩
  · simp [hafter]
  · simp [hafter]
  · intro hne
    obtain ⟨rfl, rfl⟩ := hout hne
    exact ⟨rfl, by rw [hafter]; rfl⟩

theorem lone_of_ne {m : Translation} (h : (Endings.lone m).1 ≠ '\n') :
    Endings.lone m = ('\r', m) := by
  cases m with
  | auto => exact absurd rfl h
  | _ => rfl

omit [CharSource σ] [CharStream σ] in
/-- A carriage return is told apart by what is behind it. -/
theorem turn_stands {m : Translation} (hr : Endings.single m '\r' = ([], ⟨m, true⟩))
    {pair lone : Lines → Next × Lines} (hpair : Turns m pair '\n' (Endings.paired m))
    (hlone : Turns m lone (Endings.lone m).1 (Endings.lone m).2) {l : Lines} {s : σ}
    (hm : l.mode = m) (hs : (start.after cs).settle = m) (h : P (cs ++ ['\r'] ++ l.ahead) s)
    (ho : l.ended = true → E s) (hopen : l.ahead = [] → l.ended = true) :
    let r := if l.ahead.head? = some '\n' then pair { l with ahead := l.ahead.tail } else lone l
    ∃ cs', Stands P E start cs' (r.2, s) ∧ Advances start cs cs' r.1 ∧ r.1 ≠ .ended := by
  by_cases hn : l.ahead.head? = some '\n'
  · rw [if_pos hn]
    obtain ⟨rest, ha⟩ : ∃ rest, l.ahead = '\n' :: rest := List.head?_eq_some_iff.1 hn
    have hpaired := Endings.after_pair hr hs
    refine ⟨cs ++ ['\r', '\n'], ⟨?_, ?_, ?_, ?_, ?_⟩, ?_⟩
    · rw [hpair.ahead, ha]
      simpa [ha] using h
    · rw [hpaired]
      exact hpair.mode _ hm
    · simp [hpaired]
    · simp [hpaired]
    · rw [hpair.ended]
      exact ho
    · rw [hpair.answer { l with ahead := l.ahead.tail } hm]
      exact ⟨⟨Endings.text_of_pair hr hs, fun h => absurd rfl h⟩, by simp⟩
  · rw [if_neg hn]
    have hheld := Endings.after_return hr hs
    refine ⟨cs ++ ['\r'], ⟨?_, ?_, ?_, ?_, ?_⟩, ?_⟩
    · rw [hlone.ahead]
      exact h
    · rw [hheld]
      exact hlone.mode _ hm
    · intro _
      rw [hlone.ahead]
      exact hn
    · intro _ hnil
      rw [hlone.ahead] at hnil
      rw [hlone.ended]
      exact hopen hnil
    · rw [hlone.ended]
      exact ho
    · rw [hlone.answer l hm]
      refine ⟨⟨Endings.text_return hr hs, fun hne => ?_⟩, by simp⟩
      rw [hheld, hs, Endings.settle_held, lone_of_ne hne]
      exact ⟨rfl, rfl⟩

/-- A carriage return that is held until it is known what follows. -/
theorem afterReturn_stands (hP : Tells P E) {m : Translation}
    (hr : Endings.single m '\r' = ([], ⟨m, true⟩)) {pair lone : Lines → Next × Lines}
    (hpair : Turns m pair '\n' (Endings.paired m))
    (hlone : Turns m lone (Endings.lone m).1 (Endings.lone m).2) {l : Lines} {s : σ}
    (hm : l.mode = m) (hs : (start.after cs).settle = m) (h : P (cs ++ '\r' :: l.ahead) s)
    (ho : l.ended = true → E s) :
    let r := afterReturn pair lone (l, s)
    ∃ cs', Stands P E start cs' r.2 ∧ Advances start cs cs' r.1 ∧ r.1 ≠ .ended := by
  have hbelow : P (cs ++ ['\r'] ++ l.ahead) s := by simpa using h
  obtain ⟨hfill, hover, hsound, hend, hsome, hnone, -⟩ :=
    fill_tells hP (n := 1) (s := (l, s)) hbelow ho
  obtain ⟨hfilled, hsame⟩ := fill_filled 1 (l, s)
  simp only [afterReturn]
  rcases hf : fill 1 (l, s) with ⟨why, l', s'⟩
  rw [hf] at hfill hover hsound hend hsome hnone hsame hfilled
  dsimp only at hfill hover hend hsome hnone
  have hm' : l'.mode = m := hsame.mode.trans hm
  cases why with
  | none => exact turn_stands hr hpair hlone hm' hs hfill hover fun hnil => absurd hnil (hsome rfl)
  | some why =>
    cases why with
    | ended => exact turn_stands hr hpair hlone hm' hs hfill hover fun _ => hend rfl
    | char c => exact hfilled.elim
    | failed error => exact absurd rfl (hsound error)
    | wouldBlock =>
      have hnil : l'.ahead = [] := hnone (by simp)
      refine ⟨cs, ⟨?_, ?_, ?_, ?_, hover⟩, rfl, by simp⟩
      · simpa [hnil] using hfill
      · rw [hs]
        exact hm'
      · simp
      · simp

theorem next_stands (hP : Tells P E) (n : Nat) {s : Lines × σ} (h : Stands P E start cs s) :
    let r := next n s
    ∃ cs', Stands P E start cs' r.2 ∧ Advances start cs cs' r.1 ∧
      (r.1 = .ended → r.2.1.ended = true ∧ r.2.1.ahead = []) := by
  have hfill := fill_stands hP (n := n) h
  obtain ⟨-, -, hsound, hend, hsome, hnone, -⟩ := fill_tells hP (n := n) h.below h.finish
  have hfilled := (fill_filled n s).1
  simp only [next]
  rcases hf : fill n s with ⟨why, l, s'⟩
  rw [hf] at hfill hsound hend hsome hnone hfilled
  cases why with
  | some why =>
    cases why with
    | char c => exact hfilled.elim
    | wouldBlock => exact ⟨cs, hfill, rfl, by simp⟩
    | ended => exact ⟨cs, hfill, rfl, fun _ => ⟨hend rfl, hnone (by simp)⟩⟩
    | failed error => exact absurd rfl (hsound error)
  | none =>
    have hne := hsome rfl
    dsimp only at hne ⊢
    cases ha : l.ahead with
    | nil => exact absurd ha hne
    | cons c rest =>
      have hbelow : P (cs ++ c :: rest) s' := by
        have hb := hfill.below
        rwa [ha] at hb
      have hc : (start.after cs).held = true → c ≠ '\n' := by
        intro hheld hn
        have hfront := hfill.front hheld
        simp [ha, hn] at hfront
      have hmode : l.mode = (start.after cs).settle := hfill.mode
      have hover : l.ended = true → E s' := hfill.finish
      dsimp only
      simp only [mode_with_ahead]
      split
      · rename_i hm
        obtain ⟨hs, hadv⟩ := stands_single (l := { l with ahead := rest }) '\n' hbelow hover hc
          (by rw [← hmode, hm]; rfl) hm (by simp)
        exact ⟨cs ++ ['\r'], hs, hadv, by simp⟩
      · rename_i hm
        obtain ⟨cs', hs, hadv, hne⟩ := afterReturn_stands hP rfl (turns_same .crlf '\n')
          (turns_same .crlf '\r') (l := { l with ahead := rest }) hm (hmode.symm.trans hm) hbelow hover
        exact ⟨cs', hs, hadv, fun he => absurd he hne⟩
      · rename_i hm
        obtain ⟨hs, hadv⟩ := stands_single (l := { l with ahead := rest, detected := some .lf })
          '\n' hbelow hover hc (by rw [← hmode, hm]; rfl)
          (mode_of_settled (l := { l with ahead := rest }) hm .lf) (by simp)
        exact ⟨cs ++ ['\n'], hs, hadv, by simp⟩
      · rename_i hm
        obtain ⟨cs', hs, hadv, hne⟩ := afterReturn_stands hP rfl (turns_detected rfl '\n' .crlf)
          (turns_detected rfl '\n' .cr) (l := { l with ahead := rest }) hm (hmode.symm.trans hm) hbelow
          hover
        exact ⟨cs', hs, hadv, fun he => absurd he hne⟩
      · rename_i hcr hcrlf hn hr
        obtain ⟨hs, hadv⟩ := stands_single (l := { l with ahead := rest }) _ hbelow hover hc
          (by rw [← hmode]; exact Endings.single_of_other hcr hcrlf hn hr) rfl
          (fun _ => ⟨rfl, hmode⟩)
        exact ⟨_, hs, hadv, by simp⟩

theorem gather_stands (hP : Tells P E) (n : Nat) (some? : Bool) {s : Lines × σ}
    (h : Stands P E start cs s) :
    ∃ cs', Stands P E start cs' (gather n some? s).2 ∧
      start.text cs' = start.text cs ++ (gather n some? s).1.1 ∧
      (∀ error, (gather n some? s).1.2 ≠ .failed error) ∧
      ((gather n some? s).1.2 = .ended →
        (gather n some? s).2.1.ended = true ∧ (gather n some? s).2.1.ahead = []) := by
  induction n generalizing cs some? s with
  | zero => exact ⟨cs, h, by simp [gather], by simp [gather], by simp [gather]⟩
  | succ n ih =>
    simp only [gather]
    split
    · exact ⟨cs, h, by simp, by simp, by simp⟩
    · obtain ⟨cs', hnext, hadv, hend⟩ := next_stands hP (n + 1) h
      rcases hq : next (n + 1) s with ⟨c | _ | _ | error, s'⟩
      all_goals rw [hq] at hnext hadv hend
      · obtain ⟨htext, -⟩ := hadv
        obtain ⟨cs'', hrest, htext', hsound, hend'⟩ := ih true hnext
        refine ⟨cs'', hrest, ?_, hsound, hend'⟩
        rw [htext', htext, List.append_assoc]
        rfl
      · obtain rfl : cs' = cs := hadv
        refine ⟨cs', hnext, by simp, ?_, ?_⟩
        · intro error
          dsimp only
          split <;> simp
        · dsimp only
          split <;> simp
      · obtain rfl : cs' = cs := hadv
        refine ⟨cs', hnext, by simp, ?_, fun _ => hend rfl⟩
        intro error
        dsimp only
        split <;> simp
      · exact hadv.elim

/-- The stage has handed out what the characters up to here come to. The partial line stands behind
them as it is. -/
structure Told (P : List Char → σ → Prop) (E : σ → Prop) (start : Endings)
    (handed cs : List Char) (s : Lines × σ) : Prop where
  stands : Stands P E start (cs ++ s.1.partialLine) s
  handed : handed = start.text cs
  literal : start.Literal cs s.1.partialLine

omit [CharSource σ] [CharStream σ] in
theorem Stands.with_partialLine {l : Lines} {s : σ} (h : Stands P E start cs (l, s))
    (text : List Char) : Stands P E start cs ({ l with partialLine := text }, s) :=
  ⟨h.below, h.mode, h.front, h.ended, h.finish⟩

theorem read_told (hP : Tells P E) (n : Nat) {handed : List Char} {s : Lines × σ}
    (h : Told P E start handed cs s) :
    let r := read n s
    ∃ cs', Told P E start (handed ++ r.1.1) cs' r.2 ∧ (∀ error, r.1.2 ≠ .failed error) ∧
      (r.1.2 = .ended → r.2.1.isEnded = true) := by
  obtain ⟨l, s⟩ := s
  obtain ⟨hstands, hhanded, hliteral⟩ := h
  dsimp only at hstands hliteral
  have hsplit := List.take_append_drop n l.partialLine
  rw [← hsplit, ← List.append_assoc] at hstands
  rw [← hsplit] at hliteral
  have hfront := (hliteral _ (List.prefix_append _ _)).1
  simp only [read]
  rcases Nat.lt_or_ge n l.partialLine.length with hlt | hge
  · -- the partial line is more than enough
    have hzero : n - (l.partialLine.take n).length = 0 := by
      rw [List.length_take]
      omega
    rw [hzero]
    refine ⟨cs ++ l.partialLine.take n, ⟨?_, ?_, ?_⟩, by simp [gather], by simp [gather]⟩
    · exact hstands.with_partialLine _
    · simp [gather, hfront, hhanded]
    · exact hliteral.behind
  · have hnil : l.partialLine.drop n = [] := List.drop_eq_nil_of_le hge
    rw [hnil, List.append_nil] at hstands
    obtain ⟨cs', hgather, htext, hsound, hend⟩ := gather_stands hP (n - (l.partialLine.take n).length)
      (!(l.partialLine.take n).isEmpty) (hstands.with_partialLine [])
    obtain ⟨-, -, hkeep⟩ := gather_run (n - (l.partialLine.take n).length)
      (!(l.partialLine.take n).isEmpty) (({ l with partialLine := [] } : Lines), s)
    rw [hnil]
    refine ⟨cs', ⟨?_, ?_, ?_⟩, hsound, ?_⟩
    · rw [hkeep, List.append_nil]
      exact hgather
    · rw [htext, hfront, hhanded, List.append_assoc]
    · rw [hkeep]
      exact start.literal_nil cs'
    · intro hended
      obtain ⟨he, ha⟩ := hend hended
      exact isEnded_iff.2 ⟨he, ha, hkeep⟩

omit [CharSource σ] [CharStream σ] in
/-- What was handed up goes on with what waits here, if it goes on in a text at all. -/
theorem Told.begins {handed : List Char} {s : Lines × σ} (h : Told P E start handed cs s)
    {text : List Char} (hall : ∀ {us}, P us s.2 → us <+: text) (hend : ∀ {us}, P us s.2 → E s.2 → us = text) :
    handed <+: start.text text := by
  obtain ⟨hstands, rfl, hliteral⟩ := h
  obtain ⟨vs, hvs⟩ := hall hstands.below
  rw [List.append_assoc] at hvs
  have hcut : start.text text = start.text (cs ++ s.1.partialLine) ++
      Endings.text ⟨(start.after (cs ++ s.1.partialLine)).settle, false⟩ (s.1.ahead ++ vs) := by
    rw [← hvs]
    apply Endings.text_cut
    intro hheld
    cases ha : s.1.ahead with
    | nil =>
      have hbelow := hstands.below
      have hdone := hend hbelow (hstands.finish (hstands.ended hheld ha))
      have hnil : vs = [] := by
        rw [← hvs, ← List.append_assoc] at hdone
        exact List.self_eq_append_right.1 hdone
      simp [hnil]
    | cons c rest => simpa [ha] using hstands.front hheld
  rw [hcut, (hliteral _ (List.prefix_refl _)).1, List.append_assoc]
  exact List.prefix_append _ _

/-- Any number of characters, in pieces. -/
theorem collect_told (hP : Tells P E) {piece : Nat} (hp : 0 < piece) (n : Nat) {handed : List Char}
    {s : Lines × σ} (h : Told P E start handed cs s) :
    let r := collect piece read n s
    ∃ cs', Told P E start (handed ++ r.1.1) cs' r.2 ∧ (∀ error, r.1.2 ≠ .failed error) ∧
      (r.1.2 = .ended → r.2.1.isEnded = true) := by
  obtain ⟨hrun, -⟩ := collect_spec piece (read (σ := σ))
    (Q := fun us halt s s' => ∀ handed cs, Told P E start handed cs s →
      ∃ cs', Told P E start (handed ++ us) cs' s' ∧ (∀ error, halt ≠ .failed error) ∧
        (halt = .ended → s'.1.isEnded = true))
    (fun s handed cs hs => ⟨cs, by rwa [List.append_nil], by simp, by simp⟩)
    (by
      intro us vs halt s s' s'' hu hv handed cs hs
      obtain ⟨cs', hs', -⟩ := hu handed cs hs
      rw [← List.append_assoc]
      exact hv _ cs' hs')
    hp (fun n s hn => ⟨fun handed cs hs => read_told hP n hs, (read_run hn s).2.2⟩) n s
  exact hrun handed cs h

/-- The newline that ends a line. -/
def Stop.closing : Stop → List Char
  | .newline => ['\n']
  | _ => []

/-- The characters before the end of a line stand for themselves. Only its end is taken with them. -/
theorem untilNewline_stands (hP : Tells P E) (blocking : Bool) (fuel : Nat) {s : Lines × σ}
    (h : Stands P E start cs s) :
    let r := untilNewline blocking fuel s
    ∃ cs', Stands P E start cs' r.2 ∧ (∀ error, r.1.2 ≠ .failed error) ∧
      start.text cs' = start.text cs ++ r.1.1 ++ r.1.2.closing ∧
      (r.1.2 ≠ .newline → cs' = cs ++ r.1.1 ∧ start.Literal cs r.1.1) ∧
      (r.1.2 = .ended → r.2.1.ended = true ∧ r.2.1.ahead = []) := by
  have hnone : cs = cs ++ [] ∧ start.Literal cs [] := ⟨(List.append_nil cs).symm, start.literal_nil cs⟩
  induction fuel generalizing cs s with
  | zero =>
    refine ⟨cs, h, ?_⟩
    exact ⟨by simp [untilNewline], by simp [untilNewline, Stop.closing], fun _ => hnone,
      by simp [untilNewline]⟩
  | succ fuel ih =>
    obtain ⟨cs', hnext, hadv, hend⟩ := next_stands hP 1 h
    simp only [untilNewline]
    rcases hq : next 1 s with ⟨c | _ | _ | error, s'⟩
    all_goals rw [hq] at hnext hadv hend
    · obtain ⟨htext, hplain⟩ := hadv
      by_cases hc : c = '\n'
      · simp only [hc, if_true]
        refine ⟨cs', hnext, by simp, ?_, by simp, by simp⟩
        rw [htext, hc, List.append_nil]
        rfl
      · simp only [hc, if_false]
        obtain ⟨rfl, hsettle⟩ := hplain hc
        obtain ⟨cs'', hrest, hsound, htext', hlit, hend'⟩ := ih hnext
          ⟨(List.append_nil _).symm, start.literal_nil _⟩
        refine ⟨cs'', hrest, hsound, ?_, ?_, hend'⟩
        · rw [htext', htext]
          simp only [List.append_assoc, List.singleton_append]
        · intro hstop
          obtain ⟨hall, hrest⟩ := hlit hstop
          refine ⟨by simp [hall], ?_⟩
          exact Endings.Literal.append (Endings.literal_single htext hsettle) hrest
    · obtain rfl : cs' = cs := hadv
      cases blocking with
      | false => exact ⟨cs', hnext, by simp, by simp [Stop.closing], fun _ => hnone, by simp⟩
      | true =>
        simp only [if_true]
        exact ih hnext hnone
    · obtain rfl : cs' = cs := hadv
      exact ⟨cs', hnext, by simp, by simp [Stop.closing], fun _ => hnone, fun _ => hend rfl⟩
    · exact hadv.elim

/-- The characters of a line that was read. -/
def lineText : LineRead → List Char
  | .line text => text
  | _ => []

theorem readLine_told (hP : Tells P E) (blocking : Bool) {handed : List Char} {s : Lines × σ}
    (h : Told P E start handed cs s) :
    let r := readLine blocking s
    ∃ cs', Told P E start
        (handed ++ lineText r.1 ++ (lineStop blocking s).closing) cs' r.2 ∧
      (∀ error, r.1 ≠ .failed error) ∧ (r.1 = .ended → r.2.1.isEnded = true) := by
  obtain ⟨hstands, hhanded, hliteral⟩ := h
  have hfront := (hliteral _ (List.prefix_refl _)).1
  obtain ⟨cs', huntil, hsound, htext, hlit, hend⟩ :=
    untilNewline_stands hP blocking (budget s + 2) hstands
  obtain ⟨-, -, hkeep, -⟩ := untilNewline_ends blocking (budget s + 2) s
  simp only [readLine, lineStop]
  rcases hq : untilNewline blocking (budget s + 2) s with ⟨⟨us, stop⟩, l, s'⟩
  rw [hq] at huntil hsound htext hlit hkeep hend
  dsimp only at hsound htext hlit hkeep hend ⊢
  rw [hfront] at htext
  cases stop with
  | newline =>
    refine ⟨cs', ⟨?_, ?_, start.literal_nil cs'⟩, by simp, by simp⟩
    · rw [List.append_nil]
      exact huntil.with_partialLine []
    · rw [htext, hkeep, hhanded]
      simp [lineText, Stop.closing]
  | ended =>
    obtain ⟨rfl, -⟩ := hlit (by simp)
    have htext : start.text (cs ++ s.1.partialLine ++ us) = handed ++ (l.partialLine ++ us) := by
      simpa [hkeep, hhanded, Stop.closing] using htext
    by_cases hline : l.partialLine ++ us = []
    · obtain ⟨hp, hu⟩ := List.append_eq_nil_iff.1 hline
      rw [hu, List.append_nil] at huntil
      simp only [hline, List.isEmpty_nil, if_true]
      refine ⟨cs, ⟨?_, by simpa [lineText, Stop.closing] using hhanded, ?_⟩, by simp, ?_⟩
      · dsimp only
        rwa [hkeep]
      · dsimp only
        rwa [hkeep]
      · intro _
        obtain ⟨he, ha⟩ := hend rfl
        exact isEnded_iff.2 ⟨he, ha, hp⟩
    · have hne : (l.partialLine ++ us).isEmpty = false := by simpa using hline
      simp only [hne, Bool.false_eq_true, if_false]
      refine ⟨cs ++ s.1.partialLine ++ us, ⟨?_, ?_, start.literal_nil _⟩, by simp, by simp⟩
      · rw [List.append_nil]
        exact huntil.with_partialLine []
      · rw [htext]
        simp [lineText, Stop.closing]
  | wouldBlock =>
    obtain ⟨rfl, hrest⟩ := hlit (by simp)
    refine ⟨cs, ⟨?_, by simpa [lineText, Stop.closing] using hhanded, ?_⟩, by simp, by simp⟩
    · rw [hkeep, ← List.append_assoc]
      exact huntil.with_partialLine _
    · dsimp only
      rw [hkeep]
      exact hliteral.append hrest
  | failed error => exact absurd rfl (hsound error)

end Input.Lines

end ScriptChannel
