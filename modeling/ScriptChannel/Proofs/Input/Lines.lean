import ScriptChannel.Input.Lines
import ScriptChannel.Proofs.Input.Endings
import ScriptChannel.Proofs.Runs

/-!
# Line endings on input, signal by signal

What is to come are the partial line and then what the machine for line endings makes of the
characters ahead and of the signals from below.
-/

namespace ScriptChannel.Input.Lines

section Mode

theorem mode_with_ahead (l : Lines) (cs : List Char) : { l with ahead := cs }.mode = l.mode := rfl

/-- Any other setting is the mode of a line whatever was read. -/
theorem mode_of_fixed {l l' : Lines} (ht : l.translation ≠ .auto)
    (h : l'.translation = l.translation) : l'.mode = l.mode := by
  rw [mode, mode, h]
  cases hset : l.translation with
  | auto => exact absurd hset ht
  | _ => rfl

/-- Only an `auto` that has not settled is `auto`, and then it settles as it is told to. -/
theorem mode_of_settled {l : Lines} (h : l.mode = .auto) (t : Translation) :
    { l with detected := some t }.mode = t := by
  cases ht : l.translation <;> simp_all [mode, Translation.native]

end Mode

section Stream
variable {σ : Type} [CharSource σ] [CharStream σ]

/-- The signals in front of which the machine stands. -/
def raw (s : Lines × σ) : Coming Char :=
  Coming.ofUnits s.1.ahead ++ if s.1.ended then [] else CharStream.coming s.2

/-- What is to come behind the partial line. -/
def view (s : Lines × σ) : Coming Char := Endings.coming ⟨s.1.mode, false⟩ (raw s)

/-- What is to come from this stage. -/
def coming (s : Lines × σ) : Coming Char := Coming.ofUnits s.1.partialLine ++ view s

/-- An answer to the question for a character ahead. -/
def Filled (s s' : Lines × σ) : Option Next → Prop
  | none => raw s' = raw s ∧ s'.1.ahead ≠ []
  | some .wouldBlock => raw s = .delay :: raw s' ∧ s'.1.ahead = []
  | some .ended => raw s = [] ∧ raw s' = [] ∧ s'.1.ahead = []
  | some (.failed e) => raw s = .failure e :: raw s' ∧ s'.1.ahead = []
  | some (.char _) => False

/-- What the stage remembers besides the characters ahead and the end of its source. -/
structure Same (l l' : Lines) : Prop where
  translation : l'.translation = l.translation
  detected : l'.detected = l.detected
  partialLine : l'.partialLine = l.partialLine

theorem Same.mode {l l' : Lines} (h : Same l l') : l'.mode = l.mode := by
  simp [Lines.mode, h.translation, h.detected]

theorem fill_filled (n : Nat) (s : Lines × σ) :
    Filled s (fill n s).2 (fill n s).1 ∧ Same s.1 (fill n s).2.1 := by
  obtain ⟨l, s⟩ := s
  simp only [fill]
  by_cases ha : l.ahead = []
  · by_cases he : l.ended = true
    · have hraw : raw (l, s) = [] := by simp [raw, ha, he]
      simp only [ha, he, List.isEmpty_nil, Bool.not_true, Bool.false_eq_true, if_false, if_true]
      exact ⟨⟨hraw, hraw, ha⟩, ⟨rfl, rfl, rfl⟩⟩
    · have ht := CharStream.fetch_takes (max n 1) s (by omega)
      have hraw : raw (l, s) = CharStream.coming s := by simp [raw, ha, he]
      simp only [ha, he, List.isEmpty_nil, Bool.not_true, Bool.false_eq_true, if_false]
      rcases hf : CharSource.fetch (max n 1) s with ⟨f, s'⟩
      rw [hf] at ht
      cases f with
      | got us =>
        obtain ⟨hus, -, hx⟩ := ht
        cases us with
        | nil => exact absurd rfl hus
        | cons u us =>
          refine ⟨⟨?_, by simp⟩, ⟨rfl, rfl, rfl⟩⟩
          rw [hraw, hx]
          simp [raw]
      | wouldBlock =>
        have hx : CharStream.coming s = .delay :: CharStream.coming s' := ht
        refine ⟨⟨?_, ha⟩, ⟨rfl, rfl, rfl⟩⟩
        rw [hraw, hx]
        simp [raw, ha, he]
      | ended =>
        have hx : CharStream.coming s = [] := ht
        exact ⟨⟨hraw.trans hx, by simp [raw], rfl⟩, ⟨rfl, rfl, rfl⟩⟩
      | failed e =>
        have hx : CharStream.coming s = .failure e :: CharStream.coming s' := ht
        refine ⟨⟨?_, ha⟩, ⟨rfl, rfl, rfl⟩⟩
        rw [hraw, hx]
        simp [raw, ha, he]
  · have ha' : l.ahead.isEmpty = false := by simpa using ha
    simp only [ha', Bool.not_false, if_true]
    exact ⟨⟨rfl, ha⟩, ⟨rfl, rfl, rfl⟩⟩

/-- An answer to the question for the next character after translation. -/
def Steps (xs ys : Coming Char) : Next → Prop
  | .char c => xs = .unit c :: ys
  | .wouldBlock => xs = .delay :: ys
  | .ended => xs = [] ∧ ys = []
  | .failed e => xs = .failure e :: ys

/-- A carriage return turns into a character and changes the mode, and nothing else. -/
structure Turns (m : Translation) (f : Lines → Next × Lines) (c : Char) (m' : Translation) : Prop where
  answer : ∀ l : Lines, l.mode = m → (f l).1 = .char c
  mode : ∀ l : Lines, l.mode = m → (f l).2.mode = m'
  ahead : ∀ l : Lines, (f l).2.ahead = l.ahead
  ended : ∀ l : Lines, (f l).2.ended = l.ended
  partialLine : ∀ l : Lines, (f l).2.partialLine = l.partialLine
  translation : ∀ l : Lines, (f l).2.translation = l.translation

theorem Turns.view {m m' : Translation} {f : Lines → Next × Lines} {c : Char}
    (h : Turns m f c m') {l : Lines} (hm : l.mode = m) (s : σ) :
    view ((f l).2, s) = Endings.coming ⟨m', false⟩ (raw (l, s)) := by
  simp [Lines.view, raw, h.mode l hm, h.ahead, h.ended]

/-- A carriage return that the machine holds: what follows decides what it is. As long as that is
open it waits in front. -/
theorem afterReturn_steps {m : Translation} (hr : Endings.single m '\r' = ([], ⟨m, true⟩))
    {pair lone : Lines → Next × Lines} (hpair : Turns m pair '\n' (Endings.paired m))
    (hlone : Turns m lone (Endings.lone m).1 (Endings.lone m).2) {l : Lines} (hm : l.mode = m) (s : σ) :
    Steps (Endings.coming ⟨m, true⟩ (raw (l, s))) (view (afterReturn pair lone (l, s)).2)
        (afterReturn pair lone (l, s)).1 ∧
      (afterReturn pair lone (l, s)).2.1.partialLine = l.partialLine := by
  obtain ⟨hfill, hsame⟩ := fill_filled 1 (l, s)
  simp only [afterReturn]
  rcases hf : fill 1 (l, s) with ⟨why, l', s'⟩
  rw [hf] at hfill hsame
  have hm' : l'.mode = m := hsame.mode.trans hm
  cases why with
  | none =>
    obtain ⟨hraw, hne⟩ := hfill
    cases ha : l'.ahead with
    | nil => exact absurd ha hne
    | cons c cs =>
      have hfront : raw (l', s') = .unit c :: raw ({ l' with ahead := cs }, s') := by simp [raw, ha]
      dsimp only at hraw ⊢
      rw [← hraw, ha, List.head?_cons, List.tail_cons]
      by_cases hn : c = '\n'
      · subst hn
        rw [if_pos rfl]
        refine ⟨?_, (hpair.partialLine _).trans hsame.partialLine⟩
        rw [hpair.answer { l' with ahead := cs } hm', hpair.view (l := { l' with ahead := cs }) hm', hfront]
        exact Endings.coming_pair m _
      · rw [if_neg (by simpa using hn)]
        refine ⟨?_, (hlone.partialLine _).trans hsame.partialLine⟩
        rw [hlone.answer l' hm', hlone.view hm', hfront]
        exact Endings.coming_lone m hn _
  | some why =>
    cases why with
    | char c => exact hfill.elim
    | wouldBlock =>
      obtain ⟨hraw, hnil⟩ := hfill
      refine ⟨?_, hsame.partialLine⟩
      have hfront : raw ({ l' with ahead := '\r' :: l'.ahead }, s') = .unit '\r' :: raw (l', s') := by
        simp [raw]
      have hview : view ({ l' with ahead := '\r' :: l'.ahead }, s') =
          Endings.coming ⟨m, true⟩ (raw (l', s')) := by
        rw [view, hfront]
        simp [mode_with_ahead, hm', Endings.coming, Endings.take, hr]
      dsimp only [Steps]
      rw [hraw, hview]
      rfl
    | ended =>
      obtain ⟨hraw, hraw', hnil⟩ := hfill
      dsimp only at hnil ⊢
      rw [hnil, List.head?_nil, if_neg (by simp)]
      refine ⟨?_, (hlone.partialLine _).trans hsame.partialLine⟩
      rw [hlone.answer l' hm', hlone.view hm', hraw, hraw']
      rfl
    | failed e =>
      obtain ⟨hraw, hnil⟩ := hfill
      refine ⟨?_, hsame.partialLine⟩
      dsimp only [Steps]
      rw [hraw, view, hm']
      rfl

theorem turns_detected {m : Translation} (hm : m = .auto) (c : Char) (t : Translation) :
    Turns m (fun l => (.char c, { l with detected := some t })) c t :=
  ⟨fun _ _ => rfl, fun _ hl => mode_of_settled (hl.trans hm) t, fun _ => rfl, fun _ => rfl,
    fun _ => rfl, fun _ => rfl⟩

theorem turns_same (m : Translation) (c : Char) : Turns m (fun l => (.char c, l)) c m :=
  ⟨fun _ _ => rfl, fun _ hl => hl, fun _ => rfl, fun _ => rfl, fun _ => rfl, fun _ => rfl⟩

/-- The next character, or why there is none, comes off the front of the view. -/
theorem next_steps (n : Nat) (s : Lines × σ) :
    Steps (view s) (view (next n s).2) (next n s).1 ∧
      (next n s).2.1.partialLine = s.1.partialLine := by
  obtain ⟨hfill, hsame⟩ := fill_filled n s
  simp only [next]
  rcases hf : fill n s with ⟨why, l, s'⟩
  rw [hf] at hfill hsame
  have hview : ∀ xs, raw s = xs → view s = Endings.coming ⟨l.mode, false⟩ xs := by
    rintro _ rfl
    rw [view, hsame.mode]
  cases why with
  | some why =>
    refine ⟨?_, hsame.partialLine⟩
    cases why with
    | char c => exact hfill.elim
    | wouldBlock => exact hview _ hfill.1
    | ended =>
      refine ⟨hview _ hfill.1, ?_⟩
      rw [view, hfill.2.1]
      rfl
    | failed e => exact hview _ hfill.1
  | none =>
    obtain ⟨hraw, hne⟩ := hfill
    cases ha : l.ahead with
    | nil => exact absurd ha hne
    | cons c cs =>
      dsimp only at hraw ⊢
      rw [hview _ hraw.symm]
      have hfront : raw (l, s') = .unit c :: raw ({ l with ahead := cs }, s') := by simp [raw, ha]
      rw [ha, hfront]
      dsimp only
      have hpartial : l.partialLine = s.1.partialLine := hsame.partialLine
      simp only [mode_with_ahead]
      split
      · rename_i hmode
        refine ⟨?_, hpartial⟩
        rw [hmode, view, mode_with_ahead, hmode]
        rfl
      · rename_i hmode
        rw [hmode]
        obtain ⟨hsteps, hkeep⟩ := afterReturn_steps rfl (turns_same .crlf '\n') (turns_same .crlf '\r')
          (l := { l with ahead := cs }) hmode s'
        exact ⟨hsteps, hkeep.trans hpartial⟩
      · rename_i hmode
        have hthen := mode_of_settled (l := { l with ahead := cs }) hmode .lf
        refine ⟨?_, hpartial⟩
        rw [hmode, view, hthen]
        rfl
      · rename_i hmode
        rw [hmode]
        obtain ⟨hsteps, hkeep⟩ := afterReturn_steps rfl (turns_detected rfl '\n' .crlf)
          (turns_detected rfl '\n' .cr) (l := { l with ahead := cs }) hmode s'
        exact ⟨hsteps, hkeep.trans hpartial⟩
      · rename_i hcr hcrlf hn hr
        have hs := Endings.single_of_other hcr hcrlf hn hr
        refine ⟨?_, hpartial⟩
        simp [Steps, view, mode_with_ahead, Endings.coming, Endings.take, hs]

/-- What a run of at most `n` characters brings: not everything once it has some and would have to
ask for more. -/
structure Gathered (n : Nat) (some? : Bool) (r : List Char × Halt) : Prop where
  length_le : r.1.length ≤ n
  short : r.2 ≠ .served → r.1.length < n
  waits : some? = true → r.2 = .served ∨ ∃ e, r.2 = .failed e
  some_of_served : some? = false → 0 < n → r.2 = .served → r.1 ≠ []

/-- Two runs one behind the other, told by what was to come at either end. -/
def Run (us : List Char) (h : Halt) (xs ys : Coming Char) : Prop :=
  h.Takes Coming.Past us xs ys ∧ (h = .ended → ys = [])

theorem Run.append {us vs : List Char} {h : Halt} {xs ys zs : Coming Char}
    (hu : Coming.Past us xs ys) (hv : Run vs h ys zs) : Run (us ++ vs) h xs zs :=
  ⟨Halt.Takes.append Coming.Past.append hu hv.1, hv.2⟩

theorem gather_run (n : Nat) (some? : Bool) (s : Lines × σ) :
    Run (gather n some? s).1.1 (gather n some? s).1.2 (view s) (view (gather n some? s).2) ∧
      Gathered n some? (gather n some? s).1 ∧
      (gather n some? s).2.1.partialLine = s.1.partialLine := by
  induction n generalizing some? s with
  | zero =>
    refine ⟨⟨⟨[], rfl, rfl⟩, by simp [gather]⟩, ⟨Nat.le_refl _, ?_, fun _ => .inl rfl, ?_⟩, rfl⟩
    · exact fun h => absurd rfl h
    · exact fun _ h => absurd h (Nat.lt_irrefl 0)
  | succ n ih =>
    simp only [gather]
    by_cases hquit : (some? && s.1.ahead.isEmpty) = true
    · rw [if_pos hquit]
      have hsome : some? = true := by
        cases some? <;> simp_all
      refine ⟨⟨⟨[], rfl, rfl⟩, by simp⟩, ⟨Nat.zero_le _, ?_, fun _ => .inl rfl, ?_⟩, rfl⟩
      · exact fun h => absurd rfl h
      · exact fun h => absurd (h.symm.trans hsome) (by decide)
    · rw [if_neg hquit]
      obtain ⟨hstep, hkeep⟩ := next_steps (n + 1) s
      rcases hq : next (n + 1) s with ⟨c | _ | _ | e, s'⟩
      · rw [hq] at hstep hkeep
        obtain ⟨hrun, hgot, hkeep'⟩ := ih true s'
        have hpast : Coming.Past [c] (view s) (view s') := ⟨[.unit c], rfl, hstep⟩
        refine ⟨Run.append hpast hrun, ⟨?_, ?_, ?_, ?_⟩, hkeep'.trans hkeep⟩
        · exact Nat.succ_le_succ hgot.length_le
        · exact fun h => Nat.succ_lt_succ (hgot.short h)
        · exact fun _ => hgot.waits rfl
        · exact fun _ _ _ => List.cons_ne_nil _ _
      · rw [hq] at hstep hkeep
        have hx : view s = .delay :: view s' := hstep
        cases some? with
        | true =>
          refine ⟨⟨⟨[.delay], rfl, hx⟩, by simp⟩, ⟨Nat.zero_le _, ?_, fun _ => .inl rfl, ?_⟩, hkeep⟩
          · exact fun h => absurd rfl h
          · exact fun h => absurd h (by decide)
        | false =>
          refine ⟨⟨⟨[], rfl, hx⟩, by simp⟩, ⟨Nat.zero_le _, ?_, ?_, ?_⟩, hkeep⟩
          · exact fun _ => Nat.succ_pos n
          · exact fun h => absurd h (by decide)
          · exact fun _ _ h => absurd h (by simp)
      · rw [hq] at hstep hkeep
        obtain ⟨hx, hy⟩ := hstep
        cases some? with
        | true =>
          refine ⟨⟨⟨[], rfl, hx.trans hy.symm⟩, by simp⟩,
            ⟨Nat.zero_le _, ?_, fun _ => .inl rfl, ?_⟩, hkeep⟩
          · exact fun h => absurd rfl h
          · exact fun h => absurd h (by decide)
        | false =>
          refine ⟨⟨⟨[], rfl, hx⟩, fun _ => hy⟩, ⟨Nat.zero_le _, ?_, ?_, ?_⟩, hkeep⟩
          · exact fun _ => Nat.succ_pos n
          · exact fun h => absurd h (by decide)
          · exact fun _ _ h => absurd h (by simp)
      · rw [hq] at hstep hkeep
        have hx : view s = .failure e :: view s' := hstep
        refine ⟨⟨⟨[], rfl, hx⟩, by simp⟩, ⟨Nat.zero_le _, ?_, ?_, ?_⟩, hkeep⟩
        · exact fun _ => Nat.succ_pos n
        · exact fun _ => .inr ⟨e, rfl⟩
        · exact fun _ _ h => absurd h (by simp)

/-- A read brings the partial line first, as far as it goes. -/
theorem read_run {n : Nat} (hn : 0 < n) (s : Lines × σ) :
    Run (read n s).1.1 (read n s).1.2 (coming s) (coming (read n s).2) ∧
      (read n s).2.1.partialLine <:+ s.1.partialLine ∧ Fits n (read n s).1 := by
  obtain ⟨l, s⟩ := s
  simp only [read]
  generalize hl : ({ l with partialLine := l.partialLine.drop n } : Lines) = l'
  have hview : view (l', s) = view (l, s) := by
    rw [← hl]
    rfl
  have hpart : l'.partialLine = l.partialLine.drop n := by rw [← hl]
  have hfront : Coming.Off (l.partialLine.take n) (coming (l, s)) (coming (l', s)) := by
    unfold Coming.Off
    simp only [coming, hview, hpart]
    rw [← List.append_assoc, ← Coming.ofUnits_append, List.take_append_drop]
  have hlen : (l.partialLine.take n).length = min n l.partialLine.length := List.length_take
  generalize hm : n - (l.partialLine.take n).length = m
  generalize hb : (!(l.partialLine.take n).isEmpty) = some?
  obtain ⟨hrun, hgot, hkeep⟩ := gather_run m some? (l', s)
  have hzero : m = 0 → gather m some? (l', s) = (([], .served), l', s) := by
    rintro rfl
    rfl
  generalize gather m some? (l', s) = q at hrun hgot hkeep hzero
  -- either nothing more is asked for, or the partial line is used up
  have hwhole : Run q.1.1 q.1.2 (coming (l', s)) (coming q.2) := by
    rcases Nat.lt_or_ge l.partialLine.length n with hlt | hge
    · have hnil : l'.partialLine = [] := by
        rw [hpart]
        exact List.drop_eq_nil_of_le (Nat.le_of_lt hlt)
      simpa only [coming, hkeep, hnil, Coming.ofUnits_nil, List.nil_append] using hrun
    · rw [hzero (by omega)]
      exact ⟨⟨[], rfl, rfl⟩, by simp⟩
  have hsuffix : q.2.1.partialLine <:+ l.partialLine := by
    rw [hkeep, hpart]
    exact List.drop_suffix n l.partialLine
  refine ⟨Run.append hfront.past hwhole, hsuffix, ⟨?_, ?_, ?_⟩⟩
  · intro hserved h
    obtain ⟨hnone, hnone'⟩ := List.append_eq_nil_iff.1 h
    have hpos : 0 < m := by
      rw [← hm, hnone]
      exact hn
    exact hgot.some_of_served (by simp [← hb, hnone]) hpos hserved hnone'
  · have hle := hgot.length_le
    simp only [List.length_append]
    omega
  · intro hstop
    have hlt := hgot.short hstop
    simp only [List.length_append]
    omega

/-- Any number of characters, in pieces. -/
theorem collect_run {piece : Nat} (hp : 0 < piece) (n : Nat) (s : Lines × σ) :
    let r := collect piece read n s
    (Run r.1.1 r.1.2 (coming s) (coming r.2) ∧ r.2.1.partialLine <:+ s.1.partialLine) ∧
      Fulfils n r.1 :=
  collect_spec piece read
    (Q := fun us h s s' => Run us h (coming s) (coming s') ∧ s'.1.partialLine <:+ s.1.partialLine)
    (fun _ => ⟨⟨⟨[], rfl, rfl⟩, by simp⟩, List.suffix_refl _⟩)
    (fun hu hv => ⟨Run.append hu.1.1 hv.1, hv.2.trans hu.2⟩) hp
    (fun _ s hn => ⟨⟨(read_run hn s).1, (read_run hn s).2.1⟩, (read_run hn s).2.2⟩) n s

/-- What the characters up to the end of the line, and the reason for it, take. -/
def Ends (cs : List Char) : Stop → Coming Char → Coming Char → Prop
  | .newline, xs, ys => Coming.Past cs xs (.unit '\n' :: ys)
  | .wouldBlock, xs, ys => Coming.Past cs xs ys
  | .ended, xs, ys => Coming.Past cs xs [] ∧ ys = []
  | .failed e, xs, ys => Coming.Past cs xs (.failure e :: ys)

theorem Ends.append {us vs : List Char} {stop : Stop} {xs ys zs : Coming Char}
    (hu : Coming.Past us xs ys) (hv : Ends vs stop ys zs) : Ends (us ++ vs) stop xs zs := by
  cases stop with
  | newline | wouldBlock | failed => exact hu.append hv
  | ended => exact ⟨hu.append hv.1, hv.2⟩

/-- The characters before the end of a line are taken off the view. A reader who waits does not stop
before the end of the line if it has the patience for all that is to come. -/
theorem untilNewline_ends (blocking : Bool) (fuel : Nat) (s : Lines × σ) :
    let r := untilNewline blocking fuel s
    Ends r.1.1 r.1.2 (view s) (view r.2) ∧ '\n' ∉ r.1.1 ∧ r.2.1.partialLine = s.1.partialLine ∧
      ((view s).length < fuel → r.1.2 = .wouldBlock → blocking = false) := by
  induction fuel generalizing s with
  | zero => exact ⟨⟨[], rfl, rfl⟩, by simp [untilNewline], rfl, fun h => absurd h (Nat.not_lt_zero _)⟩
  | succ fuel ih =>
    obtain ⟨hstep, hkeep⟩ := next_steps 1 s
    simp only [untilNewline]
    rcases hq : next 1 s with ⟨c | _ | _ | e, s'⟩
    · rw [hq] at hstep hkeep
      have hx : view s = .unit c :: view s' := hstep
      by_cases hc : c = '\n'
      · simp only [hc, if_true]
        refine ⟨⟨[], rfl, ?_⟩, by simp, hkeep, fun _ h => absurd h (by simp)⟩
        rw [hx, hc]
        rfl
      · simp only [hc, if_false]
        obtain ⟨hends, hfree, hkeep', hpat⟩ := ih s'
        have hpast : Coming.Past [c] (view s) (view s') := ⟨[.unit c], rfl, hx⟩
        refine ⟨Ends.append hpast hends, ?_, hkeep'.trans hkeep, ?_⟩
        · simp only [List.mem_cons, not_or]
          exact ⟨fun h => hc h.symm, hfree⟩
        · intro hlt
          apply hpat
          rw [hx, List.length_cons] at hlt
          omega
    · rw [hq] at hstep hkeep
      have hx : view s = .delay :: view s' := hstep
      have hpast : Coming.Past [] (view s) (view s') := ⟨[.delay], rfl, hx⟩
      cases blocking with
      | false => exact ⟨hpast, by simp, hkeep, fun _ _ => rfl⟩
      | true =>
        simp only [if_true]
        obtain ⟨hends, hfree, hkeep', hpat⟩ := ih s'
        refine ⟨Ends.append hpast hends, hfree, hkeep'.trans hkeep, ?_⟩
        intro hlt
        apply hpat
        rw [hx, List.length_cons] at hlt
        omega
    · rw [hq] at hstep hkeep
      obtain ⟨hx, hy⟩ := hstep
      exact ⟨⟨⟨[], rfl, hx⟩, hy⟩, by simp, hkeep, fun _ h => absurd h (by simp)⟩
    · rw [hq] at hstep hkeep
      exact ⟨⟨[], rfl, hstep⟩, by simp, hkeep, fun _ h => absurd h (by simp)⟩

/-- More than the patience for all that is to come makes no difference. -/
theorem untilNewline_add (blocking : Bool) {fuel : Nat} {s : Lines × σ} (h : (view s).length < fuel)
    (k : Nat) : untilNewline blocking (fuel + k) s = untilNewline blocking fuel s := by
  induction fuel generalizing s with
  | zero => exact absurd h (Nat.not_lt_zero _)
  | succ fuel ih =>
    have hstep := (next_steps 1 s).1
    rw [Nat.add_right_comm]
    simp only [untilNewline]
    rcases hq : next 1 s with ⟨c | _ | _ | e, s'⟩
    · rw [hq] at hstep
      have hx : view s = .unit c :: view s' := hstep
      have hless : (view s').length < fuel := by
        rw [hx, List.length_cons] at h
        exact Nat.lt_of_succ_lt_succ h
      dsimp only
      rw [ih hless]
    · rw [hq] at hstep
      have hx : view s = .delay :: view s' := hstep
      have hless : (view s').length < fuel := by
        rw [hx, List.length_cons] at h
        exact Nat.lt_of_succ_lt_succ h
      dsimp only
      rw [ih hless]
    · rfl
    · rfl

theorem length_view_le (s : Lines × σ) : (view s).length ≤ budget s := by
  have hs := CharStream.length_coming_le s.2
  have hv := Endings.length_coming_le ⟨s.1.mode, false⟩ (raw s)
  have hraw : (raw s).length ≤ s.1.ahead.length + (CharStream.coming s.2).length := by
    simp only [raw, List.length_append, Coming.length_ofUnits]
    split
    · simp
    · exact Nat.le_refl _
  simp only [Endings.weight, Bool.false_eq_true, if_false] at hv
  simp only [view, budget]
  omega

/-- What the characters up to the end of the line, and the reason for it, come to. -/
def conclude {τ : Type} : (List Char × Stop) × Lines × τ → LineRead × Lines × τ
  | ((cs, stop), l, s) =>
    match stop with
    | .newline => (.line (l.partialLine ++ cs), { l with partialLine := [] }, s)
    | .ended =>
      if (l.partialLine ++ cs).isEmpty then (.ended, l, s)
      else (.line (l.partialLine ++ cs), { l with partialLine := [] }, s)
    | .wouldBlock => (.blocked, { l with partialLine := l.partialLine ++ cs }, s)
    | .failed e => (.failed e, { l with partialLine := l.partialLine ++ cs }, s)

omit [CharStream σ] in
theorem readLine_eq (blocking : Bool) (s : Lines × σ) :
    readLine blocking s = conclude (untilNewline blocking (budget s + 2) s) := rfl

/-- Why the reading of a line stops. -/
def lineStop (blocking : Bool) (s : Lines × σ) : Stop :=
  (untilNewline blocking (budget s + 2) s).1.2

/-- What reading a line answers and takes, by the reason why it stops. What there is of a line that
is not complete stays to come. -/
def Delivers (r : LineRead) : Stop → Coming Char → Coming Char → Prop
  | .newline, xs, ys => ∃ text, r = .line text ∧ Coming.Past text xs (.unit '\n' :: ys)
  | .ended, xs, ys =>
    ys = [] ∧ ((∃ text, r = .line text ∧ text ≠ [] ∧ Coming.Past text xs []) ∨
      (r = .ended ∧ Coming.Past [] xs []))
  | .wouldBlock, xs, ys => r = .blocked ∧ xs.patient = ys.patient
  | .failed e, xs, ys => r = .failed e ∧ ∃ as bs, xs.patient = Coming.ofUnits as ++ .failure e :: bs ∧
      ys.patient = Coming.ofUnits as ++ bs

theorem readLine_delivers (blocking : Bool) (s : Lines × σ) :
    Delivers (readLine blocking s).1 (lineStop blocking s) (coming s) (coming (readLine blocking s).2) ∧
      (lineStop blocking s = .wouldBlock → blocking = false) := by
  obtain ⟨hends, hfree, hkeep, hpat⟩ := untilNewline_ends blocking (budget s + 2) s
  have hlen := length_view_le s
  refine ⟨?_, hpat (by omega)⟩
  simp only [readLine, lineStop]
  rcases hq : untilNewline blocking (budget s + 2) s with ⟨⟨cs, stop⟩, l, s'⟩
  rw [hq] at hends hfree hkeep
  dsimp only at hends hfree hkeep ⊢
  have hfront : Coming.Past s.1.partialLine (coming s) (view s) :=
    ⟨Coming.ofUnits s.1.partialLine, Coming.patient_ofUnits _, rfl⟩
  have hview : ∀ text, view ({ l with partialLine := text }, s') = view (l, s') := fun _ => rfl
  cases stop with
  | newline =>
    refine ⟨l.partialLine ++ cs, rfl, ?_⟩
    have hy : coming ({ l with partialLine := [] }, s') = view (l, s') := by simp [coming, hview]
    rw [hkeep, hy]
    exact hfront.append hends
  | ended =>
    obtain ⟨hpast, hnil⟩ := hends
    have hall := hfront.append hpast
    rw [← hkeep] at hall
    by_cases hline : l.partialLine ++ cs = []
    · rw [hline] at hall ⊢
      obtain ⟨hp, hc⟩ := List.append_eq_nil_iff.1 hline
      exact ⟨by simp [coming, hp, hnil], .inr ⟨rfl, hall⟩⟩
    · have hne : (l.partialLine ++ cs).isEmpty = false := by simpa using hline
      simp only [hne, Bool.false_eq_true, if_false]
      exact ⟨by simp [coming, hview, hnil], .inl ⟨_, rfl, hline, hall⟩⟩
  | wouldBlock =>
    obtain ⟨p, hp, hx⟩ := hends
    refine ⟨rfl, ?_⟩
    simp [coming, hview, hx, hp, hkeep]
  | failed e =>
    obtain ⟨p, hp, hx⟩ := hends
    refine ⟨rfl, s.1.partialLine ++ cs, (view (l, s')).patient, ?_, ?_⟩
    · simp [coming, hx, hp]
    · simp [coming, hview, hkeep]

/-- A line has no newline in it, nor has what waits of one. -/
theorem readLine_free (blocking : Bool) {s : Lines × σ} (h : '\n' ∉ s.1.partialLine) :
    '\n' ∉ (readLine blocking s).2.1.partialLine ∧
      ∀ text, (readLine blocking s).1 = .line text → '\n' ∉ text := by
  obtain ⟨-, hfree, hkeep, -⟩ := untilNewline_ends blocking (budget s + 2) s
  simp only [readLine]
  rcases hq : untilNewline blocking (budget s + 2) s with ⟨⟨cs, stop⟩, l, s'⟩
  rw [hq] at hfree hkeep
  dsimp only at hfree hkeep ⊢
  have hline : '\n' ∉ l.partialLine ++ cs := by
    rw [hkeep]
    exact List.not_mem_append h hfree
  cases stop with
  | newline => exact ⟨by simp, fun text ht => by simpa [← LineRead.line.inj ht] using hline⟩
  | ended =>
    dsimp only
    split
    · exact ⟨by rwa [hkeep], by simp⟩
    · exact ⟨by simp, fun text ht => by simpa [← LineRead.line.inj ht] using hline⟩
  | wouldBlock => exact ⟨hline, by simp⟩
  | failed e => exact ⟨hline, by simp⟩

end Stream

end ScriptChannel.Input.Lines
