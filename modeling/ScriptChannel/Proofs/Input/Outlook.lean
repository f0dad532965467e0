import ScriptChannel.Proofs.Input.Chain

/-!
# Reading what is known to come

When all that is to come is known, and there is nothing to wait for in it, what a reader is answered
follows from it and from what the stage for line endings remembers, whatever the pieces in which the
characters come. The same goes for whether the stage was told of the end: it is told when it looks for
a character and there is none.
-/

namespace ScriptChannel

/-- Units and failures, as a reader gets them who never has to wait. -/
abbrev Prospect (α : Type) := List (Except IoError α)

namespace Prospect
variable {α : Type}

def signal : Except IoError α → Signal α
  | .ok u => .unit u
  | .error e => .failure e

def coming (ts : Prospect α) : Coming α := ts.map signal

@[simp] theorem coming_nil : coming ([] : Prospect α) = [] := rfl

@[simp] theorem coming_ok (u : α) (ts : Prospect α) :
    coming (.ok u :: ts) = .unit u :: coming ts := rfl

@[simp] theorem coming_error (e : IoError) (ts : Prospect α) :
    coming (.error e :: ts) = .failure e :: coming ts := rfl

@[simp] theorem coming_eq_nil {ts : Prospect α} : coming ts = [] ↔ ts = [] := List.map_eq_nil_iff

theorem length_coming (ts : Prospect α) : (coming ts).length = ts.length := List.length_map _

theorem coming_map_ok (us : List α) : coming (us.map .ok) = Coming.ofUnits us :=
  List.map_map

/-- There is nothing to wait for where no delay is to come. -/
theorem exists_coming {xs : Coming α} (h : .delay ∉ xs) : ∃ ts, xs = coming ts := by
  induction xs with
  | nil => exact ⟨[], rfl⟩
  | cons x xs ih =>
    obtain ⟨hx, hxs⟩ := List.ne_and_not_mem_of_not_mem_cons h
    obtain ⟨ts, rfl⟩ := ih hxs
    cases x with
    | unit u => exact ⟨.ok u :: ts, rfl⟩
    | delay => exact absurd rfl hx
    | failure e => exact ⟨.error e :: ts, rfl⟩

end Prospect

namespace Input

namespace Lines

section Known

/-- What follows a carriage return. Where that is a failure the carriage return is gone. -/
def turn (pair lone : Lines → Next × Lines) : Lines × Prospect Char → Next × Lines × Prospect Char
  | (l, []) => ((lone { l with ended := true }).1, (lone { l with ended := true }).2, [])
  | (l, .error e :: ts) => (.failed e, l, ts)
  | (l, .ok c :: ts) =>
    if c = '\n' then ((pair l).1, (pair l).2, ts) else ((lone l).1, (lone l).2, .ok c :: ts)

/-- The next character after translation, out of all that is to come. -/
def pull : Lines × Prospect Char → Next × Lines × Prospect Char
  | (l, []) => (.ended, { l with ended := true }, [])
  | (l, .error e :: ts) => (.failed e, l, ts)
  | (l, .ok c :: ts) =>
    match l.mode, c with
    | .cr, '\r' => (.char '\n', l, ts)
    | .crlf, '\r' => turn (fun l => (.char '\n', l)) (fun l => (.char '\r', l)) (l, ts)
    | .auto, '\n' => (.char '\n', { l with detected := some .lf }, ts)
    | .auto, '\r' =>
      turn (fun l => (.char '\n', { l with detected := some .crlf }))
        (fun l => (.char '\n', { l with detected := some .cr })) (l, ts)
    | _, c => (.char c, l, ts)

/-- Any other character stays as it is. -/
theorem pull_plain {l : Lines} {c : Char} (hcr : l.mode = .cr → c = '\r' → False)
    (hcrlf : l.mode = .crlf → c = '\r' → False) (hlf : l.mode = .auto → c = '\n' → False)
    (hauto : l.mode = .auto → c = '\r' → False) (ts : Prospect Char) :
    pull (l, .ok c :: ts) = (.char c, l, ts) := by
  by_cases hr : c = '\r'
  · subst hr
    cases hm : l.mode <;> simp_all [pull]
  · by_cases hn : c = '\n'
    · subst hn
      cases hm : l.mode <;> simp_all [pull]
    · cases hm : l.mode <;> simp_all [pull]

/-- The next character, those of the partial line first. -/
def pick (x : Lines × Prospect Char) : Next × Lines × Prospect Char :=
  match x.1.partialLine with
  | [] => pull x
  | c :: cs => (.char c, { x.1 with partialLine := cs }, x.2)

/-- The next `n` characters, or those that there are up to the end or a failure. -/
def glean : Nat → Lines × Prospect Char → (List Char × Halt) × Lines × Prospect Char
  | 0, x => (([], .served), x)
  | n + 1, x =>
    match pick x with
    | (.char c, x) => ((c :: (glean n x).1.1, (glean n x).1.2), (glean n x).2)
    | (.failed e, x) => (([], .failed e), x)
    | (_, x) => (([], .ended), x)

theorem length_turn_le (pair lone : Lines → Next × Lines) (x : Lines × Prospect Char) :
    (turn pair lone x).2.2.length ≤ x.2.length := by
  obtain ⟨l, _ | ⟨e | c, ts⟩⟩ := x
  · exact Nat.le_refl _
  · exact Nat.le_succ _
  · simp only [turn]
    split
    · exact Nat.le_succ _
    · exact Nat.le_refl _

/-- A character comes off the front. -/
theorem length_pull_lt {c : Char} {x x' : Lines × Prospect Char} (h : pull x = (.char c, x')) :
    x'.2.length < x.2.length := by
  have hrest : x'.2 = (pull x).2.2 := by rw [h]
  obtain ⟨l, _ | ⟨e | c', ts⟩⟩ := x
  · simp [pull] at h
  · simp [pull] at h
  · have hle : x'.2.length ≤ ts.length := by
      rw [hrest]
      simp only [pull]
      split
      · exact Nat.le_refl _
      · exact length_turn_le _ _ (l, ts)
      · exact Nat.le_refl _
      · exact length_turn_le _ _ (l, ts)
      · exact Nat.le_refl _
    exact Nat.lt_succ_of_le hle

/-- The characters up to the end of the line, and why it ends. -/
def span (x : Lines × Prospect Char) : (List Char × Stop) × Lines × Prospect Char :=
  match _h : pull x with
  | (.char c, x') =>
    if c = '\n' then (([], .newline), x')
    else ((c :: (span x').1.1, (span x').1.2), (span x').2)
  | (.failed e, x') => (([], .failed e), x')
  | (_, x') => (([], .ended), x')
termination_by x.2.length
decreasing_by all_goals exact length_pull_lt _h

/-- There is a next character unless a failure is to come first, or nothing at all. -/
theorem pull_cases (x : Lines × Prospect Char) :
    (∃ c x', pull x = (.char c, x')) ∨ (∃ e x', pull x = (.failed e, x')) ∨
      x.2 = [] ∧ pull x = (.ended, { x.1 with ended := true }, []) := by
  have hturn : ∀ {c c' : Char} {g g' : Lines → Lines} (x : Lines × Prospect Char),
      let r := turn (fun l => (.char c, g l)) (fun l => (.char c', g' l)) x
      (∃ c'' x', r = (.char c'', x')) ∨ ∃ e x', r = (.failed e, x') := by
    rintro c c' g g' ⟨l, _ | ⟨e | d, ts⟩⟩
    · exact .inl ⟨_, _, rfl⟩
    · exact .inr ⟨_, _, rfl⟩
    · simp only [turn]
      split <;> exact .inl ⟨_, _, rfl⟩
  obtain ⟨l, _ | ⟨e | c, ts⟩⟩ := x
  · exact .inr (.inr ⟨rfl, rfl⟩)
  · exact .inr (.inl ⟨_, _, rfl⟩)
  · rw [← or_assoc]
    left
    simp only [pull]
    split
    · exact .inl ⟨_, _, rfl⟩
    · exact hturn (l, ts)
    · exact .inl ⟨_, _, rfl⟩
    · exact hturn (l, ts)
    · exact .inl ⟨_, _, rfl⟩

theorem span_of_char {c : Char} {x x' : Lines × Prospect Char} (h : pull x = (.char c, x')) :
    span x = if c = '\n' then (([], .newline), x')
      else ((c :: (span x').1.1, (span x').1.2), (span x').2) := by
  rw [span]
  split
  · rename_i hp
    obtain ⟨hc, rfl⟩ := Prod.mk.inj (hp.symm.trans h)
    obtain rfl := Next.char.inj hc
    rfl
  · rename_i hp
    exact absurd (hp.symm.trans h) (by simp)
  · rename_i hnone _ hp
    obtain ⟨hc, -⟩ := Prod.mk.inj (hp.symm.trans h)
    exact (hnone c hc).elim

theorem span_of_failed {e : IoError} {x x' : Lines × Prospect Char} (h : pull x = (.failed e, x')) :
    span x = (([], .failed e), x') := by
  rw [span]
  split
  · rename_i hp
    exact absurd (hp.symm.trans h) (by simp)
  · rename_i hp
    obtain ⟨he, rfl⟩ := Prod.mk.inj (hp.symm.trans h)
    obtain rfl := Next.failed.inj he
    rfl
  · rename_i hnone hp
    obtain ⟨he, -⟩ := Prod.mk.inj (hp.symm.trans h)
    exact (hnone e he).elim

theorem span_of_ended {x x' : Lines × Prospect Char} (h : pull x = (.ended, x')) :
    span x = (([], .ended), x') := by
  rw [span]
  split
  · rename_i hp
    exact absurd (hp.symm.trans h) (by simp)
  · rename_i hp
    exact absurd (hp.symm.trans h) (by simp)
  · rename_i hp
    obtain ⟨-, rfl⟩ := Prod.mk.inj (hp.symm.trans h)
    rfl

/-- A line, out of all that is to come. -/
def line (x : Lines × Prospect Char) : LineRead × Lines × Prospect Char := conclude (span x)

theorem glean_append {us : List Char} {x x' : Lines × Prospect Char}
    (h : glean us.length x = ((us, .served), x')) (n : Nat) :
    glean (us.length + n) x = ((us ++ (glean n x').1.1, (glean n x').1.2), (glean n x').2) := by
  induction us generalizing x with
  | nil =>
    obtain rfl : x = x' := (Prod.mk.inj h).2
    simp
  | cons u us ih =>
    rw [List.length_cons, Nat.add_right_comm]
    simp only [List.length_cons, glean] at h ⊢
    rcases hp : pick x with ⟨c | _ | _ | e, x₁⟩
    · rw [hp] at h
      simp only [Prod.mk.injEq, List.cons.injEq] at h
      obtain ⟨⟨⟨rfl, hus⟩, hserved⟩, hx⟩ := h
      have hrest := ih (Prod.ext (Prod.ext hus hserved) hx)
      simp only [hrest, List.cons_append]
    all_goals
      rw [hp] at h
      simp at h

/-- Asking for more than could be had comes to the same. -/
theorem glean_of_stopped {k : Nat} {x : Lines × Prospect Char} (h : (glean k x).1.2 ≠ .served)
    (n : Nat) : glean (k + n) x = glean k x := by
  induction k generalizing x with
  | zero => exact absurd rfl h
  | succ k ih =>
    rw [Nat.add_right_comm]
    simp only [glean] at h ⊢
    rcases hp : pick x with ⟨c | _ | _ | e, x₁⟩
    · rw [hp] at h
      simp only [ih h]
    all_goals rfl

/-- The partial line comes first. -/
theorem glean_front (n : Nat) (x : Lines × Prospect Char) :
    glean (x.1.partialLine.take n).length x = ((x.1.partialLine.take n, .served),
      { x.1 with partialLine := x.1.partialLine.drop n }, x.2) := by
  obtain ⟨⟨t, detected, ahead, partialLine, ended⟩, ts⟩ := x
  induction partialLine generalizing n with
  | nil => simp [glean]
  | cons c cs ih =>
    cases n with
    | zero => simp [glean]
    | succ n =>
      have hrest := ih n
      dsimp only at hrest ⊢
      rw [List.take_succ_cons, List.length_cons, List.drop_succ_cons, glean, pick]
      dsimp only
      rw [hrest]

end Known

/-- What a turning carriage return does it does regardless of the characters ahead, and of the end. -/
structure Blind (f : Lines → Next × Lines) : Prop where
  ahead (l : Lines) (cs : List Char) :
    f { l with ahead := cs } = ((f l).1, { (f l).2 with ahead := cs })
  ended (l : Lines) (b : Bool) : f { l with ended := b } = ((f l).1, { (f l).2 with ended := b })

section Stream
variable {σ : Type} [CharSource σ] [CharStream σ]

/-- The stage remembers this and has this to come. -/
structure Shows (x : Lines × Prospect Char) (s : Lines × σ) : Prop where
  lines : { s.1 with ahead := [] } = x.1
  raw : raw s = x.2.coming

variable {x : Lines × Prospect Char} {s : Lines × σ}

theorem Shows.mode (h : Shows x s) : s.1.mode = x.1.mode := by
  rw [← h.lines]
  exact (mode_with_ahead s.1 []).symm

theorem Shows.partialLine (h : Shows x s) : x.1.partialLine = s.1.partialLine := by
  rw [← h.lines]

theorem Shows.with_partialLine (h : Shows x s) (cs : List Char) :
    Shows ({ x.1 with partialLine := cs }, x.2) ({ s.1 with partialLine := cs }, s.2) where
  lines := by rw [← h.lines]
  raw := h.raw

/-- The stage is at the end once it was told so and nothing is left. -/
theorem Shows.isEnded (h : Shows x s) :
    s.1.isEnded = (x.1.ended && x.2.isEmpty && x.1.partialLine.isEmpty) := by
  have hended : x.1.ended = s.1.ended := by rw [← h.lines]
  rw [Lines.isEnded, h.partialLine, hended]
  cases he : s.1.ended with
  | false => rfl
  | true =>
    have hraw := h.raw
    rw [Lines.raw, he, if_pos rfl, List.append_nil] at hraw
    have hempty : s.1.ahead = [] ↔ x.2 = [] := by
      rw [← Coming.ofUnits_eq_nil, hraw, Prospect.coming_eq_nil]
    have hsame : s.1.ahead.isEmpty = x.2.isEmpty := Bool.eq_iff_iff.2 (by simpa using hempty)
    rw [hsame]

/-- A character ahead is the first of those to come. -/
theorem Shows.tail (h : Shows x s) (ha : s.1.ahead ≠ []) :
    ∃ c ahead ts, s.1.ahead = c :: ahead ∧ x.2 = .ok c :: ts ∧
      Shows (x.1, ts) ({ s.1 with ahead := ahead }, s.2) := by
  obtain ⟨c, ahead, hahead⟩ := List.exists_cons_of_ne_nil ha
  obtain ⟨hlines, hraw⟩ := h
  rw [Lines.raw, hahead] at hraw
  rcases hx : x.2 with _ | ⟨e | c', ts⟩
  · simp [hx] at hraw
  · simp [hx] at hraw
  · rw [hx, Coming.ofUnits_cons, Prospect.coming_ok, List.cons_append] at hraw
    obtain ⟨hc, hrest⟩ := List.cons.inj hraw
    obtain rfl := Signal.unit.inj hc
    exact ⟨c, ahead, ts, hahead, rfl, hlines, hrest⟩

/-- Why there is none ahead, when asked for, is what is to come. -/
theorem fill_shows (n : Nat) (h : Shows x s) :
    ((fill n s).1 = none ∧ Shows x (fill n s).2 ∧ (fill n s).2.1.ahead ≠ []) ∨
      ((fill n s).1 = some .ended ∧ x.2 = [] ∧ (fill n s).2.1.ahead = [] ∧
        Shows ({ x.1 with ended := true }, []) (fill n s).2) ∨
      ∃ e ts, (fill n s).1 = some (.failed e) ∧ x.2 = .error e :: ts ∧
        Shows (x.1, ts) (fill n s).2 := by
  obtain ⟨hlines, hraw⟩ := h
  obtain ⟨l, s⟩ := s
  obtain ⟨x, ts⟩ := x
  obtain rfl : { l with ahead := [] } = x := hlines
  dsimp only at hraw
  by_cases ha : l.ahead = []
  · by_cases he : l.ended = true
    · have hnil : ts = [] := by simpa [raw, ha, he] using hraw.symm
      obtain ⟨t, detected, ahead, partialLine, ended⟩ := l
      obtain rfl : ahead = [] := ha
      obtain rfl : ended = true := he
      exact .inr (.inl ⟨rfl, hnil, rfl, rfl, hraw.trans (congrArg Prospect.coming hnil)⟩)
    · have htakes := CharStream.fetch_takes (max n 1) s (by omega)
      have hcoming : CharStream.coming s = Prospect.coming ts := by simpa [raw, ha, he] using hraw
      simp only [fill, ha, he, List.isEmpty_nil, Bool.not_true, Bool.false_eq_true, if_false]
      rcases hf : CharSource.fetch (max n 1) s with ⟨us | _ | _ | e, s'⟩
      all_goals rw [hf, hcoming] at htakes
      · obtain ⟨hne, -, hx⟩ := htakes
        obtain ⟨u, us, rfl⟩ := List.exists_cons_of_ne_nil hne
        refine .inl ⟨rfl, ⟨rfl, ?_⟩, List.cons_ne_nil u us⟩
        simp only [raw, Bool.false_eq_true, if_false]
        exact hx.symm
      · -- nothing is to be waited for
        have hdelay : Prospect.coming ts = .delay :: CharStream.coming s' := htakes
        rcases ts with _ | ⟨e | u, ts⟩ <;> simp at hdelay
      · refine .inr (.inl ⟨rfl, Prospect.coming_eq_nil.1 htakes, rfl, rfl, ?_⟩)
        simp [raw]
      · have hfailure : Prospect.coming ts = .failure e :: CharStream.coming s' := htakes
        rcases ts with _ | ⟨e' | u, ts⟩
        · simp at hfailure
        · obtain ⟨he', hrest⟩ := List.cons.inj hfailure
          obtain rfl := Signal.failure.inj he'
          refine .inr (.inr ⟨e', ts, rfl, rfl, by simp [he], ?_⟩)
          simp only [raw, ha, he, Coming.ofUnits_nil, List.nil_append, Bool.false_eq_true, if_false]
          exact hrest.symm
        · simp at hfailure
  · have hfilled : fill n (l, s) = (none, l, s) := by simp [fill, ha]
    rw [hfilled]
    exact .inl ⟨rfl, ⟨rfl, hraw⟩, ha⟩

/-- The stage remembers what a turning carriage return leaves noted. -/
theorem Shows.turned {f : Lines → Next × Lines} (hf : Blind f) (h : Shows x s) :
    (f s.1).1 = (f x.1).1 ∧ Shows ((f x.1).2, x.2) ((f s.1).2, s.2) := by
  have hahead := hf.ahead s.1 s.1.ahead
  have hended := hf.ended s.1 s.1.ended
  have hmodel := hf.ahead s.1 []
  rw [h.lines] at hmodel
  refine ⟨(congrArg Prod.fst hmodel).symm, (congrArg Prod.snd hmodel).symm, ?_⟩
  have hends : (f s.1).2.ended = s.1.ended := congrArg (Lines.ended ·.2) hended
  have heads : (f s.1).2.ahead = s.1.ahead := congrArg (Lines.ahead ·.2) hahead
  have hraw := h.raw
  rw [Lines.raw] at hraw ⊢
  rw [heads, hends]
  exact hraw

/-- What follows a carriage return decides what it is, in the stage as out of all that is to come. -/
theorem afterReturn_shows {pair lone : Lines → Next × Lines} (hpair : Blind pair) (hlone : Blind lone)
    (h : Shows x s) :
    (afterReturn pair lone s).1 = (turn pair lone x).1 ∧
      Shows (turn pair lone x).2 (afterReturn pair lone s).2 := by
  rcases fill_shows 1 h with ⟨hnone, hshows, hahead⟩ | ⟨hended, hnil, hahead, hshows⟩ |
    ⟨e, ts, hfailed, hx, hshows⟩
  · rcases hq : fill 1 s with ⟨why, l, s'⟩
    rw [hq] at hnone hshows hahead
    obtain rfl := hnone
    obtain ⟨c, ahead, ts, hfront, hx, htail⟩ := hshows.tail hahead
    obtain ⟨x, xs⟩ := x
    obtain rfl := hx
    dsimp only at hfront
    simp only [afterReturn, hq, turn, hfront, List.head?_cons, List.tail_cons, Option.some.injEq]
    by_cases hc : c = '\n'
    · simp only [hc, if_true]
      exact htail.turned hpair
    · simp only [hc, if_false]
      exact hshows.turned hlone
  · rcases hq : fill 1 s with ⟨why, l, s'⟩
    rw [hq] at hended hshows hahead
    obtain rfl := hended
    obtain ⟨x, xs⟩ := x
    obtain rfl := hnil
    dsimp only at hahead
    simp only [afterReturn, hq, turn, hahead, List.head?_nil, reduceCtorEq, if_false]
    exact hshows.turned hlone
  · rcases hq : fill 1 s with ⟨why, l, s'⟩
    rw [hq] at hfailed hshows
    obtain rfl := hfailed
    obtain ⟨x, xs⟩ := x
    obtain rfl := hx
    simp only [afterReturn, hq, turn]
    exact ⟨trivial, hshows⟩

/-- The next character is the one there is, and the stage goes on remembering. -/
theorem next_shows (n : Nat) (h : Shows x s) :
    (next n s).1 = (pull x).1 ∧ Shows (pull x).2 (next n s).2 := by
  rcases fill_shows n h with ⟨hnone, hshows, hahead⟩ | ⟨hended, hnil, hahead, hshows⟩ |
    ⟨e, ts, hfailed, hx, hshows⟩
  · rcases hq : fill n s with ⟨why, l, s'⟩
    rw [hq] at hnone hshows hahead
    obtain rfl := hnone
    obtain ⟨c, ahead, ts, hfront, hx, htail⟩ := hshows.tail hahead
    have hmode := hshows.mode
    obtain ⟨x, xs⟩ := x
    obtain rfl := hx
    dsimp only at hfront hmode
    simp only [next, hq, hfront, hmode, mode_with_ahead]
    split
    · simp only [pull, ‹x.mode = _›]
      exact ⟨trivial, htail⟩
    · simp only [pull, ‹x.mode = _›]
      exact afterReturn_shows ⟨fun _ _ => rfl, fun _ _ => rfl⟩ ⟨fun _ _ => rfl, fun _ _ => rfl⟩ htail
    · simp only [pull, ‹x.mode = _›]
      exact (htail.turned (f := fun l => (.char '\n', { l with detected := some .lf }))
        ⟨fun _ _ => rfl, fun _ _ => rfl⟩).imp_left fun _ => trivial
    · simp only [pull, ‹x.mode = _›]
      exact afterReturn_shows ⟨fun _ _ => rfl, fun _ _ => rfl⟩ ⟨fun _ _ => rfl, fun _ _ => rfl⟩ htail
    · rename_i c hcr hcrlf hlf hauto
      rw [pull_plain hcr hcrlf hlf hauto]
      exact ⟨rfl, htail⟩
  · rcases hq : fill n s with ⟨why, l, s'⟩
    rw [hq] at hended hshows
    obtain rfl := hended
    obtain ⟨x, xs⟩ := x
    obtain rfl := hnil
    simp only [next, hq, pull]
    exact ⟨trivial, hshows⟩
  · rcases hq : fill n s with ⟨why, l, s'⟩
    rw [hq] at hfailed hshows
    obtain rfl := hfailed
    obtain ⟨x, xs⟩ := x
    obtain rfl := hx
    simp only [next, hq, pull]
    exact ⟨trivial, hshows⟩

/-- A run that brought `us` and then stopped went from `x` to `x'`, out of all that is to come. -/
def Gleans (x : Lines × Prospect Char) (us : List Char) (halt : Halt) (x' : Lines × Prospect Char) :
    Prop :=
  glean (us.length + if halt = .served then 0 else 1) x = ((us, halt), x')

theorem Gleans.append {us vs : List Char} {halt : Halt} {x x' x'' : Lines × Prospect Char}
    (hu : Gleans x us .served x') (hv : Gleans x' vs halt x'') : Gleans x (us ++ vs) halt x'' := by
  rw [Gleans, List.length_append, Nat.add_assoc, glean_append hu]
  rw [Gleans] at hv
  rw [hv]

/-- A run for `n` characters that has what was wanted or was stopped is the only one. -/
theorem Gleans.eq_glean {n : Nat} {r : List Char × Halt} {x x' : Lines × Prospect Char}
    (h : Gleans x r.1 r.2 x') (hful : Fulfils n r) : glean n x = (r, x') := by
  obtain ⟨us, halt⟩ := r
  by_cases hs : halt = .served
  · obtain rfl : us.length = n := hful.all_of_served hs
    rwa [Gleans, if_pos hs] at h
  · have hlt : us.length < n := hful.short hs
    obtain ⟨k, rfl⟩ := Nat.exists_eq_add_of_lt hlt
    rw [Gleans, if_neg hs] at h
    rw [Nat.add_right_comm, glean_of_stopped (by rwa [h]), h]

theorem gather_gleans (n : Nat) (some? : Bool) (hblank : s.1.partialLine = []) (h : Shows x s) :
    ∃ x', Gleans x (gather n some? s).1.1 (gather n some? s).1.2 x' ∧
      Shows x' (gather n some? s).2 := by
  induction n generalizing some? x s with
  | zero => exact ⟨x, rfl, h⟩
  | succ n ih =>
    simp only [gather]
    split
    · exact ⟨x, rfl, h⟩
    rename_i hquit
    obtain ⟨hanswer, hshows⟩ := next_shows (n + 1) h
    have hkeep := (next_steps (n + 1) s).2.trans hblank
    have hpick : pick x = pull x := by rw [pick, h.partialLine, hblank]
    rcases hq : next (n + 1) s with ⟨r, s'⟩
    rw [hq] at hanswer hshows hkeep
    rcases pull_cases x with ⟨c, x', hp⟩ | ⟨e, x', hp⟩ | ⟨hnil, hp⟩
    · rw [hp] at hanswer hshows
      obtain rfl : r = .char c := hanswer
      obtain ⟨x'', hrun, hthen⟩ := ih true hkeep hshows
      have hfirst : Gleans x [c] .served x' := by
        simp [Gleans, glean, hpick, hp]
      exact ⟨x'', hfirst.append hrun, hthen⟩
    · rw [hp] at hanswer hshows
      obtain rfl : r = .failed e := hanswer
      exact ⟨x', by simp [Gleans, glean, hpick, hp], hshows⟩
    · rw [hp] at hanswer hshows
      obtain rfl : r = .ended := hanswer
      -- with a character ahead there is one to come
      have hfirst : some? = false := by
        by_cases ha : s.1.ahead = []
        · simpa [ha] using hquit
        · obtain ⟨c, ahead, ts, -, hx, -⟩ := h.tail ha
          simp [hnil] at hx
      simp only [hfirst, Bool.false_eq_true, if_false]
      exact ⟨_, by simp [Gleans, glean, hpick, hp], hshows⟩

theorem read_gleans (n : Nat) (h : Shows x s) :
    ∃ x', Gleans x (read n s).1.1 (read n s).1.2 x' ∧ Shows x' (read n s).2 := by
  have hfront : Gleans x (s.1.partialLine.take n) .served
      ({ x.1 with partialLine := s.1.partialLine.drop n }, x.2) := by
    rw [← h.partialLine]
    exact glean_front n x
  have hrest := h.with_partialLine (s.1.partialLine.drop n)
  simp only [read]
  rcases Nat.lt_or_ge s.1.partialLine.length n with hlt | hge
  · have hblank : s.1.partialLine.drop n = [] := List.drop_eq_nil_of_le (Nat.le_of_lt hlt)
    obtain ⟨x', hrun, hthen⟩ := gather_gleans (n - (s.1.partialLine.take n).length)
      (!(s.1.partialLine.take n).isEmpty) hblank hrest
    exact ⟨x', hfront.append hrun, hthen⟩
  · -- nothing more is asked for
    have hall : n - (s.1.partialLine.take n).length = 0 := by
      rw [List.length_take]
      omega
    rw [hall]
    simp only [gather, List.append_nil]
    exact ⟨_, hfront, hrest⟩

/-- Any number of characters, in pieces, are those that there are. -/
theorem collect_shows {piece : Nat} (hpiece : 0 < piece) (n : Nat) (h : Shows x s) :
    (collect piece read n s).1 = (glean n x).1 ∧ Shows (glean n x).2 (collect piece read n s).2 := by
  obtain ⟨hrun, hful⟩ := collect_spec piece read
    (Q := fun us halt s s' => ∀ x, Shows x s → ∃ x', Gleans x us halt x' ∧ Shows x' s')
    (fun s x h => ⟨x, rfl, h⟩)
    (fun hu hv x h => by
      obtain ⟨x', hus, h'⟩ := hu x h
      obtain ⟨x'', hvs, h''⟩ := hv x' h'
      exact ⟨x'', hus.append hvs, h''⟩)
    hpiece (fun n s hn => ⟨fun _ h => read_gleans n h, (read_run hn s).2.2⟩) n s
  obtain ⟨x', hgleans, hshows⟩ := hrun x h
  rw [hgleans.eq_glean hful]
  exact ⟨rfl, hshows⟩

theorem untilNewline_shows (blocking : Bool) {fuel : Nat} (hfuel : x.2.length < fuel)
    (h : Shows x s) :
    (untilNewline blocking fuel s).1 = (span x).1 ∧
      Shows (span x).2 (untilNewline blocking fuel s).2 := by
  induction fuel generalizing x s with
  | zero => exact absurd hfuel (Nat.not_lt_zero _)
  | succ fuel ih =>
    obtain ⟨hanswer, hshows⟩ := next_shows 1 h
    rcases hq : next 1 s with ⟨r, s'⟩
    rw [hq] at hanswer hshows
    rcases pull_cases x with ⟨c, x', hp⟩ | ⟨e, x', hp⟩ | ⟨hnil, hp⟩
    · rw [hp] at hanswer hshows
      obtain rfl : r = .char c := hanswer
      have hlt := length_pull_lt hp
      rw [span_of_char hp]
      simp only [untilNewline, hq]
      by_cases hc : c = '\n'
      · simp only [hc, if_true]
        exact ⟨trivial, hshows⟩
      · obtain ⟨hrun, hthen⟩ := ih (Nat.lt_of_lt_of_le hlt (Nat.lt_succ_iff.1 hfuel)) hshows
        simp only [hc, if_false, hrun]
        exact ⟨trivial, hthen⟩
    · rw [hp] at hanswer hshows
      obtain rfl : r = .failed e := hanswer
      rw [span_of_failed hp]
      simp only [untilNewline, hq]
      exact ⟨trivial, hshows⟩
    · rw [hp] at hanswer hshows
      obtain rfl : r = .ended := hanswer
      rw [span_of_ended hp]
      simp only [untilNewline, hq]
      exact ⟨trivial, hshows⟩

/-- The budget covers all that is to come. -/
theorem Shows.length_le (h : Shows x s) : x.2.length ≤ budget s := by
  have hlen : (Lines.raw s).length = x.2.length := by rw [h.raw, Prospect.length_coming]
  have hsource := CharStream.length_coming_le s.2
  simp only [Lines.raw, List.length_append, Coming.length_ofUnits] at hlen
  unfold budget
  split at hlen
  · simp only [List.length_nil] at hlen
    omega
  · omega

theorem Shows.conclude (h : Shows x s) (r : List Char × Stop) :
    (Lines.conclude (r, s)).1 = (Lines.conclude (r, x)).1 ∧
      Shows (Lines.conclude (r, x)).2 (Lines.conclude (r, s)).2 := by
  obtain ⟨cs, stop⟩ := r
  have hkept := h.with_partialLine (s.1.partialLine ++ cs)
  have hdone := h.with_partialLine []
  simp only [Lines.conclude, h.partialLine]
  cases stop with
  | newline => exact ⟨rfl, hdone⟩
  | wouldBlock => exact ⟨rfl, hkept⟩
  | failed e => exact ⟨rfl, hkept⟩
  | ended =>
    dsimp only
    split
    · exact ⟨rfl, h⟩
    · exact ⟨rfl, hdone⟩

/-- A line is the one there is. -/
theorem readLine_shows (blocking : Bool) (h : Shows x s) :
    (readLine blocking s).1 = (line x).1 ∧ Shows (line x).2 (readLine blocking s).2 := by
  obtain ⟨hrun, hshows⟩ := untilNewline_shows blocking
    (Nat.lt_of_le_of_lt h.length_le (Nat.lt_add_of_pos_right Nat.two_pos)) h
  have hwhole : untilNewline blocking (budget s + 2) s =
      ((span x).1, (untilNewline blocking (budget s + 2) s).2) := Prod.ext hrun rfl
  rw [readLine_eq, line, hwhole]
  exact hshows.conclude (span x).1

end Stream

end Lines

namespace Chain
variable {δ : Type} [RawReader δ] [RawStream δ] {c : Chain} {d : δ} {x : Lines × Prospect Char}
  (h : Lines.Shows x (c.whole d))
include h

/-- What a read of an input side brings, out of all that is to come. -/
theorem readText_shows (n : Nat) :
    (c.readText n d).1 = (Lines.glean n x).1 ∧
      Lines.Shows (Lines.glean n x).2 ((c.readText n d).2.1.whole (c.readText n d).2.2) :=
  Lines.collect_shows (by decide) n h

theorem readLine_shows (blocking : Bool) :
    (c.readLine blocking d).1 = (Lines.line x).1 ∧
      Lines.Shows (Lines.line x).2 ((c.readLine blocking d).2.1.whole (c.readLine blocking d).2.2) :=
  Lines.readLine_shows blocking h

end Chain

end Input

end ScriptChannel
