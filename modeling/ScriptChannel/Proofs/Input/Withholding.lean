import ScriptChannel.Proofs.Input.Translating
import ScriptChannel.Proofs.Input.Tuning

/-!
# At most one character withheld

Characters are asked for in batches, as many at a time as are still wanted. A batch is used up with the
request that it was fetched for: each of its characters makes one that is handed out, but for the newline
of a pair, which makes none. So between calls nothing of a batch is left. What may be left is the one
character that was looked at behind a carriage return, and it is no newline, or a carriage return that
waits for the character behind it. A translation that does not look ahead leaves nothing.
-/

namespace ScriptChannel.Input.Lines

/-- A source that gives no more characters than it is asked for. -/
def Measured (σ : Type) [CharSource σ] : Prop :=
  ∀ (n : Nat) (s : σ), 0 < n → (CharSource.fetch n s).1.units.length ≤ n

/-- The translations for which a carriage return is not decided by itself. -/
def LooksAhead (t : Translation) : Prop := t = .auto ∨ t = .crlf

/-- One character at most, no newline, and that only if `p` allows for it. -/
def Single (p : Prop) (cs : List Char) : Prop := cs = [] ∨ p ∧ ∃ c, c ≠ '\n' ∧ cs = [c]

/-- Any stage with an account of what is to come from it is such a source. -/
theorem measured_of_stream {σ : Type} [CharSource σ] [CharStream σ] : Measured σ := by
  intro n s hn
  have ht := CharStream.fetch_takes n s hn
  cases hf : (CharSource.fetch n s).1 with
  | got us =>
    rw [hf] at ht
    exact ht.2.1
  | wouldBlock | ended | failed => exact Nat.zero_le n

theorem single_nil (p : Prop) : Single p [] := .inl rfl

theorem newline_of_single {p : Prop} {cs : List Char} (h : Single p cs) : '\n' ∉ cs := by
  rcases h with rfl | ⟨-, c, hc, rfl⟩
  · exact List.not_mem_nil
  · simpa using Ne.symm hc

theorem length_of_single {p : Prop} {cs : List Char} (h : Single p cs) : cs.length ≤ 1 := by
  rcases h with rfl | ⟨-, c, -, rfl⟩
  · exact Nat.zero_le 1
  · exact Nat.le_refl 1

/-- With no room for a batch there is none. -/
theorem single_of_zero {p : Prop} {cs : List Char} (h : cs.length ≤ 0 ∨ Single p cs) : Single p cs :=
  h.elim (fun hnone => .inl (List.length_eq_zero_iff.1 (Nat.le_zero.1 hnone))) id

/-- What is left behind the first of a few characters is less, be they of a batch or withheld. -/
theorem length_tail_of_single {p : Prop} {n : Nat} {c : Char} {cs : List Char}
    (h : (c :: cs).length ≤ n + 1 ∨ Single p (c :: cs)) : cs.length ≤ n := by
  rcases h with h | h | ⟨-, c', -, h⟩
  · exact Nat.le_of_succ_le_succ h
  · cases h
  · cases h
    exact Nat.zero_le n

/-- What was looked at behind a carriage return, be it in a batch or by itself: without its first character
it is less, and with it no more, or that one alone. -/
theorem looked_keeps {p : Prop} (hp : p) {n : Nat} {c : Char} {cs : List Char}
    (h : (c :: cs).length ≤ n ∨ (c :: cs).length ≤ 1) :
    cs.length ≤ n ∧ (c ≠ '\n' → (c :: cs).length ≤ n ∨ Single p (c :: cs)) := by
  rcases h with h | h
  · exact ⟨Nat.le_of_succ_le h, fun _ => .inl h⟩
  · obtain rfl : cs = [] := List.length_eq_zero_iff.1 (Nat.le_zero.1 (Nat.le_of_succ_le_succ h))
    exact ⟨Nat.zero_le n, fun hc => .inr (.inr ⟨hp, c, hc, rfl⟩)⟩

/-- A mode looks ahead only under a translation that does. -/
theorem looksAhead_of_mode {l : Lines} (h : LooksAhead l.mode) : LooksAhead l.translation := by
  unfold mode at h
  split at h
  · exact absurd h (by simp [LooksAhead, Translation.native])
  · exact .inl ‹_›
  · exact h

section Source
variable {σ : Type} [CharSource σ] {p : Prop}

/-- After the question for a character ahead there is news, and none ahead, or there are those that were
ahead before, or a batch of no more than were asked for. -/
theorem fill_measured (h : Measured σ) (n : Nat) (l : Lines) (s : σ) :
    let r := fill n (l, s)
    r.2.1.partialLine = l.partialLine ∧
      (r.1 ≠ none ∧ r.2.1.ahead = [] ∨
        r.1 = none ∧ r.2.1.ahead ≠ [] ∧
          (r.2.1.ahead = l.ahead ∨ l.ahead = [] ∧ r.2.1.ahead.length ≤ max n 1)) := by
  simp only [fill]
  split
  · rename_i hsome
    exact ⟨rfl, .inr ⟨rfl, by simpa using hsome, .inl rfl⟩⟩
  have hnone : l.ahead = [] := by simpa using ‹¬ (!l.ahead.isEmpty) = true›
  split
  · exact ⟨rfl, .inl ⟨by simp, hnone⟩⟩
  have hle := h (max n 1) s (by omega)
  rcases hf : CharSource.fetch (max n 1) s with ⟨(_ | ⟨c, cs⟩) | _ | _ | e, s'⟩
  · exact ⟨rfl, .inl ⟨by simp, hnone⟩⟩
  · rw [hf] at hle
    exact ⟨rfl, .inr ⟨rfl, List.cons_ne_nil c cs, .inr ⟨hnone, hle⟩⟩⟩
  all_goals exact ⟨rfl, .inl ⟨by simp, hnone⟩⟩

/-- What one step leaves of a batch with `n` characters behind the first: with a character, no more than
these, or the one that was looked at; without one, nothing but a carriage return that waits. -/
structure Leaves (p : Prop) (n : Nat) (line : List Char) (r : Next × Lines × σ) : Prop where
  partialLine : r.2.1.partialLine = line
  ahead : r.2.1.ahead.length ≤ n ∨ Single p r.2.1.ahead
  news : (∀ c, r.1 ≠ .char c) → Single p r.2.1.ahead

/-- It hands out a character, and changes nothing but what `auto` has settled on. -/
def HandsOut (f : Lines → Next × Lines) : Prop :=
  ∀ l, ∃ c detected, f l = (.char c, { l with detected })

/-- Behind a carriage return a newline is taken, and what else is looked at stays ahead. -/
theorem afterReturn_leaves (h : Measured σ) (hp : p) {pair lone : Lines → Next × Lines}
    (hpair : HandsOut pair) (hlone : HandsOut lone) {n : Nat} {l : Lines} (hl : l.ahead.length ≤ n)
    (s : σ) : Leaves p n l.partialLine (afterReturn pair lone (l, s)) := by
  obtain ⟨hline, hfill⟩ := fill_measured h 1 l s
  simp only [afterReturn]
  rcases hq : fill 1 (l, s) with ⟨why, l', s'⟩
  rw [hq] at hline hfill
  rcases hfill with ⟨hwhy, hnone⟩ | ⟨rfl, hsome, hahead⟩
  · -- nothing follows yet, or ever: the carriage return waits or stands alone
    have hwait : Single p ('\r' :: l'.ahead) := .inr ⟨hp, '\r', by decide, congrArg _ hnone⟩
    have hleft : Single p l'.ahead := .inl hnone
    have hother : l'.ahead.head? ≠ some '\n' := by simp [show l'.ahead = [] from hnone]
    obtain ⟨c, detected, hc⟩ := hlone l'
    rcases why with _ | ⟨_ | _ | _ | e⟩
    · exact absurd rfl hwhy
    · simp only [if_neg hother, hc]
      exact ⟨hline, .inr hleft, fun hno => absurd rfl (hno c)⟩
    · exact ⟨hline, .inr hwait, fun _ => hwait⟩
    · simp only [if_neg hother, hc]
      exact ⟨hline, .inr hleft, fun hno => absurd rfl (hno c)⟩
    · exact ⟨hline, .inr hleft, fun _ => hleft⟩
  · obtain ⟨c, cs, hcons⟩ := List.exists_cons_of_ne_nil hsome
    dsimp only at hahead hcons
    have hlooked : (c :: cs).length ≤ n ∨ (c :: cs).length ≤ 1 := by
      rw [← hcons]
      rcases hahead with hahead | ⟨-, hone⟩
      · exact .inl (by rwa [hahead])
      · exact .inr hone
    obtain ⟨hless, hkept⟩ := looked_keeps hp hlooked
    by_cases hc : c = '\n'
    · obtain ⟨c', detected, hpair'⟩ := hpair { l' with ahead := cs }
      simp only [hcons, hc, List.head?_cons, List.tail_cons, if_true, hpair']
      exact ⟨hline, .inl hless, fun hno => absurd rfl (hno c')⟩
    · obtain ⟨c', detected, hlone'⟩ := hlone l'
      have hother : l'.ahead.head? ≠ some '\n' := by simpa [hcons] using hc
      simp only [if_neg hother, hlone']
      exact ⟨hline, hcons ▸ hkept hc, fun hno => absurd rfl (hno c')⟩

/-- So does a whole step, one of whose characters makes the one that is handed out. -/
theorem next_leaves (h : Measured σ) {n : Nat} {l : Lines} (hp : LooksAhead l.translation → p)
    (hl : l.ahead.length ≤ n + 1 ∨ Single p l.ahead) (s : σ) :
    Leaves p n l.partialLine (next (n + 1) (l, s)) := by
  obtain ⟨hline, hfill⟩ := fill_measured h (n + 1) l s
  have htranslation := fill_translation (n + 1) (l, s)
  simp only [next]
  rcases hq : fill (n + 1) (l, s) with ⟨_ | why, l', s'⟩
  all_goals rw [hq] at hline hfill htranslation
  · obtain ⟨-, hsome, hahead⟩ : _ ∧ _ ∧ _ := hfill.resolve_left fun hwhy => hwhy.1 rfl
    obtain ⟨c, cs, hcons⟩ := List.exists_cons_of_ne_nil hsome
    dsimp only at hline htranslation hahead hcons
    have hrest : cs.length ≤ n := by
      refine length_tail_of_single (p := p) (c := c) ?_
      rw [← hcons]
      rcases hahead with hahead | ⟨-, hbatch⟩
      · rwa [hahead]
      · exact .inl (Nat.le_trans hbatch (by omega))
    have hmode : LooksAhead ({ l' with ahead := cs } : Lines).mode → p := fun hlooks =>
      hp (htranslation ▸ looksAhead_of_mode (l := { l' with ahead := cs }) hlooks)
    have hplain : ∀ {c' : Char} {detected : Option Translation}, Leaves p n l'.partialLine
        (Next.char c', ({ l' with ahead := cs, detected } : Lines), s') := fun {c' _} =>
      ⟨rfl, .inl hrest, fun hno => absurd rfl (hno c')⟩
    simp only [hcons]
    rw [← hline]
    split
    · exact hplain
    · rename_i hcrlf
      exact afterReturn_leaves (l := { l' with ahead := cs }) h (hmode (.inr hcrlf))
        (fun _ => ⟨_, _, rfl⟩) (fun _ => ⟨_, _, rfl⟩) hrest s'
    · exact hplain
    · rename_i hauto
      exact afterReturn_leaves (l := { l' with ahead := cs }) h (hmode (.inl hauto))
        (fun _ => ⟨_, _, rfl⟩) (fun _ => ⟨_, _, rfl⟩) hrest s'
    · exact hplain
  · obtain ⟨-, hnone⟩ := hfill.resolve_right fun hwhy => by cases hwhy.1
    have hleft : Single p l'.ahead := .inl hnone
    exact ⟨hline, .inr hleft, fun _ => hleft⟩

/-- A batch and the request that it was fetched for are used up together. -/
theorem gather_leaves (h : Measured σ) (n : Nat) (some? : Bool) {l : Lines}
    (hp : LooksAhead l.translation → p) (hl : l.ahead.length ≤ n ∨ Single p l.ahead) (s : σ) :
    (gather n some? (l, s)).2.1.partialLine = l.partialLine ∧
      Single p (gather n some? (l, s)).2.1.ahead := by
  induction n generalizing some? l s with
  | zero => exact ⟨rfl, single_of_zero hl⟩
  | succ n ih =>
    -- one less is wanted behind the step, and one less can be left of the batch
    simp only [gather]
    split
    · rename_i hnone
      rw [Bool.and_eq_true, List.isEmpty_iff] at hnone
      exact ⟨rfl, .inl hnone.2⟩
    have hleaves := next_leaves h hp hl s
    have htranslation := next_translation (n + 1) (l, s)
    rcases hq : next (n + 1) (l, s) with ⟨why, l', s'⟩
    rw [hq] at hleaves htranslation
    cases why with
    | char c =>
      obtain ⟨hline, hahead⟩ := ih true (l := l') (fun hlooks => hp (htranslation ▸ hlooks))
        hleaves.ahead s'
      exact ⟨hline.trans hleaves.partialLine, hahead⟩
    | wouldBlock | ended | failed => exact ⟨hleaves.partialLine, hleaves.news (by simp)⟩

theorem read_leaves (h : Measured σ) (n : Nat) {l : Lines} (hp : LooksAhead l.translation → p)
    (hl : Single p l.ahead) (s : σ) :
    (read n (l, s)).2.1.partialLine = l.partialLine.drop n ∧ Single p (read n (l, s)).2.1.ahead :=
  gather_leaves h _ _ (l := { l with partialLine := l.partialLine.drop n }) hp (.inr hl) s

/-- The characters of a line are asked for one by one, each a batch by itself. -/
theorem untilNewline_leaves (h : Measured σ) (blocking : Bool) (fuel : Nat) {l : Lines}
    (hp : LooksAhead l.translation → p) (hl : Single p l.ahead) (s : σ) :
    let r := untilNewline blocking fuel (l, s)
    '\n' ∉ r.1.1 ∧ r.2.1.partialLine = l.partialLine ∧ Single p r.2.1.ahead := by
  induction fuel generalizing l s with
  | zero => exact ⟨List.not_mem_nil, rfl, hl⟩
  | succ fuel ih =>
    have hleaves := next_leaves (n := 0) h hp (.inr hl) s
    have htranslation := next_translation 1 (l, s)
    simp only [untilNewline]
    rcases hq : next 1 (l, s) with ⟨why, l', s'⟩
    rw [hq] at hleaves htranslation
    have hp' : LooksAhead l'.translation → p := fun hlooks => hp (htranslation ▸ hlooks)
    have hline : l'.partialLine = l.partialLine := hleaves.partialLine
    cases why with
    | char c =>
      have hl' : Single p l'.ahead := single_of_zero hleaves.ahead
      dsimp only
      split
      · exact ⟨List.not_mem_nil, hline, hl'⟩
      · rename_i hc
        obtain ⟨hno, hrest, hahead⟩ := ih hp' hl' s'
        exact ⟨List.not_mem_cons_of_ne_of_not_mem (Ne.symm hc) hno, hrest.trans hline, hahead⟩
    | wouldBlock =>
      have hl' : Single p l'.ahead := hleaves.news (by simp)
      dsimp only
      split
      · obtain ⟨hno, hrest, hahead⟩ := ih hp' hl' s'
        exact ⟨hno, hrest.trans hline, hahead⟩
      · exact ⟨List.not_mem_nil, hline, hl'⟩
    | ended | failed => exact ⟨List.not_mem_nil, hline, hleaves.news (by simp)⟩

theorem readLine_leaves (h : Measured σ) (blocking : Bool) {l : Lines}
    (hp : LooksAhead l.translation → p) (hl : Single p l.ahead) (hline : '\n' ∉ l.partialLine)
    (s : σ) :
    let r := readLine blocking (l, s)
    '\n' ∉ r.2.1.partialLine ∧ Single p r.2.1.ahead := by
  have hruns := untilNewline_leaves h blocking (budget (l, s) + 2) hp hl s
  simp only [readLine]
  rcases hq : untilNewline blocking (budget (l, s) + 2) (l, s) with ⟨⟨cs, stop⟩, l', s'⟩
  rw [hq] at hruns
  obtain ⟨hno, hkept, hahead⟩ :
      '\n' ∉ cs ∧ l'.partialLine = l.partialLine ∧ Single p l'.ahead := hruns
  have hwhole : '\n' ∉ l'.partialLine ++ cs := by
    rw [hkept, List.mem_append, not_or]
    exact ⟨hline, hno⟩
  cases stop with
  | newline => exact ⟨List.not_mem_nil, hahead⟩
  | wouldBlock | failed => exact ⟨hwhole, hahead⟩
  | ended =>
    dsimp only
    split
    · exact ⟨fun hmem => hline (hkept ▸ hmem), hahead⟩
    · exact ⟨List.not_mem_nil, hahead⟩

end Source

/-- What a user of the stage does. -/
inductive Call (σ : Type)
  | read (size : Nat)
  | readLine (blocking : Bool)
  | setTranslation (t : Translation)
  | cancelEnd
  | seekReset
  | takePending (size : Nat)
  /-- Something is done with what is below. -/
  | below (change : σ → σ)

/-- The stage in use. -/
structure Usage (σ : Type) where
  lines : Lines
  source : σ
  /-- The translations since it was made or last reset. -/
  inForce : List Translation

namespace Usage
variable {σ : Type}

/-- A new stage in front of a source. -/
def init (t : Translation) (s : σ) : Usage σ := ⟨.init t, s, [t]⟩

variable [CharSource σ]

def call (u : Usage σ) : Call σ → Usage σ
  | .read n =>
    let r := read n (u.lines, u.source)
    { u with lines := r.2.1, source := r.2.2 }
  | .readLine blocking =>
    let r := readLine blocking (u.lines, u.source)
    { u with lines := r.2.1, source := r.2.2 }
  | .setTranslation t => { u with lines := u.lines.setTranslation t, inForce := t :: u.inForce }
  | .cancelEnd => { u with lines := u.lines.cancelEnd }
  | .seekReset => { u with lines := u.lines.seekReset, inForce := [u.lines.translation] }
  | .takePending n => { u with lines := (u.lines.takePending n).2 }
  | .below change => { u with source := change u.source }

def after (u : Usage σ) (calls : List (Call σ)) : Usage σ := calls.foldl call u

/-- No newline waits, and nothing but the one character for which there was a reason. -/
structure Reserved (u : Usage σ) : Prop where
  inForce : u.lines.translation ∈ u.inForce
  ahead : Single (∃ t ∈ u.inForce, LooksAhead t) u.lines.ahead
  partialLine : '\n' ∉ u.lines.partialLine

omit [CharSource σ] in
theorem reserved_init (t : Translation) (s : σ) : (init t s).Reserved :=
  ⟨List.mem_singleton_self t, single_nil _, List.not_mem_nil⟩

theorem Reserved.call (h : Measured σ) {u : Usage σ} (hu : u.Reserved) (c : Call σ) :
    (u.call c).Reserved := by
  have hp : LooksAhead u.lines.translation → ∃ t ∈ u.inForce, LooksAhead t := fun hlooks =>
    ⟨_, hu.inForce, hlooks⟩
  cases c with
  | read n =>
    obtain ⟨hline, hahead⟩ := read_leaves h n hp hu.ahead u.source
    refine ⟨?_, hahead, fun hmem => hu.partialLine (List.mem_of_mem_drop (hline ▸ hmem))⟩
    exact (read_translation n (u.lines, u.source)).symm ▸ hu.inForce
  | readLine blocking =>
    obtain ⟨hline, hahead⟩ := readLine_leaves h blocking hp hu.ahead hu.partialLine u.source
    refine ⟨?_, hahead, hline⟩
    exact (readLine_translation blocking (u.lines, u.source)).symm ▸ hu.inForce
  | setTranslation t =>
    refine ⟨List.mem_cons_self .., ?_, hu.partialLine⟩
    rcases hu.ahead with hnone | ⟨⟨t', hmem, hlooks⟩, hone⟩
    · exact .inl hnone
    · exact .inr ⟨⟨t', List.mem_cons_of_mem t hmem, hlooks⟩, hone⟩
  | cancelEnd | below => exact ⟨hu.inForce, hu.ahead, hu.partialLine⟩
  | seekReset => exact reserved_init u.lines.translation u.source
  | takePending n =>
    refine ⟨hu.inForce, single_nil _, fun hmem => ?_⟩
    rcases List.mem_append.1 (List.mem_of_mem_drop hmem) with hmem | hmem
    · exact hu.partialLine hmem
    · exact newline_of_single hu.ahead hmem

/-- Induction over the calls. -/
theorem reserved_after (h : Measured σ) {u : Usage σ} (hu : u.Reserved) (calls : List (Call σ)) :
    (u.after calls).Reserved := by
  induction calls generalizing u with
  | nil => exact hu
  | cons c calls ih => exact ih (hu.call h c)

end Usage

/-- Whatever is asked for, and whatever translations are set in between: between calls one character
is ahead at the most, no newline waits, ahead or in the partial line, and without a translation that looks
ahead, since the stage was made or last reset, nothing is ahead. -/
theorem withholds_one {σ : Type} [CharSource σ] (h : Measured σ) (t : Translation) (s : σ)
    (calls : List (Call σ)) :
    let u := (Usage.init t s).after calls
    u.lines.ahead.length ≤ 1 ∧ '\n' ∉ u.lines.ahead ∧ '\n' ∉ u.lines.partialLine ∧
      ((∀ t' ∈ u.inForce, t' ∈ [.lf, .cr, .binary, .platform]) → u.lines.ahead = []) := by
  intro u
  have hu : u.Reserved := Usage.reserved_after h (Usage.reserved_init t s) calls
  refine ⟨length_of_single hu.ahead, newline_of_single hu.ahead, hu.partialLine, fun hno => ?_⟩
  refine hu.ahead.resolve_right fun ⟨⟨t', hmem, hlooks⟩, _⟩ => ?_
  have hplain := hno t' hmem
  rcases hlooks with rfl | rfl <;> simp at hplain

/-- A line that is not complete, with a carriage return behind it that still waits under the next
translation. Behind a reset nothing is held back. -/
theorem withholds_one_cutPairs :
    let s := Decoding.fresh .latin1 2 .full false (Cutoff.init 0, cutPairs)
    let u := (Usage.init .auto s).after [.readLine false, .setTranslation .lf]
    let u' := (Usage.init .auto s).after
      [.readLine false, .setTranslation .lf, .seekReset, .setTranslation .cr, .read 2]
    Measured (Decoding × Rewind × ReadAhead × Cutoff × Transport.Rehearsed) ∧
      u.inForce = [.lf, .auto] ∧ u.lines.partialLine = ['a'] ∧ u.lines.ahead = ['\r'] ∧
      '\n' ∉ u.lines.ahead ∧ u'.inForce = [.cr, .lf] ∧ u'.lines.ahead = [] := by
  intro s u u'
  have hmeasured := measured_of_stream (σ := Decoding × Rewind × ReadAhead × Cutoff × Transport.Rehearsed)
  obtain ⟨-, hnewline, -⟩ := withholds_one hmeasured .auto s [.readLine false, .setTranslation .lf]
  obtain ⟨-, -, -, hplain⟩ := withholds_one hmeasured .auto s
    [.readLine false, .setTranslation .lf, .seekReset, .setTranslation .cr, .read 2]
  have hinForce : u'.inForce = [.cr, .lf] := by decide
  exact ⟨hmeasured, by decide, by decide, by decide, hnewline, hinForce, hplain (by decide)⟩

end ScriptChannel.Input.Lines
