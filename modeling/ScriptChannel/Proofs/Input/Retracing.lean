import Mathlib.Data.List.Induction
import ScriptChannel.Proofs.Consulted
import ScriptChannel.Proofs.Input.Cutoff
import ScriptChannel.Proofs.Input.Rewind
import ScriptChannel.Proofs.Transport.Rehearsed

/-!
# A cursor with one mark

The stage with the mark in use: it is read with buffers of any size, marks are set and given up, in the
middle of a replay as well, and its reader goes back or takes what is to be replayed. All this only moves
a position in the sequence of bytes that the source delivers. What waits to be handed out again is what
lies between the position and the next byte of the source.
-/

namespace ScriptChannel.Input.Rewind

/-- What a user of the stage does. -/
inductive Call
  | read (size : Nat)
  | mark (limit : Nat)
  | reset
  | unmark
  | takeReplay
  deriving DecidableEq, Repr

/-- Where a mark was set, and how many bytes may be read behind it. -/
structure Mark where
  position : Nat
  limit : Nat
  deriving DecidableEq, Repr

/-- The stage and where its user stands. -/
structure Usage (σ : Type) where
  /-- How many bytes of the source's sequence are passed. -/
  position : Nat
  /-- The last mark, unless it was used up or given up since. -/
  mark? : Option Mark
  rewind : Rewind
  source : Consulted σ

section Source
variable {σ : Type} [ByteSource σ]

/-- A fetch adds what it brings to what is kept behind the mark, or the mark is lost, and then it brings
more than may be kept. -/
theorem fetch_marks (n : Nat) (s : Rewind × σ) :
    (fetch n s).2.1.limit = s.1.limit ∧
        (s.1.limit ≠ none → (fetch n s).2.1.behind = s.1.behind ++ (fetch n s).1.units) ∨
      (fetch n s).2.1.limit = none ∧
        ∃ limit, s.1.limit = some limit ∧ limit < s.1.behind.length + (fetch n s).1.units.length := by
  obtain ⟨r, s⟩ := s
  simp only [fetch]
  split
  · exact .inl ⟨rfl, fun _ => (List.append_nil _).symm⟩
  split
  · refine .inl ⟨rfl, fun hmark => ?_⟩
    have hmarked : r.isMarked = true := by
      simpa [isMarked, Option.isSome_iff_ne_none] using hmark
    simp [replay, hmarked, Fetch.units]
  · cases hf : (ByteSource.fetch n s).1 with
    | wouldBlock | ended | failed => exact .inl ⟨rfl, fun _ => (List.append_nil _).symm⟩
    | got us =>
      simp only [Fetch.isGot, Fetch.units, if_true, record]
      cases hl : r.limit with
      | none => exact .inl ⟨hl, fun hmark => absurd rfl hmark⟩
      | some limit =>
        by_cases hpast : r.behind.length + us.length > limit
        · exact .inr ⟨by simp [hpast, init], limit, rfl, hpast⟩
        · exact .inl ⟨by simp [hpast], fun _ => by simp [hpast]⟩

/-- With bytes to be handed out again the source is left alone, and otherwise it answers. -/
theorem fetch_ahead {n : Nat} (hn : n ≠ 0) (r : Rewind) (s : σ) :
    r.ahead ≠ [] ∧ (fetch n (r, s)).1 = .got (r.ahead.take n) ∧
        (fetch n (r, s)).2.1.ahead = r.ahead.drop n ∧ (fetch n (r, s)).2.2 = s ∨
      r.ahead = [] ∧ (fetch n (r, s)).1 = (ByteSource.fetch n s).1 ∧
        (fetch n (r, s)).2.1.ahead = [] ∧ (fetch n (r, s)).2.2 = (ByteSource.fetch n s).2 := by
  by_cases ha : r.ahead = []
  · have hasks : fetch n (r, s) = ((ByteSource.fetch n s).1,
        if (ByteSource.fetch n s).1.isGot then r.record (ByteSource.fetch n s).1.units else r,
        (ByteSource.fetch n s).2) := by simp [fetch, hn, ha]
    rw [hasks]
    refine .inr ⟨ha, rfl, ?_, rfl⟩
    dsimp only
    split
    · exact record_ahead r ha _
    · exact ha
  · have hreplays : fetch n (r, s) = (.got (r.ahead.take n), (r.replay n).2, s) := by
      simp [fetch, hn, ha, replay]
    rw [hreplays]
    exact .inl ⟨ha, rfl, rfl, rfl⟩

namespace Usage

omit [ByteSource σ] in
/-- A new stage in front of a source. -/
def init (s : σ) : Usage σ := ⟨0, none, .init, .fresh s⟩

def place (u : Usage σ) : Rewind × Consulted σ := (u.rewind, u.source)

/-- The bytes of the sequence that are known so far. -/
def delivered (u : Usage σ) : List UInt8 := u.source.delivered

def call (u : Usage σ) : Call → Usage σ
  | .read n =>
    let r := fetch n u.place
    { u with position := u.position + r.1.units.length, rewind := r.2.1, source := r.2.2 }
  | .mark limit => { u with mark? := some ⟨u.position, limit⟩, rewind := u.rewind.mark limit }
  | .reset =>
    match u.rewind.reset with
    | (.ok (), r) =>
      { u with position := (u.mark?.map Mark.position).getD u.position, mark? := none, rewind := r }
    | (.error _, r) => { u with rewind := r }
  | .unmark => { u with mark? := none, rewind := u.rewind.unmark }
  | .takeReplay =>
    let r := u.rewind.takeReplay
    { u with position := u.position + r.1.length, mark? := none, rewind := r.2 }

def after (u : Usage σ) (calls : List Call) : Usage σ := calls.foldl call u

theorem after_concat (u : Usage σ) (calls : List Call) (c : Call) :
    u.after (calls ++ [c]) = (u.after calls).call c := by
  simp [after]

/-- What is to be handed out again lies behind the position, and what is kept since the mark in front of
it. The mark is lost only when more was read since than may be kept. -/
structure Placed (u : Usage σ) : Prop where
  within : u.position ≤ u.delivered.length
  ahead : u.rewind.ahead = u.delivered.drop u.position
  marked : ∀ limit, u.rewind.limit = some limit → ∃ start, u.mark? = some ⟨start, limit⟩ ∧
    start ≤ u.position ∧ u.rewind.behind = (u.delivered.take u.position).drop start
  lost : ∀ m, u.mark? = some m → u.rewind.limit = none → m.limit < u.position - m.position

omit [ByteSource σ] in
theorem placed_init (s : σ) : (init s).Placed where
  within := Nat.le_refl 0
  ahead := rfl
  marked _ h := by cases h
  lost _ h := by cases h

section Placed
variable {u : Usage σ} (h : u.Placed)
include h

/-- What a read hands out, and then what is to be handed out again, is the sequence from the position
on. -/
theorem Placed.read (n : Nat) :
    u.delivered <+: (u.call (.read n)).delivered ∧
      (u.call (.read n)).delivered.drop u.position =
        (fetch n u.place).1.units ++ (fetch n u.place).2.1.ahead := by
  by_cases hn : n = 0
  · subst hn
    exact ⟨List.prefix_rfl, h.ahead.symm⟩
  rcases fetch_ahead hn u.rewind u.source with ⟨-, hf, ha, hs⟩ | ⟨hnone, hf, ha, hs⟩
  · have hkept : (u.call (.read n)).delivered = u.delivered := congrArg Consulted.delivered hs
    rw [hkept, place, hf, ha, ← h.ahead]
    exact ⟨List.prefix_rfl, (List.take_append_drop n _).symm⟩
  · have hmore : (u.call (.read n)).delivered = u.delivered ++ (fetch n u.place).1.units := by
      refine (congrArg Consulted.delivered hs).trans ?_
      rw [Consulted.delivered_fetch, place, hf]
      rfl
    have hend : u.delivered.length ≤ u.position := by
      have hdrop := h.ahead.symm.trans hnone
      exact List.drop_eq_nil_iff.1 hdrop
    have hat : u.position = u.delivered.length := Nat.le_antisymm h.within hend
    rw [hmore, hat, List.drop_left, place, ha, List.append_nil]
    exact ⟨List.prefix_append _ _, rfl⟩

theorem Placed.call_read (n : Nat) : (u.call (.read n)).Placed := by
  obtain ⟨⟨more, hmore⟩, hdrop⟩ := h.read n
  have hpos : (u.call (.read n)).position = u.position + (fetch n u.place).1.units.length := rfl
  have hrewind : (u.call (.read n)).rewind = (fetch n u.place).2.1 := rfl
  have hmark : (u.call (.read n)).mark? = u.mark? := rfl
  generalize hus : (fetch n u.place).1.units = us at hdrop hpos
  have hmarks := fetch_marks n u.place
  rw [hus] at hmarks
  -- the bytes in front of the new position are those in front of the old one and those handed out
  have htake : (u.call (.read n)).delivered.take (u.position + us.length) =
      u.delivered.take u.position ++ us := by
    rw [List.take_add, hdrop, List.take_left, ← hmore, List.take_append_of_le_length h.within]
  have hlen : u.position + us.length ≤ (u.call (.read n)).delivered.length := by
    have hle := congrArg List.length hdrop
    rw [List.length_drop, List.length_append, ← hmore, List.length_append] at hle
    have hin := h.within
    rw [← hmore, List.length_append]
    omega
  refine ⟨hpos ▸ hlen, ?_, fun limit hl => ?_, fun m hm hl => ?_⟩
  · rw [hpos, hrewind, ← List.drop_drop, hdrop, List.drop_left]
  · rw [hrewind] at hl
    rcases hmarks with ⟨hsame, hkept⟩ | ⟨hnone, -⟩
    · obtain ⟨start, hm, hle, hbehind⟩ := h.marked limit (hsame.symm.trans hl)
      refine ⟨start, hm, hpos ▸ Nat.le_trans hle (Nat.le_add_right _ _), ?_⟩
      have hstart : start ≤ (u.delivered.take u.position).length := by
        rw [List.length_take, Nat.min_eq_left h.within]
        exact hle
      rw [hpos, hrewind, htake, List.drop_append_of_le_length hstart, ← hbehind]
      exact hkept fun hnone => by cases hl.symm.trans (hsame.trans hnone)
    · cases hnone.symm.trans hl
  · rw [hmark] at hm
    rw [hrewind] at hl
    rw [hpos]
    rcases hmarks with ⟨hsame, -⟩ | ⟨-, limit, hwas, hpast⟩
    · have hbefore := h.lost m hm (hsame.symm.trans hl)
      omega
    · obtain ⟨start, hm', hle, hbehind⟩ := h.marked limit hwas
      obtain rfl : m = ⟨start, limit⟩ := Option.some.inj (hm.symm.trans hm')
      have hcount : u.rewind.behind.length = u.position - start := by
        rw [hbehind, List.length_drop, List.length_take, Nat.min_eq_left h.within]
      simp only [place, hcount] at hpast
      dsimp only
      omega

/-- A reset that succeeds goes back to the last mark. -/
theorem Placed.reset_ok {limit : Nat} (hl : u.rewind.limit = some limit) :
    ∃ m, u.mark? = some m ∧ u.call .reset =
      { u with position := m.position, mark? := none, rewind := ⟨[], u.rewind.behind ++ u.rewind.ahead, none⟩ } := by
  obtain ⟨start, hm, -, -⟩ := h.marked limit hl
  exact ⟨_, hm, by simp [call, reset_of_limit hl, hm]⟩

omit h in
theorem reset_error (hl : u.rewind.limit = none) : u.call .reset = u := by
  simp [call, reset, hl]

/-- Giving up what is to be handed out again passes all that is known. -/
theorem Placed.takeReplay : (u.call .takeReplay).position = u.delivered.length := by
  have hin := h.within
  simp only [Usage.call, Rewind.takeReplay, h.ahead, List.length_drop]
  omega

theorem Placed.call (c : Call) : (u.call c).Placed := by
  cases c with
  | read n => exact h.call_read n
  | mark limit =>
    refine ⟨h.within, h.ahead, fun limit' hl => ?_, fun _ _ hl => (by cases hl)⟩
    obtain rfl : limit = limit' := Option.some.inj hl
    refine ⟨u.position, rfl, Nat.le_refl _, ?_⟩
    have hnone : (u.delivered.take u.position).drop u.position = [] :=
      List.drop_of_length_le (List.length_take_le _ _)
    exact hnone.symm
  | reset =>
    cases hl : u.rewind.limit with
    | none =>
      rw [reset_error hl]
      exact h
    | some limit =>
      obtain ⟨start, hm, hle, hbehind⟩ := h.marked limit hl
      obtain ⟨m, hm', hreset⟩ := h.reset_ok hl
      obtain rfl : m = ⟨start, limit⟩ := Option.some.inj (hm'.symm.trans hm)
      rw [hreset]
      refine ⟨Nat.le_trans hle h.within, ?_, fun _ hn => (by cases hn), fun _ hn => (by cases hn)⟩
      -- what was read since the mark and what was still ahead are one piece of the sequence
      have hstart : start ≤ (u.delivered.take u.position).length := by
        rw [List.length_take, Nat.min_eq_left h.within]
        exact hle
      change u.rewind.behind ++ u.rewind.ahead = u.delivered.drop start
      rw [hbehind, h.ahead, ← List.drop_append_of_le_length hstart, List.take_append_drop]
  | unmark => exact ⟨h.within, h.ahead, fun _ hn => (by cases hn), fun _ hn => (by cases hn)⟩
  | takeReplay =>
    have hpos := h.takeReplay
    refine ⟨Nat.le_of_eq hpos, ?_, fun _ hn => (by cases hn), fun _ hn => (by cases hn)⟩
    rw [hpos]
    exact (List.drop_length).symm

end Placed

/-- Induction over the calls. -/
theorem placed_after (s : σ) (calls : List Call) : ((init s).after calls).Placed := by
  induction calls using List.reverseRecOn with
  | nil => exact placed_init s
  | append_singleton calls c ih =>
    rw [after_concat]
    exact ih.call c

/-- The stage as a cursor on the sequence that the source delivers. -/
structure IsCursor (u : Usage σ) : Prop where
  /-- A read hands out what is known behind the position, and asks the source when that is nothing. -/
  reads : ∀ n, (fetch n u.place).1 =
    if n = 0 then .got []
    else if u.position < u.delivered.length then .got ((u.delivered.drop u.position).take n)
    else (ByteSource.fetch n u.source).1
  /-- In each case this is the next piece of one sequence, of which more may be known then. -/
  follows : ∀ n, u.delivered <+: (u.call (.read n)).delivered ∧
    (fetch n u.place).1.units <+: (u.call (.read n)).delivered.drop u.position
  /-- A reset that succeeds goes back to the mark, which is used up. -/
  goesBack : u.rewind.reset.1 = .ok () → ∃ m, u.mark? = some m ∧
    (u.call .reset).position = m.position ∧ (u.call .reset).mark? = none ∧
    (u.call .reset).rewind.isMarked = false
  /-- It does succeed while no more was read since the mark than may be kept. -/
  sure : ∀ m, u.mark? = some m → u.position - m.position ≤ m.limit → u.rewind.reset.1 = .ok ()
  /-- One that fails changes nothing. -/
  harmless : ∀ e, u.rewind.reset.1 = .error e → u.call .reset = u
  /-- What is given up is what lies between the position and the source, and the position passes it. -/
  givesUp : u.rewind.takeReplay.1 = u.delivered.drop u.position ∧
    (u.call .takeReplay).position = u.delivered.length ∧ (u.call .takeReplay).source = u.source

section Cursor
variable {u : Usage σ} (h : u.Placed)
include h

theorem Placed.fetch_eq (n : Nat) : (fetch n u.place).1 =
    if n = 0 then .got []
    else if u.position < u.delivered.length then .got ((u.delivered.drop u.position).take n)
    else (ByteSource.fetch n u.source).1 := by
  by_cases hn : n = 0
  · simp [fetch, hn, place]
  rw [if_neg hn]
  rcases fetch_ahead hn u.rewind u.source with ⟨hsome, hf, -⟩ | ⟨hnone, hf, -⟩
  · have hmore : u.position < u.delivered.length := by
      rw [h.ahead, ne_eq, List.drop_eq_nil_iff] at hsome
      exact Nat.lt_of_not_le hsome
    rw [if_pos hmore, ← h.ahead]
    exact hf
  · have hend : ¬ u.position < u.delivered.length := by
      rw [h.ahead, List.drop_eq_nil_iff] at hnone
      exact Nat.not_lt_of_le hnone
    rw [if_neg hend]
    exact hf

theorem Placed.isCursor : u.IsCursor where
  reads := h.fetch_eq
  follows n := ⟨(h.read n).1, (h.read n).2 ▸ List.prefix_append _ _⟩
  goesBack hok := by
    cases hl : u.rewind.limit with
    | none => simp [reset, hl] at hok
    | some limit =>
      obtain ⟨m, hm, hreset⟩ := h.reset_ok hl
      exact ⟨m, hm, by simp [hreset, isMarked]⟩
  sure m hm hle := by
    cases hl : u.rewind.limit with
    | none => exact absurd hle (Nat.not_le_of_lt (h.lost m hm hl))
    | some limit => rw [reset_of_limit hl]
  harmless e herror := by
    cases hl : u.rewind.limit with
    | none => exact reset_error hl
    | some limit => simp [reset, hl] at herror
  givesUp := ⟨h.ahead, h.takeReplay, rfl⟩

end Cursor

/-- Whatever was called before. -/
theorem isCursor_after (s : σ) (calls : List Call) : ((init s).after calls).IsCursor :=
  (placed_after s calls).isCursor

/-- A replay stops at the bytes already known; a mark set in the middle of it holds for what follows. -/
example :
    let d : Transport.Rehearsed := { Transport.Rehearsed.quiet with reads := [.units [97, 98, 99, 100, 101]] }
    let u := (init (Cutoff.init 0, d)).after [.mark 4, .read 3, .reset, .read 2, .mark 9, .read 2, .read 1]
    u.mark? = some ⟨2, 9⟩ ∧ u.position = 4 ∧ u.rewind.behind = [99, 100] ∧
      (u.after [.reset, .read 1, .takeReplay, .read 5]).position = 5 := by
  decide

end Usage

end Source

end ScriptChannel.Input.Rewind
