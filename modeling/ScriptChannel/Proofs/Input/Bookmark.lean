import ScriptChannel.Proofs.Bookmark
import ScriptChannel.Proofs.Input.Lines

/-!
# Line endings read at a bookmark

Against a source that tells a text and then ends, the stage for the line endings stands at a bookmark
in the text and reads as the bookmark does, in whatever pieces its source answers.
-/

namespace ScriptChannel.Input.Lines
variable {σ : Type} [CharSource σ]

/-- How a source tells a text. -/
structure Telling (σ : Type) where
  text : List Char
  /-- Its reader asks for one character at a time. -/
  single : Bool
  /-- So many characters have been handed up. -/
  handed : List Char → σ → Prop
  /-- The text is at its end. -/
  atEnd : σ → Prop
  /-- Nothing is half done. -/
  whole : σ → Prop

/-- The source tells the text and then ends. It has nothing half done when it ends, nor when it
brings all that it was asked for. -/
structure Telling.Sound (k : Telling σ) : Prop where
  begins {cs : List Char} {s : σ} (h : k.handed cs s) : cs <+: k.text
  ends {cs : List Char} {s : σ} (h : k.handed cs s) (he : k.atEnd s) : cs = k.text ∧ k.whole s
  answers {n : Nat} {cs : List Char} {s : σ} (hn : 0 < n) (h : k.handed cs s) :
    (∃ us s', CharSource.fetch n s = (.got us, s') ∧ us ≠ [] ∧ us.length ≤ n ∧
      k.handed (cs ++ us) s' ∧ (k.whole s' ∨ us.length < n)) ∨
    ∃ s', CharSource.fetch n s = (.ended, s') ∧ k.handed cs s' ∧ k.atEnd s'

/-- The stage faces the text behind the bookmark, with what is set aside read already: the characters
ahead are the first that are left. If the source has half a character more, fewer than `n` are
ahead. -/
structure Facing (k : Telling σ) (n : Nat) (b : Bookmark) (s : Lines × σ) : Prop where
  below : k.handed (b.taken ++ s.1.ahead) s.2
  text : k.text = b.taken ++ b.left
  mode : s.1.mode = b.mode
  ended : s.1.ended = true → k.atEnd s.2
  whole : k.whole s.2 ∨ s.1.ahead.length < n

/-- The stage stands at the bookmark. For a reader of one at a time it has looked at one character or
at none. -/
structure At (k : Telling σ) (n : Nat) (b : Bookmark) (s : Lines × σ) : Prop
    extends Facing k n b s where
  peeked : k.single = true → s.1.ahead.length = if b.peeked then 1 else 0

/-- Neither the partial line nor the setting has changed. -/
structure Kept (l l' : Lines) : Prop where
  partialLine : l'.partialLine = l.partialLine
  translation : l'.translation = l.translation

theorem Kept.refl (l : Lines) : Kept l l := ⟨rfl, rfl⟩

theorem Kept.trans {l l' l'' : Lines} (h : Kept l l') (h' : Kept l' l'') : Kept l l'' :=
  ⟨h'.partialLine.trans h.partialLine, h'.translation.trans h.translation⟩

variable {k : Telling σ} (hk : k.Sound) {n : Nat} {b : Bookmark} {l : Lines} {s : σ}

omit [CharSource σ] in
theorem At.of_le {n' : Nat} {s : Lines × σ} (h : At k n b s) (hle : n ≤ n') : At k n' b s :=
  { h with whole := h.whole.imp_right fun hlt => Nat.lt_of_lt_of_le hlt hle }

omit [CharSource σ] in
/-- A character that is read by itself leaves the others ahead. -/
theorem Facing.pass_one {l' : Lines} {x : Char} {rest : List Char} {m : Translation} {peeked : Bool}
    (h : Facing k (n + 1) b (l, s)) (ha : l.ahead = x :: l'.ahead) (hleft : b.left = x :: rest)
    (he : l'.ended = l.ended) (hm : l'.mode = m)
    (hpeeked : k.single = true → l'.ahead.length = if peeked then 1 else 0) :
    At k n (b.pass 1 m peeked) (l', s) where
  below := by simpa [Bookmark.pass, hleft, ha] using h.below
  text := by simp [Bookmark.pass, h.text, hleft]
  mode := hm
  ended hend := h.ended (he ▸ hend)
  whole := h.whole.imp_right fun hlt => by
    dsimp only at hlt
    rw [ha, List.length_cons] at hlt
    exact Nat.lt_of_succ_lt_succ hlt
  peeked := hpeeked

omit [CharSource σ] in
/-- So does a pair. -/
theorem Facing.pass_two {l' : Lines} {x y : Char} {rest : List Char} {m : Translation}
    (h : Facing k (n + 1) b (l, s)) (ha : l.ahead = x :: y :: l'.ahead)
    (hleft : b.left = x :: y :: rest) (he : l'.ended = l.ended) (hm : l'.mode = m)
    (hpeeked : k.single = true → l'.ahead = []) : At k n (b.pass 2 m false) (l', s) where
  below := by simpa [Bookmark.pass, hleft, ha] using h.below
  text := by simp [Bookmark.pass, h.text, hleft]
  mode := hm
  ended hend := h.ended (he ▸ hend)
  whole := h.whole.imp_right fun hlt => by
    dsimp only at hlt ⊢
    rw [ha, List.length_cons, List.length_cons] at hlt
    omega
  peeked hone := by simp [hpeeked hone, Bookmark.pass]

section Next

section Sound
include hk

/-- What is ahead are the first of the characters that are left. -/
theorem Facing.ahead_prefix (h : Facing k n b (l, s)) : l.ahead <+: b.left := by
  have hbegins := hk.begins h.below
  rw [h.text] at hbegins
  exact (List.prefix_append_right_inj _).1 hbegins

/-- Behind the last character nothing is left. -/
theorem Facing.left_of_over (h : Facing k n b (l, s)) (he : k.atEnd s) (ha : l.ahead = []) :
    b.left = [] := by
  have hall := (hk.ends h.below he).1
  rw [h.text] at hall
  dsimp only at hall
  rw [ha, List.append_nil] at hall
  exact List.self_eq_append_right.1 hall

/-- Three ways to make sure that a character is ahead. -/
theorem fill_cases (hn : 0 < n) {cs : List Char} (h : k.handed (cs ++ l.ahead) s)
    (hend : l.ended = true → k.atEnd s) :
    (l.ahead ≠ [] ∧ fill n (l, s) = (none, l, s)) ∨
      (∃ us s', l.ahead = [] ∧ l.ended = false ∧ fill n (l, s) = (none, { l with ahead := us }, s') ∧
        us ≠ [] ∧ us.length ≤ n ∧ k.handed (cs ++ us) s' ∧ (k.whole s' ∨ us.length < n)) ∨
      ∃ s', l.ahead = [] ∧ fill n (l, s) = (some .ended, { l with ended := true }, s') ∧
        k.handed cs s' ∧ k.atEnd s' := by
  simp only [fill]
  by_cases ha : l.ahead = []
  · rw [ha, List.append_nil] at h
    rw [if_neg (by simp [ha])]
    by_cases he : l.ended = true
    · refine .inr (.inr ⟨s, ha, ?_, h, hend he⟩)
      rw [if_pos he, ← he]
    · rw [if_neg he, Nat.max_eq_left hn]
      rcases hk.answers hn h with ⟨us, s', hf, hus, hlen, hp, hw⟩ | ⟨s', hf, hp, he'⟩
      · refine .inr (.inl ⟨us, s', ha, Bool.eq_false_iff.2 he, ?_, hus, hlen, hp, hw⟩)
        rw [hf]
        cases us with
        | nil => exact absurd rfl hus
        | cons u us => rfl
      · refine .inr (.inr ⟨s', ha, ?_, hp, he'⟩)
        rw [hf]
  · rw [if_pos (by simp [ha])]
    exact .inl ⟨ha, rfl⟩

/-- With a character ahead it is that one which tells what a carriage return is. -/
theorem turn_at {m m' m'' : Translation} {c : Char} {pair lone : Lines → Next × Lines}
    (hpair : Turns m pair '\n' m') (hlone : Turns m lone c m'') {rest ys : List Char} {y : Char}
    (ha : l.ahead = y :: ys) (hm : l.mode = m)
    (h : Facing k (n + 1) b ({ l with ahead := '\r' :: l.ahead }, s))
    (hleft : b.left = '\r' :: rest) (hone : k.single = true → ys = []) :
    let r := if l.ahead.head? = some '\n' then pair { l with ahead := l.ahead.tail } else lone l
    Kept l r.2 ∧
      if rest.head? = some '\n' then r.1 = .char '\n' ∧ At k n (b.pass 2 m' false) (r.2, s)
      else r.1 = .char c ∧ At k n (b.pass 1 m'' (!rest.isEmpty)) (r.2, s) := by
  obtain ⟨more, hmore⟩ := h.ahead_prefix hk
  have hrest : rest = y :: (ys ++ more) := by
    rw [hleft] at hmore
    simpa [ha] using hmore.symm
  subst hrest
  have hhead : l.ahead.head? = some y := by rw [ha]; rfl
  have htail : l.ahead.tail = ys := by rw [ha]; rfl
  rw [htail]
  by_cases hy : y = '\n'
  · subst hy
    rw [if_pos hhead]
    dsimp only
    rw [if_pos (show ('\n' :: (ys ++ more)).head? = some '\n' from rfl)]
    refine ⟨⟨hpair.partialLine _, hpair.translation _⟩, hpair.answer { l with ahead := ys } hm,
      h.pass_two ?_ hleft ?_ (hpair.mode _ hm) ?_⟩
    · rw [hpair.ahead, ha]
    · exact hpair.ended _
    · intro h1
      rw [hpair.ahead]
      exact hone h1
  · have hother : l.ahead.head? ≠ some '\n' := by simpa [hhead] using hy
    have hother' : (y :: (ys ++ more)).head? ≠ some '\n' := by simpa using hy
    rw [if_neg hother]
    dsimp only
    rw [if_neg hother']
    refine ⟨⟨hlone.partialLine l, hlone.translation l⟩, hlone.answer l hm,
      h.pass_one ?_ hleft ?_ (hlone.mode l hm) ?_⟩
    · rw [hlone.ahead]
    · exact hlone.ended l
    · intro h1
      simp [hlone.ahead, ha, hone h1]

/-- A carriage return is told apart by what is behind it. -/
theorem afterReturn_at {m m' m'' : Translation} {c : Char} {pair lone : Lines → Next × Lines}
    (hpair : Turns m pair '\n' m') (hlone : Turns m lone c m'') {rest : List Char}
    (h : Facing k (n + 1) b ({ l with ahead := '\r' :: l.ahead }, s)) (hm : l.mode = m)
    (hleft : b.left = '\r' :: rest) (hone : k.single = true → l.ahead = []) :
    let r := afterReturn pair lone (l, s)
    Kept l r.2.1 ∧
      if rest.head? = some '\n' then r.1 = .char '\n' ∧ At k n (b.pass 2 m' false) r.2
      else r.1 = .char c ∧ At k n (b.pass 1 m'' (!rest.isEmpty)) r.2 := by
  have hbelow : k.handed (b.taken ++ ['\r'] ++ l.ahead) s := by simpa using h.below
  simp only [afterReturn]
  rcases fill_cases hk Nat.one_pos hbelow h.ended with
    ⟨ha, hf⟩ | ⟨us, s', ha, he, hf, hus, hlen, hp, hw⟩ | ⟨s', ha, hf, hp, he⟩
  · rw [hf]
    obtain ⟨y, ys, hys⟩ := List.exists_cons_of_ne_nil ha
    exact turn_at hk hpair hlone hys hm h hleft fun h1 => absurd (hone h1) ha
  · rw [hf]
    obtain ⟨y, rfl⟩ := List.length_eq_one_iff.1 (Nat.le_antisymm hlen (List.length_pos_iff.2 hus))
    have hface : Facing k (n + 1) b ({ l with ahead := ['\r', y] }, s') :=
      { below := by simpa using hp
        text := h.text
        mode := h.mode
        ended := fun hn => by simp [he] at hn
        whole := .inl (hw.resolve_right (Nat.lt_irrefl 1)) }
    obtain ⟨hkept, hread⟩ := turn_at hk hpair hlone (l := { l with ahead := [y] }) rfl hm hface hleft
      fun _ => rfl
    exact ⟨⟨hkept.partialLine, hkept.translation⟩, hread⟩
  · rw [hf]
    have hw := (hk.ends hp he).2
    have hface : Facing k (n + 1) b ({ l with ended := true, ahead := '\r' :: l.ahead }, s') :=
      { below := by simpa [ha] using hp
        text := h.text
        mode := h.mode
        ended := fun _ => he
        whole := .inl hw }
    have hnil : rest = [] := by
      have hall := (hk.ends hface.below he).1
      rw [h.text, hleft] at hall
      simpa [ha] using hall
    subst hnil
    dsimp only
    rw [if_neg (by simp [ha]), if_neg (by simp)]
    refine ⟨⟨hlone.partialLine _, hlone.translation _⟩, hlone.answer { l with ended := true } hm,
      hface.pass_one ?_ hleft ?_ (hlone.mode { l with ended := true } hm) ?_⟩
    · rw [hlone.ahead]
    · exact hlone.ended _
    · intro h1
      simp [hlone.ahead, ha]

end Sound

/-- What the question for the next character is answered at a bookmark. -/
def Answers (k : Telling σ) (n : Nat) (b : Bookmark) (l : Lines) (r : Next × Lines × σ) : Prop :=
  Kept l r.2.1 ∧
    match b.next with
    | some (x, b') => r.1 = .char x ∧ At k (n - 1) b' r.2
    | none => r.1 = .ended ∧ At k 0 b r.2 ∧ r.2.1.ended = true ∧ r.2.1.ahead = []

section Sound
include hk

theorem next_ahead_at (h : Facing k (n + 1) b (l, s)) {x : Char} {tail : List Char}
    (ha : l.ahead = x :: tail) (hone : k.single = true → tail = []) :
    Answers k (n + 1) b l (next (n + 1) (l, s)) := by
  obtain ⟨more, hmore⟩ := h.ahead_prefix hk
  have hleft : b.left = x :: (tail ++ more) := by rw [← hmore, ha]; rfl
  generalize tail ++ more = rest at hleft
  have hfill : fill (n + 1) (l, s) = (none, l, s) := by simp [fill, ha]
  -- most characters are read by themselves
  have hplain : ∀ (l' : Lines) (m : Translation), l'.ahead = tail → l'.mode = m →
      l'.ended = l.ended → At k n (b.pass 1 m false) (l', s) := by
    intro l' m ha' hm' he'
    refine h.pass_one (by rw [ha, ha']) hleft he' hm' fun h1 => ?_
    simp [ha', hone h1]
  have hreturn : x = '\r' →
      Facing k (n + 1) b ({ { l with ahead := tail } with ahead := '\r' :: tail }, s) := by
    rintro rfl
    rwa [← ha]
  have hm := h.mode
  dsimp only at hm
  unfold Answers
  simp only [next, hfill, ha, mode_with_ahead]
  split
  · rename_i hmode
    rw [b.next_cr hleft (hm.symm.trans hmode)]
    exact ⟨⟨rfl, rfl⟩, rfl, hplain _ _ rfl hmode rfl⟩
  · rename_i hmode
    rw [b.next_crlf hleft (hm.symm.trans hmode)]
    obtain ⟨hkept, hread⟩ := afterReturn_at hk (turns_same .crlf '\n') (turns_same .crlf '\r')
      (l := { l with ahead := tail }) (hreturn rfl) hmode hleft hone
    refine ⟨⟨hkept.partialLine, hkept.translation⟩, ?_⟩
    split at hread
    · rw [if_pos ‹_›]
      exact hread
    · rw [if_neg ‹_›]
      exact hread
  · rename_i hmode
    rw [b.next_auto_newline hleft (hm.symm.trans hmode)]
    exact ⟨⟨rfl, rfl⟩, rfl,
      hplain _ _ rfl (mode_of_settled (l := { l with ahead := tail }) hmode .lf) rfl⟩
  · rename_i hmode
    rw [b.next_auto_return hleft (hm.symm.trans hmode)]
    obtain ⟨hkept, hread⟩ := afterReturn_at hk (turns_detected rfl '\n' .crlf)
      (turns_detected rfl '\n' .cr) (l := { l with ahead := tail }) (hreturn rfl) hmode hleft hone
    refine ⟨⟨hkept.partialLine, hkept.translation⟩, ?_⟩
    split at hread
    · rw [if_pos ‹_›]
      exact hread
    · rw [if_neg ‹_›]
      exact hread
  · rename_i hcr hcrlf hn hr
    rw [b.next_plain hleft (fun h => hcr (hm.trans h)) (fun h => hcrlf (hm.trans h))
      (fun h => hn (hm.trans h)) fun h => hr (hm.trans h)]
    exact ⟨⟨rfl, rfl⟩, rfl, hplain _ _ rfl hm rfl⟩

/-- The next character is that behind the bookmark, and the stage moves on with it. -/
theorem next_at (hone : k.single = true → n = 0) (h : At k (n + 1) b (l, s)) :
    Answers k (n + 1) b l (next (n + 1) (l, s)) := by
  rcases fill_cases (l := l) (s := s) hk n.succ_pos h.below h.ended with
    ⟨ha, -⟩ | ⟨us, s', ha, he, hf, hus, hlen, hp, hw⟩ | ⟨s', ha, hf, hp, he⟩
  · obtain ⟨x, tail, hx⟩ := List.exists_cons_of_ne_nil ha
    refine next_ahead_at hk h.toFacing hx fun h1 => ?_
    have hlen := h.peeked h1
    dsimp only at hlen
    rw [hx, List.length_cons] at hlen
    refine List.length_eq_zero_iff.1 ?_
    split at hlen <;> omega
  · obtain ⟨x, tail, rfl⟩ := List.exists_cons_of_ne_nil hus
    have hsame : next (n + 1) (l, s) = next (n + 1) ({ l with ahead := x :: tail }, s') := by
      have hf' : fill (n + 1) ({ l with ahead := x :: tail }, s') =
          (none, { l with ahead := x :: tail }, s') := rfl
      rw [next, next, hf, hf']
    have hface : Facing k (n + 1) b ({ l with ahead := x :: tail }, s') :=
      { below := hp
        text := h.text
        mode := h.mode
        ended := fun hn => by simp [he] at hn
        whole := hw }
    obtain ⟨hkept, hread⟩ := next_ahead_at hk hface rfl fun h1 => by
      rw [hone h1, List.length_cons] at hlen
      exact List.length_eq_zero_iff.1 (by omega)
    rw [hsame]
    exact ⟨⟨hkept.partialLine, hkept.translation⟩, hread⟩
  · have hface : Facing k 0 b ({ l with ended := true }, s') :=
      { below := by simpa [ha] using hp
        text := h.text
        mode := h.mode
        ended := fun _ => he
        whole := .inl (hk.ends hp he).2 }
    have hnext := b.next_eq_none.2 (hface.left_of_over hk he ha)
    unfold Answers
    simp only [next, hf, hnext]
    exact ⟨⟨rfl, rfl⟩, trivial, { hface with peeked := h.peeked }, trivial, ha⟩

end Sound

end Next

section Gather
include hk

/-- How a run for characters ends: it has all of them, or it would have to ask the source once more,
or the text is at its end. -/
theorem gather_at (hone : k.single = false) {s : Lines × σ} (some? : Bool) (h : At k n b s) :
    let r := gather n some? s
    ∃ b', b.Reads r.1.1 b' ∧ r.1.1.length ≤ n ∧ Kept s.1 r.2.1 ∧
      (r.1.2 = .served ∧ (r.1.1.length = n ∧ At k 0 b' r.2 ∨
          (some? = false → r.1.1 ≠ []) ∧ r.1.1.length < n ∧ At k 1 b' r.2) ∨
        some? = false ∧ r.1.2 = .ended ∧ r.1.1 = [] ∧ b'.left = [] ∧ At k 0 b' r.2 ∧
          r.2.1.ended = true ∧ r.2.1.ahead = []) := by
  induction n generalizing some? b s with
  | zero => exact ⟨b, .nil b, Nat.le_refl 0, .refl _, .inl ⟨rfl, .inl ⟨rfl, h⟩⟩⟩
  | succ n ih =>
    simp only [gather]
    by_cases hquit : (some? && s.1.ahead.isEmpty) = true
    · rw [if_pos hquit]
      obtain ⟨hsome, hnil⟩ := Bool.and_eq_true_iff.1 hquit
      refine ⟨b, .nil b, Nat.zero_le _, .refl _, .inl ⟨rfl, .inr ⟨by simp [hsome], n.succ_pos, ?_⟩⟩⟩
      exact { h with whole := .inr (by simp [List.isEmpty_iff.1 hnil]) }
    · rw [if_neg hquit]
      obtain ⟨l, s⟩ := s
      obtain ⟨hkept, hstep⟩ := next_at hk (by simp [hone]) h
      cases hb : b.next with
      | none =>
        rw [hb] at hstep
        obtain ⟨hq, hat, hend, hnil⟩ := hstep
        rcases hr : next (n + 1) (l, s) with ⟨a, s'⟩
        rw [hr] at hq hat hend hnil hkept
        obtain rfl : a = .ended := hq
        refine ⟨b, .nil b, Nat.zero_le _, hkept, ?_⟩
        cases some? with
        | true => exact .inl ⟨rfl, .inr ⟨by simp, n.succ_pos, hat.of_le (Nat.zero_le 1)⟩⟩
        | false => exact .inr ⟨rfl, rfl, rfl, b.next_eq_none.1 hb, hat, hend, hnil⟩
      | some q =>
        obtain ⟨x, b₁⟩ := q
        rw [hb] at hstep
        obtain ⟨hq, hat⟩ := hstep
        rcases hr : next (n + 1) (l, s) with ⟨a, s'⟩
        rw [hr] at hq hat hkept
        obtain rfl : a = .char x := hq
        obtain ⟨b', hreads, hlen, hkept', hend⟩ := ih true hat
        refine ⟨b', .cons hb hreads, Nat.succ_le_succ hlen, hkept.trans hkept', ?_⟩
        rcases hend with ⟨hserved, hall | ⟨-, hlt, hat'⟩⟩ | ⟨hsome, -⟩
        · exact .inl ⟨hserved, .inl ⟨congrArg (· + 1) hall.1, hall.2⟩⟩
        · exact .inl ⟨hserved, .inr ⟨by simp, Nat.succ_lt_succ hlt, hat'⟩⟩
        · exact absurd hsome (by decide)

/-- With nothing set aside a read for some characters is such a run. -/
theorem read_at (hone : k.single = false) {s : Lines × σ} (hn : 0 < n) (h : At k n b s)
    (hpart : s.1.partialLine = []) :
    let r := read n s
    ∃ b', b.Reads r.1.1 b' ∧ r.1.1.length ≤ n ∧ Kept s.1 r.2.1 ∧
      (r.1.2 = .served ∧ r.1.1 ≠ [] ∧
          (r.1.1.length = n ∧ At k 0 b' r.2 ∨ r.1.1.length < n ∧ At k 1 b' r.2) ∨
        r.1.2 = .ended ∧ r.1.1 = [] ∧ b'.left = [] ∧ At k 0 b' r.2 ∧ r.2.1.ended = true ∧
          r.2.1.ahead = []) := by
  obtain ⟨l, s⟩ := s
  have hsame : read n (l, s) = gather n false (l, s) := by
    have hl : { l with partialLine := [] } = l := by rw [← show l.partialLine = [] from hpart]
    simp [read, show l.partialLine = [] from hpart, hl]
  rw [hsame]
  obtain ⟨b', hreads, hlen, hkept, hend⟩ := gather_at hk hone false h
  refine ⟨b', hreads, hlen, hkept, ?_⟩
  rcases hend with ⟨hserved, ⟨hall, hat⟩ | ⟨hsome, hlt, hat⟩⟩ | ⟨-, hended⟩
  · refine .inl ⟨hserved, ?_, .inl ⟨hall, hat⟩⟩
    rintro hnil
    rw [hnil] at hall
    exact absurd hall (Nat.ne_of_lt hn)
  · exact .inl ⟨hserved, hsome rfl, .inr ⟨hlt, hat⟩⟩
  · exact .inr hended

theorem collectIn_at (hone : k.single = false) {piece : Nat} (hp : 0 < piece) (fuel : Nat)
    {wanted : Nat} (hw : wanted ≤ fuel) {s : Lines × σ} (h : At k (min wanted 1) b s)
    (hpart : s.1.partialLine = []) :
    let r := collectIn piece read fuel wanted s
    ∃ b', b.Reads r.1.1 b' ∧ r.1.1.length ≤ wanted ∧ Kept s.1 r.2.1 ∧ At k 0 b' r.2 ∧
      (r.1.2 = .served ∧ r.1.1.length = wanted ∨
        r.1.2 = .ended ∧ b'.left = [] ∧ r.2.1.ended = true ∧ r.2.1.ahead = []) := by
  induction fuel generalizing wanted b s with
  | zero =>
    obtain rfl : wanted = 0 := Nat.le_zero.1 hw
    exact ⟨b, .nil b, Nat.le_refl 0, .refl _, h, .inl ⟨rfl, rfl⟩⟩
  | succ fuel ih =>
    simp only [collectIn]
    by_cases h0 : wanted = 0
    · subst h0
      rw [if_pos rfl]
      exact ⟨b, .nil b, Nat.le_refl 0, .refl _, h, .inl ⟨rfl, rfl⟩⟩
    · rw [if_neg h0]
      have hmin : 0 < min wanted piece := by omega
      obtain ⟨b₁, hreads, hlen, hkept, hend⟩ :=
        read_at hk hone hmin (h.of_le (show min wanted 1 ≤ min wanted piece by omega)) hpart
      rcases hq : read (min wanted piece) s with ⟨⟨us, halt⟩, s'⟩
      rw [hq] at hreads hlen hkept hend
      dsimp only at hreads hlen hkept hend
      rcases hend with ⟨rfl, hsome, hat⟩ | ⟨rfl, rfl, hnil, hat, hended, hahead⟩
      · have hpos := List.length_pos_iff.2 hsome
        -- either this was the last piece, or nothing is ahead
        have hat' : At k (min (wanted - us.length) 1) b₁ s' := by
          rcases hat with ⟨-, hat⟩ | ⟨hlt, hat⟩
          · exact hat.of_le (Nat.zero_le _)
          · rwa [Nat.min_eq_right (by omega)]
        obtain ⟨b', hreads', hlen', hkept', hat'', hend⟩ :=
          ih (by omega) hat' (hkept.partialLine.trans hpart)
        refine ⟨b', hreads.append hreads', ?_, hkept.trans hkept', hat'', ?_⟩
        · rw [List.length_append]
          omega
        · refine hend.imp_left fun hserved => ⟨hserved.1, ?_⟩
          rw [List.length_append]
          omega
      · exact ⟨b₁, hreads, Nat.zero_le _, hkept, hat, .inr ⟨rfl, hnil, hended, hahead⟩⟩

/-- A run of pieces brings the characters that the bookmark reads, and ends with nothing half
done. -/
theorem collect_at (hone : k.single = false) {piece : Nat} (hp : 0 < piece) (wanted : Nat)
    {s : Lines × σ} (h : At k 0 b s) (hpart : s.1.partialLine = []) :
    let r := collect piece read wanted s
    r.1.1 = (b.chars wanted).1 ∧ Kept s.1 r.2.1 ∧ At k 0 (b.chars wanted).2 r.2 ∧
      (r.1.2 = .served ∧ r.1.1.length = wanted ∨
        r.1.2 = .ended ∧ (b.chars wanted).2.left = [] ∧ r.2.1.ended = true ∧ r.2.1.ahead = []) := by
  obtain ⟨b', hreads, hlen, hkept, hat, hend⟩ :=
    collectIn_at hk hone hp wanted (Nat.le_refl _) (h.of_le (Nat.zero_le _)) hpart
  have hchars := hreads.chars_eq hlen (hend.imp And.right fun he => he.2.1)
  unfold collect
  rw [hchars]
  exact ⟨rfl, hkept, hat, hend⟩

end Gather

section Line
include hk

/-- The end of the line is met where the bookmark meets it, unless the reader runs out of fuel. -/
theorem untilNewline_at (blocking : Bool) (fuel : Nat) {s : Lines × σ} (h : At k 1 b s)
    {bound : Nat} (hbound : b.left.length ≤ bound) :
    let r := untilNewline blocking fuel s
    let line := b.upToNewline bound
    r.1.2 = .wouldBlock ∨
      r.1.1 = line.1.1 ∧ Kept s.1 r.2.1 ∧ At k 0 line.2 r.2 ∧
        (line.1.2 = true ∧ r.1.2 = .newline ∨
          line.1.2 = false ∧ r.1.2 = .ended ∧ line.2.left = [] ∧ r.2.1.ended = true ∧
            r.2.1.ahead = []) := by
  induction fuel generalizing b s bound with
  | zero => exact .inl rfl
  | succ fuel ih =>
    simp only [untilNewline]
    obtain ⟨l, s⟩ := s
    obtain ⟨hkept, hstep⟩ := next_at hk (fun _ => rfl) h
    cases hb : b.next with
    | none =>
      rw [hb] at hstep
      obtain ⟨hq, hat, hend, hnil⟩ := hstep
      rcases hr : next 1 (l, s) with ⟨a, s'⟩
      rw [hr] at hq hat hend hnil hkept
      obtain rfl : a = .ended := hq
      have hline : b.upToNewline bound = (([], false), b) := by
        cases bound <;> simp [Bookmark.upToNewline, hb]
      rw [hline]
      exact .inr ⟨rfl, hkept, hat, .inr ⟨rfl, rfl, b.next_eq_none.1 hb, hend, hnil⟩⟩
    | some q =>
      obtain ⟨x, b₁⟩ := q
      rw [hb] at hstep
      obtain ⟨hq, hat⟩ := hstep
      rcases hr : next 1 (l, s) with ⟨a, s'⟩
      rw [hr] at hq hat hkept
      obtain rfl : a = .char x := hq
      have hless := b.length_left_next hb
      obtain ⟨bound, rfl⟩ := Nat.exists_eq_succ_of_ne_zero (show bound ≠ 0 by omega)
      simp only [Bookmark.upToNewline, hb]
      by_cases hx : x = '\n'
      · simp only [hx, if_true]
        exact .inr ⟨trivial, hkept, hat, .inl ⟨trivial, trivial⟩⟩
      · simp only [hx, if_false]
        refine (ih (hat.of_le (Nat.zero_le 1)) (show b₁.left.length ≤ bound by omega)).imp_right ?_
        rintro ⟨hus, hkept', hat', hend⟩
        exact ⟨congrArg (x :: ·) hus, hkept.trans hkept', hat', hend⟩

/-- A reader who waits gets the line behind the bookmark, with what was set aside in front. Without
an ending it is the last of the text, and if there is nothing in it the text has ended. -/
theorem readLine_at [CharStream σ] {s : Lines × σ} (h : At k 1 b.gathered s)
    (hpart : s.1.partialLine = b.aside) :
    let r := readLine true s
    let line := b.line
    r.2.1.partialLine = [] ∧ r.2.1.translation = s.1.translation ∧ At k 0 line.2 r.2 ∧
      (line.1.2 = true ∨ line.1.1 ≠ [] → r.1 = .line line.1.1) ∧
      (line.1.2 = false → line.2.left = [] ∧ r.2.1.ended = true ∧ r.2.1.ahead = [] ∧
        (line.1.1 = [] → r.1 = .ended)) := by
  obtain ⟨-, -, -, hpatient⟩ := untilNewline_ends true (budget s + 2) s
  have hview := length_view_le s
  have hbound : b.gathered.left.length ≤ b.left.length := Nat.le_refl _
  rcases untilNewline_at hk true (budget s + 2) h hbound with hstop | ⟨hus, hkept, hat, hend⟩
  · exact absurd (hpatient (by omega) hstop) (by decide)
  · simp only [readLine, Bookmark.line]
    rcases hq : untilNewline true (budget s + 2) s with ⟨⟨cs, stop⟩, l, s'⟩
    rw [hq] at hus hkept hat hend
    dsimp only at hus hkept hat hend
    have hpart' : l.partialLine = b.aside := hkept.partialLine.trans hpart
    have hdone : At k 0 (b.gathered.upToNewline b.left.length).2 ({ l with partialLine := [] }, s') :=
      ⟨⟨hat.below, hat.text, hat.mode, hat.ended, hat.whole⟩, hat.peeked⟩
    rw [← hus, hpart']
    rcases hend with ⟨hmet, rfl⟩ | ⟨hmet, rfl, hleft, hended, hahead⟩
    · exact ⟨rfl, hkept.translation, hdone, fun _ => rfl, fun hn => by simp [hmet] at hn⟩
    · by_cases hline : b.aside ++ cs = []
      · have hempty : (b.aside ++ cs).isEmpty = true := List.isEmpty_iff.2 hline
        simp only [hempty, if_true]
        refine ⟨?_, hkept.translation, hat, fun hn => ?_, fun _ => ⟨hleft, hended, hahead, fun _ => trivial⟩⟩
        · rw [hpart', (List.append_eq_nil_iff.1 hline).1]
        · simp [hmet, hline] at hn
      · have hsome : (b.aside ++ cs).isEmpty = false := by simpa using hline
        simp only [hsome, Bool.false_eq_true, if_false]
        exact ⟨trivial, hkept.translation, hdone, fun _ => trivial,
          fun _ => ⟨hleft, hended, hahead, fun hn => absurd hn hline⟩⟩

end Line

end ScriptChannel.Input.Lines
