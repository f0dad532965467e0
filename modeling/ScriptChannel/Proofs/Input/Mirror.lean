import ScriptChannel.Input.Chain
import ScriptChannel.Proofs.Input.Lines

/-!
# One device in place of another

If a device does what another does, whatever is put upon the one does what it would do upon the
other: every stage of the input side hands the likeness on.
-/

namespace ScriptChannel

section Repeat
variable {α σ τ : Type} {f : σ → τ}

theorem retry_mirror {attempt : σ → α × σ} {attempt' : τ → α × τ}
    (h : ∀ s, attempt' (f s) = Prod.map id f (attempt s)) (again : α → Bool) (n : Nat)
    (r : α × σ) :
    retry again attempt' n (Prod.map id f r) = Prod.map id f (retry again attempt n r) := by
  induction n generalizing r with
  | zero => rfl
  | succ n ih =>
    simp only [retry, Prod.map_fst, Prod.map_snd, id, h]
    split
    · exact ih _
    · rfl

theorem persist_mirror {attempt : σ → α × σ} {attempt' : τ → α × τ}
    (h : ∀ s, attempt' (f s) = Prod.map id f (attempt s)) {budget : σ → Nat} {budget' : τ → Nat}
    (hbudget : ∀ s, budget' (f s) = budget s) (again : α → Bool) (s : σ) :
    persist again budget' attempt' (f s) = Prod.map id f (persist again budget attempt s) := by
  simp only [persist, h, retry_mirror h, Prod.map_fst, Prod.map_snd, id, hbudget]
  split <;> rfl

theorem collectIn_mirror {piece : Nat} {fetch : Nat → σ → (List α × Halt) × σ}
    {fetch' : Nat → τ → (List α × Halt) × τ}
    (h : ∀ n s, fetch' n (f s) = Prod.map id f (fetch n s)) (fuel wanted : Nat) (s : σ) :
    collectIn piece fetch' fuel wanted (f s) =
      Prod.map id f (collectIn piece fetch fuel wanted s) := by
  induction fuel generalizing wanted s with
  | zero => rfl
  | succ fuel ih =>
    simp only [collectIn]
    by_cases hw : wanted = 0
    · rw [if_pos hw, if_pos hw]
      rfl
    · rw [if_neg hw, if_neg hw, h]
      rcases fetch (min wanted piece) s with ⟨⟨us, halt⟩, s'⟩
      cases halt with
      | served =>
        simp only [Prod.map_apply, id, ih]
        rfl
      | wouldBlock | ended | failed => rfl

theorem collect_mirror {piece : Nat} {fetch : Nat → σ → (List α × Halt) × σ}
    {fetch' : Nat → τ → (List α × Halt) × τ}
    (h : ∀ n s, fetch' n (f s) = Prod.map id f (fetch n s)) (wanted : Nat) (s : σ) :
    collect piece fetch' wanted (f s) = Prod.map id f (collect piece fetch wanted s) :=
  collectIn_mirror h wanted wanted s

end Repeat

/-- Reading the image of a device is reading the device. -/
structure RawReader.Mirrors {δ ε : Type} [RawReader δ] [RawReader ε] (f : δ → ε) : Prop where
  read (n : Nat) (d : δ) : RawReader.read n (f d) = Prod.map id f (RawReader.read n d)
  budget (d : δ) : RawReader.budget (f d) = RawReader.budget d

/-- Asking the image of a source is asking the source. -/
structure ByteSource.Mirrors {σ τ : Type} [ByteSource σ] [ByteSource τ] (f : σ → τ) : Prop where
  fetch (n : Nat) (s : σ) : ByteSource.fetch n (f s) = Prod.map id f (ByteSource.fetch n s)
  budget (s : σ) : ByteSource.budget (f s) = ByteSource.budget s

structure CharSource.Mirrors {σ τ : Type} [CharSource σ] [CharSource τ] (f : σ → τ) : Prop where
  fetch (n : Nat) (s : σ) : CharSource.fetch n (f s) = Prod.map id f (CharSource.fetch n s)
  budget (s : σ) : CharSource.budget (f s) = CharSource.budget s

theorem ByteSource.Mirrors.run {σ τ : Type} [ByteSource σ] [ByteSource τ] {f : σ → τ}
    (h : Mirrors f) (n : Nat) (s : σ) :
    ByteSource.run n (f s) = Prod.map id f (ByteSource.run n s) := by
  simp only [ByteSource.run, h.fetch]
  rfl

namespace Input

/-- A stage in front of the image of what it is put upon. -/
def onto {ρ σ τ : Type} (f : σ → τ) (s : ρ × σ) : ρ × τ := (s.1, f s.2)

namespace Cutoff
variable {δ ε : Type} [RawReader δ] [RawReader ε] {f : δ → ε}

theorem mirrors (h : RawReader.Mirrors f) :
    ByteSource.Mirrors (onto f : Cutoff × δ → Cutoff × ε) where
  fetch n s := by
    obtain ⟨c, d⟩ := s
    have htake : take n (c, f d) = Prod.map id (onto f) (take n (c, d)) := by
      simp only [take, persist_mirror (h.read n) h.budget]
      split <;> rfl
    change fetch n (c, f d) = Prod.map id (onto f) (fetch n (c, d))
    simp only [fetch, htake]
    split
    · rfl
    split
    · rfl
    rcases take n (c, d) with ⟨bs | _ | _ | e, c', d'⟩ <;> rfl
  budget s := congrArg (s.1.held.length + ·) (h.budget s.2)

end Cutoff

namespace ReadAhead
variable {σ τ : Type} [ByteSource σ] [ByteSource τ] {f : σ → τ}

theorem ask_mirror (h : ByteSource.Mirrors f) (n : Nat) (b : ReadAhead) (s : σ) :
    ask n (b, f s) = Prod.map id (onto f) (ask n (b, s)) := by
  simp only [ask, persist_mirror (h.fetch n) h.budget]
  generalize persist _ _ _ s = r
  rcases r with ⟨us | _ | _ | e, s'⟩ <;> rfl

theorem mirrors (h : ByteSource.Mirrors f) :
    ByteSource.Mirrors (onto f : ReadAhead × σ → ReadAhead × τ) where
  fetch n s := by
    obtain ⟨b, s⟩ := s
    change fetch n (b, f s) = Prod.map id (onto f) (fetch n (b, s))
    simp only [fetch, ask_mirror h]
    split
    · rfl
    split
    · rfl
    split
    · rfl
    split
    · rfl
    rcases ask (max b.size 1) (b, s) with ⟨us | _ | _ | e, b', s'⟩ <;> rfl
  budget s := congrArg (s.1.cache.length + ·) (h.budget s.2)

end ReadAhead

namespace Rewind
variable {σ τ : Type} [ByteSource σ] [ByteSource τ] {f : σ → τ}

theorem mirrors (h : ByteSource.Mirrors f) :
    ByteSource.Mirrors (onto f : Rewind × σ → Rewind × τ) where
  fetch n s := by
    obtain ⟨r, s⟩ := s
    change fetch n (r, f s) = Prod.map id (onto f) (fetch n (r, s))
    simp only [fetch, h.fetch]
    split
    · rfl
    split <;> rfl
  budget s := congrArg (s.1.ahead.length + ·) (h.budget s.2)

end Rewind

namespace Decoding
variable {σ τ : Type} [ByteSource σ] [ByteSource τ] {f : σ → τ} (h : ByteSource.Mirrors f)
include h

theorem skipMark_mirror (d : Decoding) (r : Rewind) (s : σ) :
    skipMark (d, r, f s) = Prod.map id (onto (onto f)) (skipMark (d, r, s)) := by
  have hrun : collect markLength ByteSource.run markLength (r.mark markLength, f s) =
      Prod.map id (onto f) (collect markLength ByteSource.run markLength (r.mark markLength, s)) :=
    collect_mirror (Rewind.mirrors h).run markLength (r.mark markLength, s)
  have hskip : ∀ n (r : Rewind) (s : σ),
      Rewind.fetch n (r, f s) = Prod.map id (onto f) (Rewind.fetch n (r, s)) :=
    fun n r s => (Rewind.mirrors h).fetch n (r, s)
  simp only [skipMark, hrun]
  cases d.encoding.markedCharset? with
  | none => rfl
  | some expected =>
    dsimp only
    generalize collect markLength ByteSource.run markLength (r.mark markLength, s) = found
    rcases found with ⟨⟨bs, halt⟩, r', s'⟩
    cases halt with
    | failed e => rfl
    | served | wouldBlock | ended =>
      simp only [Prod.map_apply, id, onto]
      rcases r'.reset with ⟨e | _, r''⟩
      · rfl
      dsimp only
      split
      · rfl
      split
      · rw [hskip]
        rcases Rewind.fetch (expected.mark?.getD []).length (r'', s') with
          ⟨us | _ | _ | e, r₃, s₃⟩ <;> rfl
      · rfl

theorem fetchBytes_mirror (n : Nat) (s : Decoding × Rewind × σ) :
    fetchBytes n (onto (onto f) s) = Prod.map id (onto (onto f)) (fetchBytes n s) := by
  obtain ⟨d, s⟩ := s
  change fetchBytes n (d, onto f s) = _
  simp only [fetchBytes, (Rewind.mirrors h).fetch]
  rcases ByteSource.fetch (min n maxChunk) s with ⟨us | _ | _ | e, s'⟩ <;> rfl

theorem advance_mirror (n : Nat) (s : Decoding × Rewind × σ) :
    advance n (onto (onto f) s) = Prod.map id (onto (onto f)) (advance n s) := by
  obtain ⟨d, s⟩ := s
  change advance n (d, onto f s) = _
  simp only [advance, (Rewind.mirrors h).fetch]
  rcases ByteSource.fetch (d.bytesFor n) s with ⟨us | _ | _ | e, s'⟩ <;> rfl

theorem fetchPlain_mirror (n : Nat) (s : Decoding × Rewind × σ) :
    fetchPlain n (onto (onto f) s) = Prod.map id (onto (onto f)) (fetchPlain n s) := by
  have htext : fetchText n (onto (onto f) s) = Prod.map id (onto (onto f)) (fetchText n s) := by
    have hpersist : persist Option.isNone (fun s => ByteSource.budget s.2) (advance n)
        (onto (onto f) s) = Prod.map id (onto (onto f))
          (persist Option.isNone (fun s => ByteSource.budget s.2) (advance n) s) :=
      persist_mirror (advance_mirror h n) (fun s => (Rewind.mirrors h).budget s.2) Option.isNone s
    simp only [fetchText, hpersist]
    rfl
  have hsame : (onto (onto f) s).1.encoding = s.1.encoding := rfl
  simp only [fetchPlain, hsame, htext, fetchBytes_mirror h]
  split <;> rfl

theorem mirrors :
    CharSource.Mirrors (onto (onto f) : Decoding × Rewind × σ → Decoding × Rewind × τ) where
  fetch n s := by
    have hplain := fetchPlain_mirror h n
    obtain ⟨d, r, s⟩ := s
    change fetch n (d, r, f s) = Prod.map id (onto (onto f)) (fetch n (d, r, s))
    simp only [fetch, skipMark_mirror h]
    split
    · rfl
    split
    · rfl
    split
    · rfl
    split
    · rcases skipMark (d, r, s) with ⟨_ | why, s'⟩
      · exact hplain s'
      · rfl
    · exact hplain (d, r, s)
  budget s := congrArg (s.1.surplus.length + s.1.pending + ·) ((Rewind.mirrors h).budget s.2)

end Decoding

namespace Lines
variable {σ τ : Type} [CharSource σ] [CharSource τ]

/-- The same answer, with the same noted by the stage; the sources are alike. -/
structure Matched {α : Type} (R : σ → τ → Prop) (r : α × Lines × σ) (r' : α × Lines × τ) :
    Prop where
  answer : r'.1 = r.1
  lines : r'.2.1 = r.2.1
  source : R r.2.2 r'.2.2

section Matched
variable {R : σ → τ → Prop}

theorem fill_matched {n : Nat} (h : ∀ s t, R s t →
      (CharSource.fetch (max n 1) t).1 = (CharSource.fetch (max n 1) s).1 ∧
        R (CharSource.fetch (max n 1) s).2 (CharSource.fetch (max n 1) t).2)
    (l : Lines) {s : σ} {t : τ} (hst : R s t) : Matched R (fill n (l, s)) (fill n (l, t)) := by
  obtain ⟨hsame, hthen⟩ := h s t hst
  simp only [fill]
  split
  · exact ⟨rfl, rfl, hst⟩
  split
  · exact ⟨rfl, rfl, hst⟩
  rcases hs : CharSource.fetch (max n 1) s with ⟨answer, s'⟩
  rcases ht : CharSource.fetch (max n 1) t with ⟨answer', t'⟩
  rw [hs, ht] at hsame hthen
  obtain rfl : answer' = answer := hsame
  rcases answer' with (_ | ⟨c, cs⟩) | _ | _ | e <;> exact ⟨rfl, rfl, hthen⟩

variable (h : ∀ s t, R s t → (CharSource.fetch 1 t).1 = (CharSource.fetch 1 s).1 ∧
  R (CharSource.fetch 1 s).2 (CharSource.fetch 1 t).2)
include h

theorem afterReturn_matched (pair lone : Lines → Next × Lines) (l : Lines) {s : σ} {t : τ}
    (hst : R s t) : Matched R (afterReturn pair lone (l, s)) (afterReturn pair lone (l, t)) := by
  have hfill := fill_matched (n := 1) h l hst
  simp only [afterReturn]
  rcases hs : fill 1 (l, s) with ⟨why, l₁, s₁⟩
  rcases ht : fill 1 (l, t) with ⟨why', l₂, t₁⟩
  rw [hs, ht] at hfill
  obtain ⟨hwhy, hl, hthen⟩ := hfill
  obtain rfl : why' = why := hwhy
  obtain rfl : l₂ = l₁ := hl
  rcases why' with _ | _ | _ | _ | e <;> exact ⟨rfl, rfl, hthen⟩

theorem next_matched {n : Nat} (hn : ∀ s t, R s t →
      (CharSource.fetch (max n 1) t).1 = (CharSource.fetch (max n 1) s).1 ∧
        R (CharSource.fetch (max n 1) s).2 (CharSource.fetch (max n 1) t).2)
    (l : Lines) {s : σ} {t : τ} (hst : R s t) : Matched R (next n (l, s)) (next n (l, t)) := by
  have hfill := fill_matched hn l hst
  simp only [next]
  rcases hs : fill n (l, s) with ⟨why, l₁, s₁⟩
  rcases ht : fill n (l, t) with ⟨why', l₂, t₁⟩
  rw [hs, ht] at hfill
  obtain ⟨hwhy, hl, hthen⟩ := hfill
  obtain rfl : why' = why := hwhy
  obtain rfl : l₂ = l₁ := hl
  dsimp only at hthen ⊢
  cases why' with
  | some why => exact ⟨rfl, rfl, hthen⟩
  | none =>
    dsimp only
    cases l₂.ahead with
    | nil => exact ⟨rfl, rfl, hthen⟩
    | cons c cs =>
      dsimp only
      split
      · exact ⟨rfl, rfl, hthen⟩
      · exact afterReturn_matched h _ _ _ hthen
      · exact ⟨rfl, rfl, hthen⟩
      · exact afterReturn_matched h _ _ _ hthen
      · exact ⟨rfl, rfl, hthen⟩

/-- To read up to the end of a line it is enough that the sources match unit by unit. -/
theorem untilNewline_matched (blocking : Bool) (fuel : Nat) (l : Lines) {s : σ} {t : τ}
    (hst : R s t) :
    Matched R (untilNewline blocking fuel (l, s)) (untilNewline blocking fuel (l, t)) := by
  induction fuel generalizing l s t with
  | zero => exact ⟨rfl, rfl, hst⟩
  | succ fuel ih =>
    have hnext := next_matched (n := 1) h h l hst
    simp only [untilNewline]
    rcases hs : next 1 (l, s) with ⟨answer, l₁, s₁⟩
    rcases ht : next 1 (l, t) with ⟨answer', l₂, t₁⟩
    rw [hs, ht] at hnext
    obtain ⟨hanswer, hl, hthen⟩ := hnext
    obtain rfl : answer' = answer := hanswer
    obtain rfl : l₂ = l₁ := hl
    dsimp only at hthen
    obtain ⟨hrun, hlines, hsource⟩ := ih l₂ hthen
    cases answer' with
    | char c =>
      dsimp only
      split
      · exact ⟨rfl, rfl, hthen⟩
      · exact ⟨by dsimp only; rw [hrun], hlines, hsource⟩
    | wouldBlock =>
      dsimp only
      split
      · exact ⟨hrun, hlines, hsource⟩
      · exact ⟨rfl, rfl, hthen⟩
    | ended => exact ⟨rfl, rfl, hthen⟩
    | failed e => exact ⟨rfl, rfl, hthen⟩

omit [CharSource σ] [CharSource τ] h in
theorem Matched.conclude {r : (List Char × Stop) × Lines × σ} {r' : (List Char × Stop) × Lines × τ}
    (hr : Matched R r r') : Matched R (Lines.conclude r) (Lines.conclude r') := by
  obtain ⟨⟨cs, stop⟩, l, s⟩ := r
  obtain ⟨⟨cs', stop'⟩, l', t⟩ := r'
  obtain ⟨hanswer, hl, hsource⟩ := hr
  obtain ⟨rfl, rfl⟩ := Prod.mk.inj hanswer
  obtain rfl : l' = l := hl
  simp only [Lines.conclude]
  cases stop' with
  | ended =>
    dsimp only
    split <;> exact ⟨rfl, rfl, hsource⟩
  | newline | wouldBlock | failed => exact ⟨rfl, rfl, hsource⟩

end Matched

variable {f : σ → τ}

omit [CharSource σ] [CharSource τ] in
/-- What matches the image is the image. -/
theorem Matched.eq_map {α : Type} {r : α × Lines × σ} {r' : α × Lines × τ}
    (hr : Matched (fun s t => t = f s) r r') : r' = Prod.map id (onto f) r :=
  Prod.ext hr.answer (Prod.ext hr.lines hr.source)

variable (h : CharSource.Mirrors f)
include h

theorem fetch_of_mirrors (n : Nat) (s : σ) (t : τ) (hst : t = f s) :
    (CharSource.fetch n t).1 = (CharSource.fetch n s).1 ∧
      (CharSource.fetch n t).2 = f (CharSource.fetch n s).2 := by
  rw [hst, h.fetch]
  exact ⟨rfl, rfl⟩

theorem next_mirror (n : Nat) (s : Lines × σ) :
    next n (onto f s) = Prod.map id (onto f) (next n s) :=
  (next_matched (fetch_of_mirrors h 1) (fetch_of_mirrors h (max n 1)) s.1 rfl).eq_map

theorem gather_mirror (n : Nat) (some? : Bool) (s : Lines × σ) :
    gather n some? (onto f s) = Prod.map id (onto f) (gather n some? s) := by
  induction n generalizing some? s with
  | zero => rfl
  | succ n ih =>
    have hahead : (onto f s).1.ahead.isEmpty = s.1.ahead.isEmpty := rfl
    simp only [gather, next_mirror h, hahead]
    split
    · rfl
    · rcases next (n + 1) s with ⟨c | _ | _ | e, s'⟩
      · simp only [Prod.map_apply, id, ih]
        rfl
      all_goals rfl

theorem read_mirror (n : Nat) (s : Lines × σ) :
    read n (onto f s) = Prod.map id (onto f) (read n s) := by
  obtain ⟨l, s⟩ := s
  have hgather := gather_mirror h (n - (l.partialLine.take n).length)
    (!(l.partialLine.take n).isEmpty) ({ l with partialLine := l.partialLine.drop n }, s)
  change read n (l, f s) = _
  simp only [read]
  exact (congrArg (fun r => ((l.partialLine.take n ++ r.1.1, r.1.2), r.2)) hgather)

theorem readLine_mirror (blocking : Bool) (s : Lines × σ) :
    readLine blocking (onto f s) = Prod.map id (onto f) (readLine blocking s) := by
  have hbudget : budget (onto f s) = budget s :=
    congrArg (s.1.ahead.length + ·) (h.budget s.2)
  rw [readLine_eq, readLine_eq, hbudget]
  exact (untilNewline_matched (fetch_of_mirrors h 1) blocking _ s.1 rfl).conclude.eq_map

end Lines

namespace Chain
variable {δ ε : Type} [RawReader δ] [RawReader ε] {f : δ → ε} (h : RawReader.Mirrors f)
include h

theorem lower_mirrors :
    ByteSource.Mirrors (onto (onto f) : ReadAhead × Cutoff × δ → ReadAhead × Cutoff × ε) :=
  ReadAhead.mirrors (Cutoff.mirrors h)

theorem readText_mirror (n : Nat) (c : Chain) (d : δ) :
    c.readText n (f d) = Prod.map id (onto f) (c.readText n d) := by
  have hread := Lines.read_mirror (Decoding.mirrors (lower_mirrors h))
  have hrun : collect piece Lines.read n (c.whole (f d)) = Prod.map id _ _ :=
    collect_mirror hread n (c.whole d)
  simp only [readText, hrun]
  rfl

theorem readBytes_mirror (n : Nat) (c : Chain) (d : δ) :
    c.readBytes n (f d) = Prod.map id (onto f) (c.readBytes n d) := by
  have hrun : ∀ n, collect piece ByteSource.run n (c.lower (f d)) = Prod.map id _ _ :=
    fun n => collect_mirror (Rewind.mirrors (lower_mirrors h)).run n (c.lower d)
  simp only [readBytes, hrun]
  rfl

theorem readLine_mirror (blocking : Bool) (c : Chain) (d : δ) :
    c.readLine blocking (f d) = Prod.map id (onto f) (c.readLine blocking d) := by
  have hline : Lines.readLine blocking (c.whole (f d)) = Prod.map id _ _ :=
    Lines.readLine_mirror (Decoding.mirrors (lower_mirrors h)) blocking (c.whole d)
  simp only [readLine, hline]
  rfl

end Chain

end Input

end ScriptChannel
