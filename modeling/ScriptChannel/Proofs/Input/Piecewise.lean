import ScriptChannel.Proofs.Charset.Whole
import ScriptChannel.Proofs.Input.Account

/-!
# Decoding piece by piece

How a stream of bytes is cut, where it is held up and how many characters are asked for at a time make
no difference to the text. What has been handed up is the beginning of the text that the bytes have as
a whole, a byte order mark left out, and what is still to come is the rest of it. An end is answered
when nothing is left, and then again and again, without a look at what is below.
-/

namespace ScriptChannel.Input.Decoding

section Source
variable {σ : Type} [ByteSource σ]

/-- Where it is over nothing is asked of what is below, whatever that is. -/
theorem fetch_of_over {d : Decoding} {s : Rewind × σ} (h : Over (d, s)) {n : Nat} (hn : 0 < n)
    (t : Rewind × σ) : fetch n (d, t) = (.ended, d, t) := by
  obtain ⟨hfinished, hsurplus⟩ : d.finished = true ∧ d.surplus = [] := h
  simp [fetch, Nat.ne_of_gt hn, hfinished, hsurplus]

theorem fetchBytes_over {d : Decoding} (hw : d.Waiting) (n : Nat) (s : Rewind × σ)
    (h : (fetchBytes n (d, s)).1 = .ended) : Over (fetchBytes n (d, s)).2 := by
  simp only [fetchBytes] at h ⊢
  rcases hf : ByteSource.fetch (min n maxChunk) s with ⟨us | _ | _ | e, s'⟩
  all_goals rw [hf] at h
  · cases h
  · cases h
  · exact ⟨rfl, hw.1⟩
  · cases h

end Source

section Stream
variable {σ : Type} [ByteSource σ] [ByteStream σ]

theorem fetchPlain_over {d : Decoding} (hw : d.Waiting) {n : Nat} (hn : 0 < n) (s : Rewind × σ)
    (h : (fetchPlain n (d, s)).1 = .ended) : Over (fetchPlain n (d, s)).2 := by
  unfold fetchPlain at h ⊢
  cases he : d.encoding with
  | binary | latin1 =>
    simp only [he] at h ⊢
    exact fetchBytes_over hw n s h
  | charset c =>
    simp only [he] at h ⊢
    obtain ⟨d', s', f, hlast, hf, -, hw', -⟩ := fetchText_settles hn he hw s
    rw [hf] at h
    subst h
    simp only [advance] at hlast
    rcases hq : ByteSource.fetch (d'.bytesFor n) s' with ⟨us | _ | _ | e, s''⟩
    all_goals
      rw [hq] at hlast
      simp only [Prod.mk.injEq] at hlast
    · exact absurd hlast.1 (by split <;> simp)
    · exact absurd hlast.1 (by simp)
    · rw [← hlast.2]
      by_cases hnone : (d'.finish n).1 = []
      · exact finish_over hw' hn hnone s''
      · exact absurd hlast.1 (by simp [hnone])
    · exact absurd hlast.1 (by simp)

/-- An end is answered when the decoder is finished and has handed up all that it made. -/
theorem over_of_ended {n : Nat} (hn : 0 < n) (s : Decoding × Rewind × σ)
    (h : (fetch n s).1 = .ended) : Over (fetch n s).2 := by
  obtain ⟨d, s⟩ := s
  simp only [fetch, if_neg (Nat.ne_of_gt hn)] at h ⊢
  by_cases hs : d.surplus = []
  · by_cases hf : d.finished = true
    · simp only [hs, hf, List.isEmpty_nil, Bool.not_true, Bool.false_eq_true, if_false, if_true]
      exact ⟨hf, hs⟩
    have hw : d.Waiting := ⟨hs, Bool.eq_false_iff.2 hf⟩
    simp only [hs, hf, List.isEmpty_nil, Bool.not_true, Bool.false_eq_true, if_false] at h ⊢
    by_cases ha : d.atStart = true
    · simp only [if_pos ha] at h ⊢
      have hnoend := (skipMark_keeps (d, s)).2
      have hwaiting : (skipMark (d, s)).2.1.Waiting :=
        ⟨(skipMark_surplus (d, s)).trans hw.1, (skipMark_finished (d, s)).trans hw.2⟩
      rcases hq : skipMark (d, s) with ⟨_ | f, d', s'⟩
      all_goals rw [hq] at h hnoend hwaiting
      · exact fetchPlain_over hwaiting hn s' h
      · exact absurd (congrArg some h) hnoend
    · simp only [if_neg ha] at h ⊢
      exact fetchPlain_over hw hn s h
  · have hs' : d.surplus.isEmpty = false := by simpa using hs
    simp [hs'] at h

variable [Settled σ]

/-- A fetch takes the characters that it brings off the front of those to come. -/
theorem units_fetch {n : Nat} (hn : 0 < n) (s : Decoding × Rewind × σ) :
    (coming s).units = (fetch n s).1.units ++ (coming (fetch n s).2).units := by
  have ht := fetch_takes hn s
  have hover := over_of_ended hn s
  rcases hq : fetch n s with ⟨us | _ | _ | e, s'⟩
  all_goals
    rw [hq] at ht hover
    dsimp only at ht hover
  · obtain ⟨-, -, hx⟩ := ht
    rw [hx, Coming.units_append, Coming.units_ofUnits]
    rfl
  · rw [show coming s = _ from ht]
    rfl
  · obtain ⟨hfinished, hsurplus⟩ := hover rfl
    rw [show coming s = [] from ht]
    simp [coming, hfinished, hsurplus, Fetch.units]
  · rw [show coming s = _ from ht]
    rfl

end Stream

/-- Characters asked for, so many of them. -/
def ask {σ : Type} [ByteSource σ] (n : Nat) (s : Decoding × Rewind × σ) :
    List Char × Decoding × Rewind × σ := ((fetch n s).1.units, (fetch n s).2)

section Fresh
variable {σ : Type} [ByteSource σ] [ByteStream σ]

/-- The stages for bytes and the decoder, none of them used yet. -/
def fresh (e : Encoding) (size : Nat) (buffering : Buffering) (blocking : Bool) (s : σ) :
    Decoding × Rewind × ReadAhead × σ :=
  (init e, .init, { ReadAhead.init size buffering with blocking := blocking }, s)

/-- What is to come from the fresh stages are the characters of the bytes. -/
theorem units_fresh (e : Encoding) (size : Nat) (buffering : Buffering) (blocking : Bool) (s : σ) :
    (coming (fresh e size buffering blocking s)).units =
      e.whole (e.skipMark (ByteStream.coming s).units) := by
  have hbelow : (ByteStream.coming (fresh e size buffering blocking s).2).units =
      (ByteStream.coming s).units := by
    cases blocking <;>
      simp [fresh, ByteStream.coming, Rewind.coming, Rewind.init, ReadAhead.coming, ReadAhead.init,
        ReadAhead.heard]
  rw [← Encoding.decode_eq_whole, ← hbelow, ← units_entering, ← units_reading]
  rfl

/-- However the bytes come in and however the characters are asked for: at every moment those handed up
are a beginning of the text that all the bytes have. A request brings some characters, as many as asked
for at the most, or news. If the news is the end, then the text is complete, and any other request gets
the same answer, from this stage alone, whatever there may be below. -/
theorem piecewise (e : Encoding) (size : Nat) (buffering : Buffering) (blocking : Bool) (s : σ)
    {sizes : List Nat} (hsizes : ∀ n ∈ sizes, 0 < n) :
    let text := e.whole (e.skipMark (ByteStream.coming s).units)
    let r := askAll ask sizes (fresh e size buffering blocking s)
    r.1 <+: text ∧ ∀ n, 0 < n →
      let f := fetch n r.2
      f.1.units.length ≤ n ∧ (∀ cs, f.1 = .got cs → cs ≠ []) ∧
        (f.1 = .ended → r.1 = text ∧ ∀ m, 0 < m → ∀ t : Rewind × ReadAhead × σ,
          fetch m (f.2.1, t) = (.ended, f.2.1, t)) := by
  intro text r
  have hall : text = r.1 ++ (coming r.2).units := by
    obtain ⟨hleft, -⟩ := askAll_left (P := fun _ => True) ask (fun s => (coming s).units)
      (fun n s hn _ => ⟨units_fetch hn s, trivial⟩) hsizes
      (s := fresh e size buffering blocking s) trivial
    rwa [units_fresh] at hleft
  refine ⟨⟨_, hall.symm⟩, fun n hn => ?_⟩
  intro f
  have ht : f.1.Takes n (coming r.2) (coming f.2) := fetch_takes hn r.2
  refine ⟨?_, fun cs hcs => ?_, fun hend => ⟨?_, fun m hm t => ?_⟩⟩
  · cases hf : f.1 with
    | got cs =>
      rw [hf] at ht
      exact ht.2.1
    | wouldBlock | ended | failed => exact Nat.zero_le n
  · rw [hcs] at ht
    exact ht.1
  · rw [hend] at ht
    rw [hall, show coming r.2 = [] from ht]
    exact (List.append_nil _).symm
  · exact fetch_of_over (over_of_ended hn r.2 hend) hm t

end Fresh

/-- A script that cuts a mark and two characters, breaks one of these off, and ends within another. -/
def torn : Transport.Rehearsed :=
  { Transport.Rehearsed.quiet with reads :=
      [.units [0xEF], .delay, .units [0xBB, 0xBF, 0x61, 0xE4], .delay,
        .units [0xBD, 0xFF, 0x62, 0xE2], .units [0x82]] }

theorem piecewise_torn :
    let e : Encoding := .charset .utf8
    let s : Cutoff × Transport.Rehearsed := (.init 0, torn)
    let r := askAll ask [1, 2, 1, 1, 3, 1, 1, 1] (fresh e 2 .full false s)
    (∀ n ∈ [1, 2, 1, 1, 3, 1, 1, 1], 0 < n) ∧ (fetch 2 r.2).1 = .ended ∧
      r.1 = ['a', '\uFFFD', '\uFFFD', 'b', '\uFFFD'] ∧
      r.1 = e.whole (e.skipMark (ByteStream.coming s).units) := by
  intro e s r
  have hsizes : ∀ n ∈ [1, 2, 1, 1, 3, 1, 1, 1], 0 < n := by decide
  have hended : (fetch 2 r.2).1 = .ended := by decide
  obtain ⟨-, hnext⟩ := piecewise e 2 .full false s hsizes
  exact ⟨hsizes, hended, by decide, ((hnext 2 Nat.two_pos).2.2 hended).1⟩

end ScriptChannel.Input.Decoding
