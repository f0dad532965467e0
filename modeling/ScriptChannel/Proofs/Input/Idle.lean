import ScriptChannel.Proofs.Input.Mirror
import ScriptChannel.Proofs.Input.Probing
import ScriptChannel.Proofs.Input.Tuning

/-!
# A search that finds nothing

In an encoding without a byte order mark it makes no difference whether one may still come: no byte is
read to find out.
-/

namespace ScriptChannel.Input

namespace Decoding

/-- The decoding without the search for a byte order mark, if the encoding has none. -/
def idle (d : Decoding) : Decoding := if d.encoding.markedCharset? = none then d.disarm else d

theorem idle_of_atStart {d : Decoding} (h : d.atStart = false) : d.idle = d := by
  obtain ⟨e, decoder, surplus, atStart, finished⟩ := d
  obtain rfl : atStart = false := h
  exact ite_self _

theorem idle_of_marked {d : Decoding} (h : d.encoding.markedCharset? ≠ none) : d.idle = d := if_neg h

theorem idle_disarm (d : Decoding) : d.disarm.idle = d.idle.disarm := by
  by_cases h : d.encoding.markedCharset? = none
  · rw [idle_of_atStart rfl, idle, if_pos h]
    rfl
  · rw [idle_of_atStart rfl, idle_of_marked h]

section Source
variable {σ : Type} [ByteSource σ]

/-- Where no search is due none becomes due. -/
theorem fetch_idle {d : Decoding} (h : d.encoding.markedCharset? ≠ none ∨ d.atStart = false) (n : Nat)
    (s : Rewind × σ) : (fetch n (d, s)).2.1.idle = (fetch n (d, s)).2.1 := by
  rcases h with hm | ha
  · refine idle_of_marked ?_
    have hencoding : (fetch n (d, s)).2.1.encoding = d.encoding := steady_encoding n (d, s)
    rwa [hencoding]
  · exact idle_of_atStart ((closes_begun n (d, s)).keeps ha)

theorem mirrors_idle :
    CharSource.Mirrors (fun s : Decoding × Rewind × σ => (s.1.idle, s.2)) where
  fetch n s := by
    obtain ⟨d, s⟩ := s
    change fetch n (d.idle, s) = Prod.map id _ (fetch n (d, s))
    by_cases hm : d.encoding.markedCharset? = none
    · cases ha : d.atStart with
      | true =>
        have hidle : d.idle = d.disarm := if_pos hm
        have hskip : skipMark (d, s) = (none, d.disarm, s) := by simp [skipMark, hm]
        have hplain := idle_of_atStart (fetchPlain_atStart n (d.disarm, s))
        have hdropped : ({ d with surplus := d.surplus.drop n } : Decoding).idle =
            { d.disarm with surplus := d.surplus.drop n } := if_pos hm
        have hsame : d.disarm.surplus = d.surplus ∧ d.disarm.finished = d.finished ∧
            d.disarm.atStart = false := ⟨rfl, rfl, rfl⟩
        by_cases hn : n = 0
        · simp [fetch, hn]
        by_cases hs : d.surplus = []
        · by_cases hf : d.finished = true
          · simp [fetch, hidle, hsame, hn, hs, hf]
          · simp only [fetch, hidle, hsame, hn, hs, hf, ha, hskip, List.isEmpty_nil, Bool.not_true,
              Bool.false_eq_true, if_true, if_false]
            exact Prod.ext rfl (Prod.ext hplain.symm rfl)
        · simp [fetch, hidle, hn, hs, hdropped, disarm]
      | false =>
        rw [idle_of_atStart ha]
        exact Prod.ext rfl (Prod.ext (fetch_idle (.inr ha) n s).symm rfl)
    · rw [idle_of_marked hm]
      exact Prod.ext rfl (Prod.ext (fetch_idle (.inl hm) n s).symm rfl)
  budget s := by
    have hpending : s.1.idle.pending = s.1.pending ∧ s.1.idle.surplus = s.1.surplus := by
      unfold idle
      split <;> exact ⟨rfl, rfl⟩
    simp only [CharSource.budget, hpending]

end Source

end Decoding

namespace Chain

/-- The input side without the search for a byte order mark, if its encoding has none. -/
def idle (c : Chain) : Chain := { c with decoding := c.decoding.idle }

variable {δ : Type} [RawReader δ]

theorem readText_idle (n : Nat) (c : Chain) (d : δ) :
    c.idle.readText n d = Prod.map id (Prod.map idle id) (c.readText n d) := by
  have hread := Lines.read_mirror (Decoding.mirrors_idle (σ := ReadAhead × Cutoff × δ))
  have hrun : collect piece Lines.read n (c.idle.whole d) = Prod.map id _ _ :=
    collect_mirror hread n (c.whole d)
  simp only [readText, hrun]
  rfl

theorem readLine_idle (blocking : Bool) (c : Chain) (d : δ) :
    c.idle.readLine blocking d = Prod.map id (Prod.map idle id) (c.readLine blocking d) := by
  have hline : Lines.readLine blocking (c.idle.whole d) = Prod.map id _ _ :=
    Lines.readLine_mirror (Decoding.mirrors_idle (σ := ReadAhead × Cutoff × δ)) blocking (c.whole d)
  simp only [readLine, hline]
  rfl

theorem readBytes_idle (n : Nat) (c : Chain) (d : δ) :
    c.idle.readBytes n d = Prod.map id (Prod.map idle id) (c.readBytes n d) := by
  have hlower : c.idle.lower d = c.lower d := rfl
  have hlines : c.idle.lines = c.lines := rfl
  have hdecoding : c.idle.decoding = c.decoding.idle := rfl
  simp only [readBytes, hlower, hlines, hdecoding, ← Decoding.idle_disarm]
  refine Prod.ext rfl (Prod.ext ?_ rfl)
  simp only [ofWhole, Prod.map_snd, Prod.map_fst, idle, Chain.mk.injEq, true_and, and_true]
  split
  · rfl
  · split <;> rfl

end Chain

end ScriptChannel.Input
