import ScriptChannel.Proofs.Input.Chain
import ScriptChannel.Proofs.Input.Mirror

/-!
# Bytes, whatever the pieces

On a binary input side the stage for line endings and what is read around it take bytes off the same
stream. What they bring depends on what is to come below and on nothing else of how far the device was
read ahead of them.
-/

namespace ScriptChannel.Input

namespace Lines
variable {σ τ : Type} [CharSource σ] [CharStream σ] [CharSource τ] [CharStream τ]

/-- Sources that match unit by unit bring the same lines, however long each is waited for. -/
theorem readLine_matched {R : σ → τ → Prop}
    (h : ∀ s t, R s t → (CharSource.fetch 1 t).1 = (CharSource.fetch 1 s).1 ∧
      R (CharSource.fetch 1 s).2 (CharSource.fetch 1 t).2)
    (blocking : Bool) (l : Lines) {s : σ} {t : τ} (hst : R s t) :
    Matched R (readLine blocking (l, s)) (readLine blocking (l, t)) := by
  have hs : (view (l, s)).length < budget (l, s) + 2 := by
    have hle := length_view_le (l, s)
    omega
  have ht : (view (l, t)).length < budget (l, t) + 2 := by
    have hle := length_view_le (l, t)
    omega
  rw [readLine_eq, readLine_eq, ← untilNewline_add blocking hs (budget (l, t) + 2),
    ← untilNewline_add blocking ht (budget (l, s) + 2), Nat.add_comm (budget (l, t) + 2)]
  exact (untilNewline_matched h blocking _ l hst).conclude

end Lines

namespace Decoding
variable {σ : Type} [ByteSource σ] [ByteStream σ] [Settled σ]

/-- Two sources of bytes that are taken for characters, with the same to come. -/
structure Abreast (s t : Decoding × Rewind × σ) : Prop where
  decoding : t.1 = s.1
  binary : s.1.encoding = .binary
  coming : ByteStream.coming t.2 = ByteStream.coming s.2

variable {s t : Decoding × Rewind × σ}

theorem Abreast.fetchBytes (h : Abreast s t) :
    (Decoding.fetchBytes 1 t).1 = (Decoding.fetchBytes 1 s).1 ∧
      Abreast (Decoding.fetchBytes 1 s).2 (Decoding.fetchBytes 1 t).2 := by
  obtain ⟨d, s⟩ := s
  obtain ⟨d', t⟩ := t
  obtain ⟨hdecoding, hbinary, hcoming⟩ := h
  obtain rfl : d' = d := hdecoding
  dsimp only at hbinary hcoming
  have hdraw := (ByteSource.fetch_draw s).symm.trans (hcoming ▸ ByteSource.fetch_draw t)
  have hone : min 1 maxChunk = 1 := rfl
  simp only [Decoding.fetchBytes, hone]
  rcases hs : ByteSource.fetch 1 s with ⟨answer, s'⟩
  rcases ht : ByteSource.fetch 1 t with ⟨answer', t'⟩
  rw [hs, ht] at hdraw
  obtain ⟨hrun, hthen⟩ := Prod.mk.inj hdraw
  obtain rfl : answer = answer' := Fetch.run_injective hrun
  rcases answer with bs | _ | _ | e <;> exact ⟨rfl, rfl, hbinary, hthen.symm⟩

/-- A single byte is the same, and so is what is to come behind it. -/
theorem Abreast.fetch (h : Abreast s t) :
    (Decoding.fetch 1 t).1 = (Decoding.fetch 1 s).1 ∧
      Abreast (Decoding.fetch 1 s).2 (Decoding.fetch 1 t).2 := by
  obtain ⟨d, s⟩ := s
  obtain ⟨d', t⟩ := t
  obtain ⟨hdecoding, hbinary, hcoming⟩ := h
  obtain rfl : d' = d := hdecoding
  dsimp only at hbinary hcoming
  have hplain : ∀ d : Decoding, d.encoding = .binary → ∀ s : Rewind × σ,
      fetchPlain 1 (d, s) = Decoding.fetchBytes 1 (d, s) := by
    intro d hd s
    simp [fetchPlain, hd]
  have hskip : ∀ s : Rewind × σ, skipMark (d', s) = (none, d'.disarm, s) := by
    intro s
    simp [skipMark, hbinary, Encoding.markedCharset?]
  simp only [Decoding.fetch, Nat.one_ne_zero, if_false]
  split
  · exact ⟨rfl, rfl, hbinary, hcoming⟩
  split
  · exact ⟨rfl, rfl, hbinary, hcoming⟩
  split
  · rw [hskip, hskip]
    dsimp only
    rw [hplain d'.disarm hbinary, hplain d'.disarm hbinary]
    exact Abreast.fetchBytes ⟨rfl, hbinary, hcoming⟩
  · rw [hplain d' hbinary, hplain d' hbinary]
    exact Abreast.fetchBytes ⟨rfl, hbinary, hcoming⟩

end Decoding

namespace Chain
variable {δ : Type} [RawReader δ] [RawStream δ]

/-- Two binary input sides in front of their devices: what was noted above the bytes is the same, and
so are the bytes to come. -/
structure Abreast (x y : Chain × δ) : Prop where
  lines : y.1.lines = x.1.lines
  source : Decoding.Abreast (x.1.decoding, x.1.lower x.2) (y.1.decoding, y.1.lower y.2)

variable {x y : Chain × δ} (h : Abreast x y)
include h

theorem Abreast.readLine (blocking : Bool) :
    (y.1.readLine blocking y.2).1 = (x.1.readLine blocking x.2).1 ∧
      Abreast (x.1.readLine blocking x.2).2 (y.1.readLine blocking y.2).2 := by
  obtain ⟨hlines, hsource⟩ := h
  have hmatched := Lines.readLine_matched (fun _ _ => Decoding.Abreast.fetch) blocking x.1.lines hsource
  rw [← hlines] at hmatched
  simp only [Chain.readLine, whole]
  rw [← hlines]
  exact ⟨hmatched.answer, hmatched.lines, hmatched.source⟩

/-- The bytes that reading by lines has left come first, and the same bytes behind them. -/
theorem Abreast.readBytes (n : Nat) :
    (y.1.readBytes n y.2).1 = (x.1.readBytes n x.2).1 ∧
      Abreast (x.1.readBytes n x.2).2 (y.1.readBytes n y.2).2 := by
  obtain ⟨hlines, hdecoding, hbinary, hcoming⟩ := h
  dsimp only at hdecoding hbinary hcoming
  simp only [Chain.readBytes, hlines, hdecoding]
  generalize n - ((x.1.lines.takePending n).1.map Encoding.lowByte).length = m
  have hdraw := (ByteSource.collect_draw (show 0 < piece by decide) m (x.1.lower x.2)).symm.trans
    (hcoming ▸ ByteSource.collect_draw (show 0 < piece by decide) m (y.1.lower y.2))
  rcases hx : collect piece ByteSource.run m (x.1.lower x.2) with ⟨⟨bs, halt⟩, s⟩
  rcases hy : collect piece ByteSource.run m (y.1.lower y.2) with ⟨⟨bs', halt'⟩, t⟩
  rw [hx, hy] at hdraw
  obtain ⟨hsame, hthen⟩ := Prod.mk.inj hdraw
  obtain ⟨rfl, rfl⟩ := Prod.mk.inj hsame
  refine ⟨rfl, rfl, rfl, ?_, hthen.symm⟩
  dsimp only [ofWhole]
  split
  · exact hbinary
  · split <;> exact hbinary

end Chain

end ScriptChannel.Input
