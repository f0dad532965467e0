import ScriptChannel.Charset.Decoder

/-!
# Text is not longer than its bytes

No set has a sequence that stands for more characters than it has bytes. So a stream of bytes never
becomes more characters than there were bytes, those counted that the decoder keeps.
-/

namespace ScriptChannel.Charset

/-- The text of a sequence is not longer than the sequence, which is at the front of `bs`. -/
def Scan.Fits (bs : List UInt8) : Scan → Prop
  | incomplete => True
  | taken count text => text.length ≤ count ∧ count ≤ bs.length

theorem Scan.fits_one (c : Char) (b : UInt8) (bs : List UInt8) : (taken 1 [c]).Fits (b :: bs) :=
  ⟨Nat.le_refl 1, by simp⟩

theorem Scan.fits_malformed {count : Nat} {bs : List UInt8} (h1 : 1 ≤ count)
    (h : count ≤ bs.length) : (malformed count).Fits bs :=
  ⟨h1, h⟩

theorem Utf8.scanTrails_fits (trails low high count value : Nat) (lead bs : List UInt8)
    (h1 : 1 ≤ count) (hc : count = lead.length) :
    (scanTrails trails low high count value bs).Fits (lead ++ bs) := by
  induction trails generalizing low high count value lead bs with
  | zero => exact ⟨by simpa using h1, by simp [hc]⟩
  | succ k ih =>
    cases bs with
    | nil => trivial
    | cons b bs =>
      simp only [scanTrails]
      split
      · have := ih 0x80 0xBF (count + 1) (value * 64 + (b.toNat - 0x80)) (lead ++ [b]) bs (by omega)
          (by simp [hc])
        simpa using this
      · exact ⟨by simpa using h1, by simp [hc]⟩

theorem Utf8.scan_fits (bs : List UInt8) : (scan bs).Fits bs := by
  cases bs with
  | nil => trivial
  | cons b bs =>
    simp only [scan]
    split
    · exact ⟨by simp, by simp⟩
    · split
      · exact ⟨by simp, by simp⟩
      · exact scanTrails_fits _ _ _ _ _ [b] bs (Nat.le_refl _) rfl

theorem Utf16.scan_fits (order : ByteOrder) (bs : List UInt8) : (scan order bs).Fits bs := by
  match bs with
  | [] | [_] => trivial
  | [a, b] =>
    simp only [scan]
    split
    · exact Scan.fits_malformed (by decide) (by simp)
    · split
      · trivial
      · exact ⟨by simp, by simp⟩
  | [a, b, c] =>
    simp only [scan]
    split
    · exact Scan.fits_malformed (by decide) (by simp)
    · split
      · trivial
      · exact ⟨by simp, by simp⟩
  | a :: b :: c :: d :: rest =>
    simp only [scan]
    split
    · exact Scan.fits_malformed (by decide) (by simp)
    · split
      · split
        · exact ⟨by simp, by simp⟩
        · exact Scan.fits_malformed (by decide) (by simp)
      · exact ⟨by simp, by simp⟩

theorem scanByte_fits (upper : Nat → Option Char) (bs : List UInt8) : (scanByte upper bs).Fits bs := by
  unfold scanByte
  repeat' split
  · trivial
  · exact Scan.fits_one ..
  · exact Scan.fits_one ..
  · exact Scan.fits_one ..

theorem ShiftJis.scan_fits (bs : List UInt8) : (scan bs).Fits bs := by
  cases bs with
  | nil => trivial
  | cons b rest =>
    simp only [scan]
    repeat' split
    all_goals first
      | exact ⟨by simp, by simp⟩
      | exact True.intro

theorem EucJp.scanSupplementary_fits (b : UInt8) (rest : List UInt8) :
    (scanSupplementary rest).Fits (b :: rest) := by
  cases rest with
  | nil => trivial
  | cons t rest =>
    cases rest with
    | nil | cons =>
      simp only [scanSupplementary, broken]
      repeat' split
      all_goals first
        | exact ⟨by simp, by simp⟩
        | exact True.intro

theorem EucJp.scan_fits (bs : List UInt8) : (scan bs).Fits bs := by
  cases bs with
  | nil => trivial
  | cons b rest =>
    simp only [scan, broken]
    split
    · exact ⟨by simp, by simp⟩
    split
    · exact scanSupplementary_fits b rest
    repeat' split
    all_goals first
      | exact ⟨by simp, by simp⟩
      | exact True.intro

theorem Gb.scan_fits (bs : List UInt8) : (scan bs).Fits bs := by
  cases bs with
  | nil => trivial
  | cons a rest =>
    simp only [scan]
    repeat' split
    all_goals first
      | exact ⟨by simp, by simp⟩
      | exact True.intro

theorem EucKr.scan_fits (bs : List UInt8) : (scan bs).Fits bs := by
  cases bs with
  | nil => trivial
  | cons b rest =>
    simp only [scan]
    repeat' split
    all_goals first
      | exact ⟨by simp, by simp⟩
      | exact True.intro

theorem Big5.length_text?_le {p : Nat} {text : List Char} (h : text? p = some text) :
    text.length ≤ 2 := by
  unfold text? at h
  split at h
  · cases h; decide
  · cases h; decide
  · cases h; decide
  · cases h; decide
  · obtain ⟨c, -, rfl⟩ := Option.map_eq_some_iff.1 h
    simp

theorem Big5.scan_fits (bs : List UInt8) : (scan bs).Fits bs := by
  match bs with
  | [] => trivial
  | [b] =>
    simp only [scan]
    repeat' split
    all_goals first
      | exact ⟨by simp, by simp⟩
      | exact True.intro
  | b :: t :: rest =>
    have htext : ∀ text, (pointer? b.toNat t.toNat).bind text? = some text → text.length ≤ 2 := by
      intro text h
      obtain ⟨p, -, hp⟩ := Option.bind_eq_some_iff.1 h
      exact length_text?_le hp
    simp only [scan]
    generalize (pointer? b.toNat t.toNat).bind text? = found at htext
    cases found with
    | none =>
      dsimp only
      repeat' split
      all_goals exact ⟨by simp, by simp⟩
    | some text =>
      have hle := htext text rfl
      dsimp only
      repeat' split
      all_goals first
        | exact ⟨hle, by simp⟩
        | exact ⟨by simp, by simp⟩

theorem Iso2022Jp.scan_fits (s : State) (bs : List UInt8) : (scan s bs).1.Fits bs := by
  cases bs with
  | nil => trivial
  | cons b rest =>
    simp only [scan, scanIn]
    repeat' split
    all_goals first
      | exact ⟨by simp, by simp⟩
      | exact True.intro

theorem scan_fits (c : Charset) (s : Shift) (bs : List UInt8) : (c.scan s bs).1.Fits bs := by
  unfold scan
  split
  · exact Iso2022Jp.scan_fits _ bs
  · trivial
  · cases bs with
    | nil => trivial
    | cons b bs =>
      simp only [List.isEmpty_cons, Bool.false_eq_true, if_false]
      split <;> simp [Scan.Fits, Scan.malformed]
  · exact Utf8.scan_fits bs
  · exact Utf16.scan_fits _ bs
  · exact scanByte_fits _ bs
  · exact scanByte_fits (fun n => some (Char.ofNat (0xF700 + n))) bs
  · exact ShiftJis.scan_fits bs
  · exact EucJp.scan_fits bs
  · exact Gb.scan_fits bs
  · exact Gb.scan_fits bs
  · exact Big5.scan_fits bs
  · exact EucKr.scan_fits bs

theorem length_drainIn_le {τ : Type} {scan : τ → List UInt8 → Scan × τ}
    (h : ∀ s bs, (scan s bs).1.Fits bs) (fuel : Nat) (s : τ) (bs : List UInt8) :
    (drainIn scan fuel s bs).1.length + (drainIn scan fuel s bs).2.2.length ≤ bs.length := by
  induction fuel generalizing s bs with
  | zero => simp [drainIn]
  | succ fuel ih =>
    cases bs with
    | nil => simp [drainIn]
    | cons b bs =>
      have hf := h s (b :: bs)
      simp only [drainIn]
      rcases hs : scan s (b :: bs) with ⟨_ | ⟨n, text⟩, s'⟩
      · simp
      · rw [hs] at hf
        obtain ⟨htext, hn⟩ := hf
        have hrest := ih s' ((b :: bs).drop n)
        simp only [List.length_append, List.length_drop] at hrest ⊢
        omega

theorem length_drain_le {τ : Type} {scan : τ → List UInt8 → Scan × τ}
    (h : ∀ s bs, (scan s bs).1.Fits bs) (s : τ) (bs : List UInt8) :
    (drain scan s bs).1.length + (drain scan s bs).2.2.length ≤ bs.length :=
  length_drainIn_le h bs.length s bs

namespace Decoder

theorem length_step_le (d : Decoder) (b : UInt8) :
    (d.step b).1.length + (d.step b).2.pending.length ≤ d.pending.length + 1 := by
  have h := length_drain_le (scan_fits d.charset) d.shift (d.pending ++ [b])
  simpa [step] using h

/-- What the decoder gives and what it keeps is not more than what it kept and what it was fed. -/
theorem length_feed_le (d : Decoder) (bs : List UInt8) :
    (d.feed bs).1.length + (d.feed bs).2.pending.length ≤ d.pending.length + bs.length := by
  induction bs generalizing d with
  | nil => simp [feed]
  | cons b bs ih =>
    by_cases hs : d.spent = true
    · simp [feed_of_spent hs]
    · have hstep := d.length_step_le b
      have hfeed := ih (d.step b).2
      simp only [feed, hs, if_false, List.length_append, List.length_cons, Bool.false_eq_true] at hfeed ⊢
      omega

theorem length_finish_le (d : Decoder) : d.finish.1.length ≤ d.pending.length := by
  simp only [finish, rest]
  split
  · exact Nat.zero_le _
  · split
    · cases hp : d.pending with
      | nil => simp [Iso2022Jp.finish]
      | cons b bs =>
        rename_i state _
        have h := length_drain_le Iso2022Jp.scan_fits ⟨state.mode, false⟩ bs
        simp only [Iso2022Jp.finish, List.length_cons, List.length_append]
        by_cases hr : (drain Iso2022Jp.scan ⟨state.mode, false⟩ bs).2.2.isEmpty = true
        · rw [if_pos hr, List.length_nil]
          omega
        · have hpos := List.length_pos_iff.2 (fun h => hr (List.isEmpty_iff.2 h))
          rw [if_neg hr, List.length_singleton]
          omega
    · split
      · exact Nat.zero_le _
      · rename_i hne
        exact List.length_pos_iff.2 (fun h => hne (List.isEmpty_iff.2 h))

end Decoder

end ScriptChannel.Charset
