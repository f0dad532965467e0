import Mathlib.Data.List.Basic
import ScriptChannel.Encoding
import ScriptChannel.Proofs.Charset.Length

/-!
# A text that is all there

A decoder is fed byte by byte and says what a sequence stands for as soon as it is sure. With all the
bytes at hand the text can be read off them at once, sequence by sequence from the front. The two agree
for every set: what is said of the front of some bytes still holds with more bytes behind them, so that
nothing is gained by waiting for those.
-/

namespace ScriptChannel

namespace Charset

/-- What is said of the front is not taken back when more bytes come. -/
def Scan.Firm (scan : List UInt8 → Scan) : Prop :=
  ∀ ⦃bs n text⦄, scan bs = .taken n text → 0 < n ∧ ∀ more, scan (bs ++ more) = .taken n text

theorem Utf8.scanTrails_firm {trails low high count value : Nat} (h1 : 0 < count) :
    Scan.Firm (scanTrails trails low high count value) := by
  intro bs n text h
  induction trails generalizing low high count value bs with
  | zero =>
    cases h
    exact ⟨h1, fun _ => rfl⟩
  | succ k ih =>
    cases bs with
    | nil => cases h
    | cons b bs =>
      simp only [scanTrails, List.cons_append] at h ⊢
      split at h
      · rename_i hb
        simp only [if_pos hb]
        exact ih (Nat.succ_pos count) h
      · rename_i hb
        cases h
        exact ⟨h1, fun _ => if_neg hb⟩

theorem Utf8.scan_firm : Scan.Firm scan := by
  intro bs n text h
  cases bs with
  | nil => cases h
  | cons b bs =>
    simp only [scan, List.cons_append] at h ⊢
    split at h
    · rename_i hb
      cases h
      exact ⟨Nat.one_pos, fun _ => if_pos hb⟩
    · rename_i hb
      simp only [if_neg hb]
      cases hl : lead? b.toNat with
      | none =>
        rw [hl] at h
        cases h
        exact ⟨Nat.one_pos, fun _ => rfl⟩
      | some l =>
        rw [hl] at h
        exact scanTrails_firm Nat.one_pos h

/-! Elsewhere a sequence has at most four bytes, and none of them is looked at behind one that
decides. -/

theorem Utf16.scan_firm (order : ByteOrder) : Scan.Firm (scan order) := by
  rintro (_ | ⟨a, _ | ⟨b, _ | ⟨c, _ | ⟨d, rest⟩⟩⟩⟩) n text h
  · cases h
  · cases h
  all_goals
    simp only [scan, List.cons_append, List.nil_append] at h ⊢
    grind [Scan.malformed]

theorem scanByte_firm (upper : Nat → Option Char) : Scan.Firm (scanByte upper) := by
  rintro (_ | ⟨b, rest⟩) n text h
  · cases h
  · simp only [scanByte, List.cons_append] at h ⊢
    grind [Scan.malformed]

theorem ShiftJis.scan_firm : Scan.Firm scan := by
  rintro (_ | ⟨a, _ | ⟨b, rest⟩⟩) n text h
  · cases h
  all_goals
    simp only [scan, List.cons_append, List.nil_append] at h ⊢
    grind [Scan.malformed]

theorem EucJp.scanSupplementary_firm : Scan.Firm scanSupplementary := by
  rintro (_ | ⟨a, _ | ⟨b, rest⟩⟩) n text h
  · cases h
  · simp only [scanSupplementary] at h
    split at h
    · cases h
    · rename_i ha
      refine ⟨by grind [Scan.malformed, broken], fun more => ?_⟩
      cases more <;> simpa [scanSupplementary, ha] using h
  · simp only [scanSupplementary, List.cons_append] at h ⊢
    grind [Scan.malformed, broken]

theorem EucJp.scan_firm : Scan.Firm scan := by
  intro bs n text h
  cases bs with
  | nil => cases h
  | cons b bs =>
    simp only [scan, List.cons_append] at h ⊢
    split at h
    · rename_i hb
      cases h
      exact ⟨Nat.one_pos, fun _ => if_pos hb⟩
    rename_i hb
    simp only [if_neg hb]
    split at h
    · rename_i hb
      simp only [if_pos hb]
      exact scanSupplementary_firm h
    rename_i hb
    simp only [if_neg hb]
    split at h
    · rename_i hb
      simp only [if_pos hb]
      cases bs with
      | nil => cases h
      | cons t rest =>
        refine ⟨?_, fun _ => h⟩
        dsimp only at h
        grind [Scan.malformed, broken]
    · rename_i hb
      cases h
      exact ⟨Nat.one_pos, fun _ => if_neg hb⟩

theorem Gb.scan_firm : Scan.Firm scan := by
  rintro (_ | ⟨a, _ | ⟨b, _ | ⟨c, _ | ⟨d, rest⟩⟩⟩⟩) n text h
  · cases h
  all_goals
    simp only [scan, List.cons_append, List.nil_append] at h ⊢
    grind [Scan.malformed]

theorem Big5.scan_firm : Scan.Firm scan := by
  rintro (_ | ⟨a, _ | ⟨b, rest⟩⟩) n text h
  · cases h
  all_goals
    simp only [scan, List.cons_append, List.nil_append] at h ⊢
    grind [Scan.malformed]

theorem EucKr.scan_firm : Scan.Firm scan := by
  rintro (_ | ⟨a, _ | ⟨b, rest⟩⟩) n text h
  · cases h
  all_goals
    simp only [scan, List.cons_append, List.nil_append] at h ⊢
    grind [Scan.malformed]

/-- The same of a set that remembers something between sequences. -/
def Firm {τ : Type} (scan : τ → List UInt8 → Scan × τ) : Prop :=
  ∀ ⦃s bs n text s'⦄, scan s bs = (.taken n text, s') →
    0 < n ∧ ∀ more, scan s (bs ++ more) = (.taken n text, s')

theorem Scan.Firm.plain {scan : List UInt8 → Scan} (h : Scan.Firm scan) (τ : Type) :
    Charset.Firm fun (s : τ) bs => (scan bs, s) := by
  intro s bs n text s' hs
  obtain ⟨hscan, hsame⟩ := Prod.ext_iff.1 hs
  obtain ⟨hpos, hmore⟩ := h hscan
  exact ⟨hpos, fun more => Prod.ext (hmore more) hsame⟩

/-- Only the kanji set looks at what stands behind a byte. -/
theorem Iso2022Jp.scanIn_firm {mode : Mode} {b : UInt8} {rest : List UInt8} {n : Nat}
    {text : List Char} (h : scanIn mode b rest = .taken n text) :
    0 < n ∧ ∀ more, scanIn mode b (rest ++ more) = .taken n text := by
  cases mode with
  | ascii | roman | katakana =>
    refine ⟨?_, fun _ => h⟩
    simp only [scanIn] at h
    repeat' split at h
    all_goals
      cases h
      exact Nat.one_pos
  | kanji =>
    cases rest with
    | nil =>
      simp only [scanIn] at h ⊢
      split at h
      · cases h
      · rename_i hb
        cases h
        exact ⟨Nat.one_pos, fun _ => if_neg hb⟩
    | cons t rest =>
      refine ⟨?_, fun _ => h⟩
      simp only [scanIn] at h
      repeat' split at h
      all_goals
        cases h
        exact Nat.succ_pos _

theorem Iso2022Jp.scan_firm : Firm scan := by
  intro s bs n text s' h
  cases bs with
  | nil => cases h
  | cons b bs =>
    simp only [scan, List.cons_append] at h ⊢
    split at h
    · rename_i hb
      simp only [if_pos hb]
      rcases bs with _ | ⟨lead, _ | ⟨final, rest⟩⟩
      · cases h
      · dsimp only at h
        split at h
        · cases h
        · rename_i hlead
          cases h
          exact ⟨Nat.one_pos, fun _ => if_neg hlead⟩
      · refine ⟨?_, fun _ => h⟩
        dsimp only at h
        repeat' split at h
        all_goals
          cases h
          exact Nat.succ_pos _
    · rename_i hb
      simp only [if_neg hb]
      obtain ⟨hscan, rfl⟩ := Prod.ext_iff.1 h
      obtain ⟨hpos, hmore⟩ := scanIn_firm hscan
      exact ⟨hpos, fun more => Prod.ext (hmore more) rfl⟩

theorem scan_firm (c : Charset) : Firm c.scan := by
  cases c with
  | utf8 => exact Utf8.scan_firm.plain Shift
  | utf16 order => exact (Utf16.scan_firm order).plain Shift
  | page p => exact (scanByte_firm _).plain Shift
  | userDefined => exact (scanByte_firm _).plain Shift
  | shiftJis => exact ShiftJis.scan_firm.plain Shift
  | eucJp => exact EucJp.scan_firm.plain Shift
  | gbk => exact Gb.scan_firm.plain Shift
  | gb18030 => exact Gb.scan_firm.plain Shift
  | big5 => exact Big5.scan_firm.plain Shift
  | eucKr => exact EucKr.scan_firm.plain Shift
  | iso2022Jp =>
    intro s bs n text s' h
    cases s with
    | plain | reported => cases h
    | jis state =>
      obtain ⟨hscan, hshift⟩ := Prod.ext_iff.1 h
      obtain ⟨hpos, hmore⟩ := Iso2022Jp.scan_firm (Prod.ext hscan rfl)
      refine ⟨hpos, fun more => Prod.ext ?_ ?_⟩
      · exact (Prod.ext_iff.1 (hmore more)).1
      · rw [← hshift]
        exact congrArg Shift.jis (Prod.ext_iff.1 (hmore more)).2
  | replaced =>
    rintro s (_ | ⟨b, rest⟩) n text s' h
    · cases h
    · simp only [scan, List.isEmpty_cons, List.cons_append] at h ⊢
      grind [Scan.malformed]

section Drain
variable {τ : Type} {scan : τ → List UInt8 → Scan × τ} {s : τ} {bs : List UInt8}

/-- Where each sequence takes a byte at least no more turns are needed than there are bytes. -/
theorem drainIn_congr (hfirm : Firm scan) {fuel fuel' : Nat} (h : bs.length ≤ fuel)
    (h' : bs.length ≤ fuel') : drainIn scan fuel s bs = drainIn scan fuel' s bs := by
  induction fuel generalizing fuel' s bs with
  | zero =>
    obtain rfl : bs = [] := List.length_eq_zero_iff.1 (Nat.le_zero.1 h)
    cases fuel' <;> rfl
  | succ fuel ih =>
    cases bs with
    | nil => cases fuel' <;> rfl
    | cons b bs =>
      obtain ⟨fuel', rfl⟩ := Nat.exists_eq_succ_of_ne_zero (Nat.ne_of_gt (Nat.lt_of_lt_of_le
        (Nat.succ_pos bs.length) h'))
      simp only [drainIn]
      rcases hscan : scan s (b :: bs) with ⟨_ | ⟨n, text⟩, s'⟩
      · rfl
      · have hpos := (hfirm hscan).1
        simp only [List.length_cons] at h h'
        have hdrop : ((b :: bs).drop n).length ≤ bs.length := by
          simp only [List.length_drop, List.length_cons]
          omega
        dsimp only
        rw [ih (Nat.le_trans hdrop (Nat.le_of_succ_le_succ h))
          (Nat.le_trans hdrop (Nat.le_of_succ_le_succ h'))]

theorem drain_of_incomplete (h : (scan s bs).1 = .incomplete) : drain scan s bs = ([], s, bs) := by
  cases bs with
  | nil => rfl
  | cons b bs =>
    obtain ⟨s', hscan⟩ : ∃ s', scan s (b :: bs) = (.incomplete, s') := ⟨_, Prod.ext h rfl⟩
    simp only [drain, List.length_cons, drainIn, hscan]

theorem drain_of_taken (hfirm : Firm scan) {n : Nat} {text : List Char} {s' : τ} (hbs : bs ≠ [])
    (h : scan s bs = (.taken n text, s')) :
    drain scan s bs = (text ++ (drain scan s' (bs.drop n)).1, (drain scan s' (bs.drop n)).2) := by
  obtain ⟨b, bs, rfl⟩ := List.exists_cons_of_ne_nil hbs
  have hpos := (hfirm h).1
  simp only [drain, List.length_cons, drainIn, h]
  rw [drainIn_congr hfirm _ (Nat.le_refl _)]
  simp only [List.length_drop, List.length_cons]
  omega

variable (hfirm : Firm scan) (hfits : ∀ s bs, (scan s bs).1.Fits bs)
include hfirm hfits

/-- More bytes are looked at behind what the first ones left over. The induction is on the number of
the first ones, of which each sequence takes some. -/
theorem drain_append (s : τ) (bs more : List UInt8) :
    drain scan s (bs ++ more) =
      let r := drain scan s bs
      let r' := drain scan r.2.1 (r.2.2 ++ more)
      (r.1 ++ r'.1, r'.2) := by
  induction hlen : bs.length using Nat.strongRecOn generalizing s bs with
  | ind len ih =>
    subst hlen
    by_cases hbs : bs = []
    · subst hbs
      rfl
    rcases hscan : scan s bs with ⟨_ | ⟨n, text⟩, s'⟩
    · have hnone : drain scan s bs = ([], s, bs) := drain_of_incomplete (congrArg Prod.fst hscan)
      rw [hnone]
      rfl
    · obtain ⟨hpos, hmore⟩ := hfirm hscan
      have hle : n ≤ bs.length := by
        have hfit := hfits s bs
        rw [hscan] at hfit
        exact hfit.2
      have hlt : (bs.drop n).length < bs.length := by
        simp only [List.length_drop]
        omega
      rw [drain_of_taken hfirm (by simp [hbs]) (hmore more), List.drop_append_of_le_length hle,
        ih _ hlt s' (bs.drop n) rfl, drain_of_taken hfirm hbs hscan]
      dsimp only
      rw [List.append_assoc]

/-- What is left over stays so. -/
theorem drain_rest (s : τ) (bs : List UInt8) :
    let r := drain scan s bs
    drain scan r.2.1 r.2.2 = ([], r.2.1, r.2.2) := by
  have hall := drain_append hfirm hfits s bs []
  simp only [List.append_nil] at hall
  obtain ⟨htext, hrest⟩ := Prod.ext_iff.1 hall
  exact Prod.ext (List.append_right_eq_self.1 htext.symm) hrest.symm

end Drain

/-- A decoder has said all that can be said of the bytes that it keeps. -/
def Decoder.Quiet (d : Decoder) : Prop :=
  drain d.charset.scan d.shift d.pending = ([], d.shift, d.pending)

/-- Byte by byte a decoder says what can be said of all the bytes at once. -/
theorem Decoder.feed_eq_drain {d : Decoder} (hspent : d.spent = false) (hquiet : d.Quiet)
    (bs : List UInt8) :
    d.feed bs =
      let r := drain d.charset.scan d.shift (d.pending ++ bs)
      (r.1, { d with shift := r.2.1, pending := r.2.2 }) := by
  induction bs generalizing d with
  | nil =>
    rw [List.append_nil, hquiet]
    rfl
  | cons b bs ih =>
    have hfirm := d.charset.scan_firm
    have hfits := d.charset.scan_fits
    have hopen : (d.step b).2.spent = false := hspent
    have hnext : (d.step b).2.Quiet := drain_rest hfirm hfits d.shift (d.pending ++ [b])
    have hall := drain_append hfirm hfits d.shift (d.pending ++ [b]) bs
    rw [List.append_assoc, List.singleton_append] at hall
    rw [feed, if_neg (Bool.eq_false_iff.1 hspent)]
    dsimp only
    rw [ih hopen hnext, hall]
    rfl

/-- The text read off bytes that are all there, sequence by sequence from the front, and what those
stand for that are left over at the end. -/
def whole (c : Charset) (bs : List UInt8) : List Char :=
  let r := drain c.scan c.initialShift bs
  r.1 ++ (⟨c, r.2.1, r.2.2, false⟩ : Decoder).rest

theorem decode_eq_whole (c : Charset) (bs : List UInt8) : c.decode bs = c.whole bs := by
  have hfeed := c.decoder.feed_eq_drain rfl rfl bs
  simp only [decode, hfeed]
  rfl

end Charset

/-- The text read off bytes that are all there. -/
def Encoding.whole : Encoding → List UInt8 → List Char
  | charset c, bs => c.whole bs
  | _, bs => bs.map charOfByte

theorem Encoding.decode_eq_whole (e : Encoding) (bs : List UInt8) : e.decode bs = e.whole bs := by
  cases e with
  | charset c => exact c.decode_eq_whole bs
  | binary | latin1 => rfl

end ScriptChannel
