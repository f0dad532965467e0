import ScriptChannel.Proofs.Input.OneByOne
import ScriptChannel.Proofs.Input.Placing

/-!
# A decoding takes no more bytes than it must

A fetch for some characters asks for no more bytes than there are characters wanted, and every
character takes a byte at least. So as long as the bytes in front of a decoding stand for as many
characters as are wanted, it does not get behind them, whatever follows there, and when it has brought
all that was wanted it has used the bytes of these characters and no others.
-/

namespace ScriptChannel.Input.Decoding

/-- These bytes go on with the characters, of the first of which the decoder may have the beginning. -/
inductive Fronts (e : Encoding) : List Char → Option Charset.Decoder → List UInt8 → Prop
  | narrow (he : e.decoder? = none) (bs : List UInt8) :
    Fronts e (bs.map Encoding.charOfByte) none bs
  | spelled {c : Charset} {spell : Char → List UInt8} (he : e = .charset c) (hs : c.SpellsBy spell)
    (hu : ∀ cs, e.unread cs = cs.flatMap spell) {cs : List Char} {half more : List UInt8}
    (h : Charset.Parts spell cs half more [] cs half) : Fronts e cs (some (c.keeping half)) more

section Fronts
variable {e : Encoding} {cs : List Char} {bs : List UInt8}

theorem Fronts.of_exact (h : e.Exact cs bs) : Fronts e cs e.decoder? bs := by
  cases h with
  | narrow he =>
    rw [he]
    exact .narrow he bs
  | @spelled c _ he hs hu =>
    have hdec : e.decoder? = some (c.keeping []) := by
      rw [he]
      rfl
    rw [hdec]
    exact .spelled he hs hu ⟨rfl, rfl, rfl, fun hne => absurd rfl hne⟩

/-- With no beginning kept these bytes are all bytes of the characters. -/
theorem Fronts.whole {d : Decoding} (h : Fronts e cs d.decoder bs) (hhalf : d.half = []) :
    d.decoder = e.decoder? ∧ bs = e.unread cs := by
  generalize hdec : d.decoder = decoder at h
  rw [half, hdec] at hhalf
  cases h with
  | narrow he => exact ⟨he.symm, (Encoding.unread_map he bs).symm⟩
  | spelled he hs hu h =>
    obtain rfl : _ = [] := hhalf
    rw [hu, he]
    exact ⟨rfl, h.left⟩

theorem Fronts.length_le {decoder : Option Charset.Decoder} (h : Fronts e cs decoder bs) :
    cs.length ≤ bs.length := by
  cases h with
  | narrow => exact Nat.le_of_eq (List.length_map _)
  | spelled he hs hu h => exact h.length_le_left hs

end Fronts

variable {σ : Type} [ByteSource σ] [ByteStream σ]

/-- In front of the decoding are these characters, and then bytes of which nothing is said. -/
structure Poised (e : Encoding) (cs : List Char) (others : List UInt8) (s : Decoding × Rewind × σ) :
    Prop where
  encoding : s.1.encoding = e
  waiting : s.1.Waiting
  fronts : ∃ bs, Fronts e cs s.1.decoder bs ∧
    s.1.entering (ByteStream.coming s.2) = Coming.ofUnits (bs ++ others)

/-- The decoding stands between two characters, and no mark can follow. -/
def Whole (d : Decoding) : Prop := d.half = [] ∧ d.atStart = false

/-- A fetch brings some of the characters, all that were asked for only with nothing half done, and
the end only if there are none. -/
def Yields (e : Encoding) (n : Nat) (cs : List Char) (others : List UInt8) :
    Fetch Char → Decoding × Rewind × σ → Prop
  | .got us, s => us ≠ [] ∧ us.length ≤ n ∧
    ∃ vs, cs = us ++ vs ∧ Poised e vs others s ∧ (us.length = n → Whole s.1)
  | .ended, _ => cs = [] ∧ others = []
  | _, _ => False

section Fetch
variable {e : Encoding} {n : Nat} {cs : List Char} {others : List UInt8}

/-- Where bytes and nothing else come in, a request for no more of them than there are characters wanted
brings some that belong to the characters, or the end behind all of them. -/
theorem bytes_of_request {k : Nat} {bs : List UInt8} {s : σ} (hk : 0 < k) (hkn : k ≤ n)
    (hle : cs.length ≤ bs.length) (hc : n ≤ cs.length ∨ others = [])
    (h : ByteStream.coming s = Coming.ofUnits (bs ++ others)) :
    (∃ us more s', ByteSource.fetch k s = (.got us, s') ∧ us ≠ [] ∧ us.length ≤ n ∧ bs = us ++ more ∧
      ByteStream.coming s' = Coming.ofUnits (more ++ others) ∧
      (ByteStream.coming s').length < (ByteStream.coming s).length) ∨
    ∃ s', ByteSource.fetch k s = (.ended, s') ∧ bs = [] ∧ others = [] := by
  have htakes := ByteStream.fetch_takes k s hk
  have hlt := htakes.length_lt
  rcases hf : ByteSource.fetch k s with ⟨us | _ | _ | error, s'⟩
  all_goals
    rw [hf] at htakes hlt
    rw [h] at htakes
  · obtain ⟨hus, hlen, hx⟩ := htakes
    obtain ⟨rest, hrest, hbelow⟩ := Coming.Past.of_ofUnits (Coming.Off.past hx)
    have hmost : us.length ≤ n := Nat.le_trans hlen hkn
    have hfits : us.length ≤ bs.length := by
      rcases hc with hn | rfl
      · omega
      · rw [List.append_nil] at hrest
        rw [hrest, List.length_append]
        exact Nat.le_add_right _ _
    have hpre : us <+: bs :=
      List.prefix_of_prefix_length_le ⟨rest, hrest.symm⟩ (List.prefix_append bs others) hfits
    obtain ⟨more, rfl⟩ := hpre
    rw [List.append_assoc] at hrest
    rw [← List.append_cancel_left hrest] at hbelow
    exact .inl ⟨us, more, s', rfl, hus, hmost, rfl, hbelow, hlt (by simp)⟩
  · cases hnone : bs ++ others <;> simp [Fetch.Takes, hnone] at htakes
  · obtain ⟨rfl, rfl⟩ := List.append_eq_nil_iff.1 (Coming.ofUnits_eq_nil.1 htakes)
    exact .inr ⟨s', rfl, rfl, rfl⟩
  · cases hnone : bs ++ others <;> simp [Fetch.Takes, hnone] at htakes

theorem fetchBytes_yields {d : Decoding} {s : Rewind × σ} (hn : 0 < n) (he : e.decoder? = none)
    (ha : d.atStart = false) (h : Poised e cs others (d, s)) (hc : n ≤ cs.length ∨ others = []) :
    Yields e n cs others (fetchBytes n (d, s)).1 (fetchBytes n (d, s)).2 := by
  obtain ⟨henc, hw, bs, hfront, hcoming⟩ := h
  have hle := hfront.length_le
  rw [entering_of_atStart ha] at hcoming
  generalize hdec : d.decoder = decoder at hfront
  cases hfront with
  | spelled hce =>
    rw [hce] at he
    cases he
  | narrow =>
    have hmin : 0 < min n maxChunk := by
      simp only [maxChunk]
      omega
    simp only [fetchBytes]
    rcases bytes_of_request hmin (Nat.min_le_left _ _) hle hc hcoming with
      ⟨us, more, s', hf, hus, hlen, rfl, hbelow, -⟩ | ⟨s', hf, rfl, rfl⟩
    all_goals
      rw [hf]
      dsimp only
    · have hfront : Fronts e (more.map Encoding.charOfByte) d.decoder more := by
        rw [hdec]
        exact .narrow he more
      refine ⟨by simpa using hus, by simpa using hlen, _, List.map_append,
        ⟨henc, hw, more, hfront, ?_⟩, fun _ => ⟨by simp [half, hdec], ha⟩⟩
      rw [entering_of_atStart ha]
      exact hbelow
    · exact ⟨rfl, rfl⟩

/-- One request for bytes. If it makes no character the decoder keeps what it brought. -/
theorem advance_yields {c : Charset} {d : Decoding} {s : Rewind × σ} (hn : 0 < n)
    (he : e = .charset c) (hunit : e.bytesPerChar = 1) (ha : d.atStart = false)
    (h : Poised e cs others (d, s)) (hc : n ≤ cs.length ∨ others = []) :
    let r := advance n (d, s)
    (r.1 = none → Poised e cs others r.2 ∧ r.2.1.atStart = false ∧
      (ByteStream.coming r.2.2).length < (ByteStream.coming s).length) ∧
    ∀ f, r.1 = some f → Yields e n cs others f r.2 := by
  obtain ⟨henc, hw, bs, hfront, hcoming⟩ := h
  have hle := hfront.length_le
  rw [entering_of_atStart ha] at hcoming
  generalize hdec : d.decoder = decoder at hfront
  cases hfront with
  | narrow hnone =>
    rw [he] at hnone
    cases hnone
  | @spelled c' spell hce hs hu _ half _ hparts =>
    obtain rfl : c' = c := by
      rw [he] at hce
      exact (Encoding.charset.inj hce).symm
    have hbytes : d.bytesFor n ≤ n := by
      simp only [bytesFor, show d.encoding = e from henc, hunit]
      omega
    simp only [advance]
    rcases bytes_of_request (d.bytesFor_pos n) hbytes hle hc hcoming with
      ⟨us, more, s', hf, hus, hlen, rfl, hbelow, hlt⟩ | ⟨s', hf, rfl, rfl⟩
    all_goals
      rw [hf]
      dsimp only
    · -- what the bytes add to the characters, and the one that they leave half done
      have hall : cs.flatMap spell = (half ++ us) ++ more := by
        rw [List.append_assoc]
        exact hparts.left.symm
      obtain ⟨before, behind, half', hnext⟩ := Charset.exists_parts hall
      have hnew : Charset.Parts spell cs (half ++ us) more ([] ++ before) behind half' := hnext
      have hfeed := hs.feed_between hparts hnew
      have hposed : Poised e behind others
          ({ d with decoder := some (c'.keeping half'), surplus := [] }, s') := by
        refine ⟨henc, ⟨rfl, hw.2⟩, more, .spelled hce hs hu hnext.behind_cut, ?_⟩
        refine (entering_of_atStart ?_ _).trans hbelow
        exact ha
      rw [decode_of_some hdec, hfeed]
      by_cases hnone : before = []
      · obtain rfl := hnone
        obtain rfl : cs = behind := hnext.all
        have hkeeps : d.surplus ++ ([] : List Char).drop n = [] := by simpa using hw.1
        simp only [List.take_nil, List.isEmpty_nil, if_true, hkeeps]
        exact ⟨fun _ => ⟨hposed, ha, hlt⟩, by simp⟩
      · have hcount := hparts.length_le hs hnew hnone
        have hfit : before.length ≤ n := by omega
        have hsur : d.surplus ++ before.drop n = [] := by
          rw [show d.surplus = [] from hw.1, List.drop_eq_nil_of_le hfit, List.append_nil]
        have hsome : before.isEmpty = false := by simpa using hnone
        simp only [List.take_of_length_le hfit, hsome, Bool.false_eq_true, if_false, hsur]
        refine ⟨by simp, ?_⟩
        rintro f ⟨⟩
        refine ⟨hnone, hfit, behind, hnext.all, hposed, fun hlast => ⟨?_, ha⟩⟩
        exact List.length_eq_zero_iff.1 (show half'.length = 0 by omega)
    · -- no byte is left, so no character is half done
      have hnil : cs = [] := List.length_eq_zero_iff.1 (Nat.le_zero.1 hle)
      obtain rfl : half = [] := hparts.half_of_end
      rw [finish_of_some hdec, hs.finish]
      simp only [List.take_nil, List.isEmpty_nil, if_true]
      refine ⟨by simp, ?_⟩
      rintro f ⟨⟩
      exact ⟨hnil, rfl⟩

theorem fetchText_yields {c : Charset} {s : Decoding × Rewind × σ} (hn : 0 < n)
    (he : e = .charset c) (hunit : e.bytesPerChar = 1) (ha : s.1.atStart = false)
    (h : Poised e cs others s) (hc : n ≤ cs.length ∨ others = []) :
    Yields e n cs others (fetchText n s).1 (fetchText n s).2 := by
  obtain ⟨s', f, ⟨h', ha'⟩, hf, hr⟩ := fetchText_eq_answer
    (P := fun s' => Poised e cs others s' ∧ s'.1.atStart = false)
    (by
      rintro s' ⟨h', ha'⟩ hnone
      obtain ⟨hsame, hstart, hlt⟩ := (advance_yields hn he hunit ha' h' hc).1 hnone
      exact ⟨⟨hsame, hstart⟩, hlt⟩)
    ⟨h, ha⟩
  rw [hr]
  exact (advance_yields hn he hunit ha' h' hc).2 f hf

theorem fetchPlain_yields {s : Decoding × Rewind × σ} (hn : 0 < n) (hunit : e.bytesPerChar = 1)
    (ha : s.1.atStart = false) (h : Poised e cs others s) (hc : n ≤ cs.length ∨ others = []) :
    Yields e n cs others (fetchPlain n s).1 (fetchPlain n s).2 := by
  unfold fetchPlain
  rw [h.encoding]
  cases e with
  | charset c => exact fetchText_yields hn rfl hunit ha h hc
  | binary | latin1 => exact fetchBytes_yields hn rfl ha h hc

/-- Looking for a mark leaves the decoding poised, behind it if there was one. -/
theorem skipMark_poised [Settled σ] {s : Decoding × Rewind × σ} (ha : s.1.atStart = true)
    (h : Poised e cs others s) :
    (skipMark s).1 = none ∧ Poised e cs others (skipMark s).2 ∧ (skipMark s).2.1.atStart = false := by
  obtain ⟨d, s⟩ := s
  obtain ⟨henc, hw, bs, hfront, hcoming⟩ := h
  cases hc : d.encoding.markedCharset? with
  | none =>
    have hskip : skipMark (d, s) = (none, d.disarm, s) := by simp [skipMark, hc]
    rw [hskip]
    have hent : d.entering (ByteStream.coming s) = ByteStream.coming s := by simp [entering, hc]
    exact ⟨rfl, ⟨henc, hw, bs, hfront, hent.symm.trans hcoming⟩, rfl⟩
  | some c =>
    have hent : d.entering (ByteStream.coming s) = c.opening [] (ByteStream.coming s) := by
      dsimp only at ha
      simp [entering, ha, hc]
    rw [hent] at hcoming
    have hsearch := skipMark_searched hc s
    rcases hq : skipMark (d, s) with ⟨_ | f, d', s'⟩
    · rw [hq] at hsearch
      obtain ⟨rfl, hx⟩ := hsearch
      exact ⟨rfl, ⟨henc, hw, bs, hfront, hx.symm.trans hcoming⟩, rfl⟩
    · -- bytes and nothing else come in, so nothing holds the search up
      rw [hq] at hsearch
      cases f with
      | got | ended => exact hsearch.elim
      | wouldBlock | failed =>
        have hx := hsearch.2.symm.trans hcoming
        cases hnone : bs ++ others <;> simp [hnone] at hx

theorem fetch_yields [Settled σ] {s : Decoding × Rewind × σ} (hn : 0 < n)
    (hunit : e.bytesPerChar = 1) (h : Poised e cs others s) (hc : n ≤ cs.length ∨ others = []) :
    Yields e n cs others (fetch n s).1 (fetch n s).2 := by
  obtain ⟨d, s⟩ := s
  obtain ⟨hsur, hfin⟩ : d.surplus = [] ∧ d.finished = false := h.waiting
  simp only [fetch]
  rw [if_neg (Nat.pos_iff_ne_zero.1 hn), if_neg (by simp [hsur]), if_neg (by simp [hfin])]
  by_cases ha : d.atStart = true
  · rw [if_pos ha]
    obtain ⟨hnone, hposed, hstart⟩ := skipMark_poised ha h
    rcases hq : skipMark (d, s) with ⟨why, s'⟩
    rw [hq] at hnone hposed hstart
    obtain rfl : why = none := hnone
    exact fetchPlain_yields hn hunit hstart hposed hc
  · rw [if_neg ha]
    exact fetchPlain_yields hn hunit (Bool.eq_false_iff.2 ha) h hc

end Fetch

/-- There is a budget for each of the characters. -/
theorem Poised.length_le_budget {e : Encoding} {cs : List Char} {others : List UInt8}
    {s : Decoding × Rewind × σ} (h : Poised e cs others s) : cs.length ≤ CharSource.budget s := by
  obtain ⟨-, -, bs, hfront, hcoming⟩ := h
  have hchars := hfront.length_le
  have hent := s.1.length_entering_le (ByteStream.coming s.2)
  have hbudget := ByteStream.length_coming_le s.2
  rw [hcoming, Coming.length_ofUnits, List.length_append] at hent
  have hall : CharSource.budget s = s.1.surplus.length + s.1.pending + ByteSource.budget s.2 := rfl
  omega

theorem frugal [Settled σ] {e : Encoding} (hunit : e.bytesPerChar = 1) (others : List UInt8) :
    Lines.Frugal (fun cs (s : Decoding × Rewind × σ) => Poised e cs others s) (fun s => Whole s.1)
      (others = []) where
  answers {n cs s} h hn hc := by
    have hyields := fetch_yields hn hunit h hc
    have hfetch : CharSource.fetch n s = fetch n s := rfl
    rw [hfetch]
    rcases hf : fetch n s with ⟨us | _ | _ | error, s'⟩
    all_goals rw [hf] at hyields
    · obtain ⟨hus, hlen, vs, hsplit, hposed, hlast⟩ := hyields
      exact .inl ⟨us, vs, s', rfl, hus, hlen, hsplit, hposed, hlast⟩
    · exact hyields.elim
    · exact .inr ⟨s', rfl, hyields⟩
    · exact hyields.elim
  budget h := h.length_le_budget

end ScriptChannel.Input.Decoding
