import ScriptChannel.Proofs.Channel.Fresh
import ScriptChannel.Proofs.Input.Settling
import ScriptChannel.Proofs.Stock

/-!
# What the decoding has made of the bytes

Of the bytes spent so far the decoding has made the characters it has handed up, the surplus, and
what its decoder keeps. No fetch upsets this account, whatever it answers.
-/

namespace ScriptChannel.Input.Decoding

/-- What a decoding has in front of it: the stream with its end marker, the bytes up to there that
are no mark, and the decoder that is to decode them, if bytes are not characters as they stand. -/
structure Course where
  encoding : Encoding
  stream : List UInt8
  marker : UInt8
  decoder : Option Charset.Decoder
  body : List UInt8
  decodes : decoder.isSome = encoding.decoder?.isSome

namespace Course

/-- The course of a decoding with nothing left over. A mark is no part of it if one may still come. -/
def of (d : Decoding) (hd : d.decoder.isSome = d.encoding.decoder?.isSome) (stream : List UInt8)
    (marker : UInt8) : Course where
  encoding := d.encoding
  stream := stream
  marker := marker
  decoder := d.decoder
  body := if d.atStart then d.encoding.skipMark (upToMarker marker stream)
    else upToMarker marker stream
  decodes := hd

/-- The course of a decoding that has not begun. -/
def fresh (e : Encoding) (stream : List UInt8) (marker : UInt8) : Course :=
  of (init e) rfl stream marker

/-- All characters of the stream. -/
def text (k : Course) : List Char :=
  match k.decoder with
  | none => k.body.map Encoding.charOfByte
  | some state => (state.feed k.body).1 ++ (state.feed k.body).2.finish.1

theorem decoder_of_binary (k : Course) (hb : k.encoding.isBinary = true) : k.decoder = none := by
  have hdec := k.decodes
  rw [show k.encoding = .binary by simpa [Encoding.isBinary] using hb] at hdec
  exact Option.not_isSome_iff_eq_none.1 (by simp [hdec, Encoding.decoder?])

end Course

/-- Of the bytes behind the mark so many characters have been made. -/
def Spells (k : Course) (bs : List UInt8) (cs : List Char) (d : Decoding) : Prop :=
  match k.decoder with
  | none => d.decoder = none ∧ d.surplus = [] ∧ cs = bs.map Encoding.charOfByte
  | some state =>
    if d.finished then
      d.decoder = some (state.feed bs).2.finish.2 ∧ cs = (state.feed bs).1 ++ (state.feed bs).2.finish.1
    else d.decoder = some (state.feed bs).2 ∧ cs = (state.feed bs).1

section Spells
variable {k : Course} {bs : List UInt8} {cs : List Char} {d : Decoding}

theorem spells_of_none (hk : k.decoder = none) :
    Spells k bs cs d ↔ d.decoder = none ∧ d.surplus = [] ∧ cs = bs.map Encoding.charOfByte := by
  simp [Spells, hk]

theorem spells_of_unfinished {state : Charset.Decoder} (hk : k.decoder = some state)
    (hf : d.finished = false) :
    Spells k bs cs d ↔ d.decoder = some (state.feed bs).2 ∧ cs = (state.feed bs).1 := by
  simp [Spells, hk, hf]

theorem spells_of_finished {state : Charset.Decoder} (hk : k.decoder = some state)
    (hf : d.finished = true) :
    Spells k bs cs d ↔ d.decoder = some (state.feed bs).2.finish.2 ∧
      cs = (state.feed bs).1 ++ (state.feed bs).2.finish.1 := by
  simp [Spells, hk, hf]

end Spells

variable {σ : Type} [ByteSource σ] [ByteStream σ] [Stocked σ]

/-- The account of a decoding that has handed up so many characters: the bytes used so far, and
those among them that are no mark. -/
structure Account (k : Course) (handed : List Char) (used bs : List UInt8)
    (s : Decoding × Rewind × σ) : Prop where
  encoding : s.1.encoding = k.encoding
  spent : Spent k.stream k.marker used s.2
  fresh : s.1.atStart = true → s.1 = init k.encoding ∧ used = [] ∧ bs = []
  behind : k.body = bs ++ (s.1.entering (ByteStream.coming s.2)).units
  spells : Spells k bs (handed ++ s.1.surplus) s.1
  ended : s.1.finished = true → used = upToMarker k.marker k.stream

section Account
variable {k : Course} {handed : List Char} {used bs : List UInt8}

/-- There is a decoder if the encoding needs one. -/
theorem Account.decodes {cs : List Char} {s : Decoding × Rewind × σ} (h : Account k cs used bs s) :
    s.1.decoder.isSome = s.1.encoding.decoder?.isSome := by
  have hspells := h.spells
  rw [h.encoding, ← k.decodes]
  cases hk : k.decoder with
  | none => rw [((spells_of_none hk).1 hspells).1]
  | some state =>
    by_cases hf : s.1.finished = true
    · rw [((spells_of_finished hk hf).1 hspells).1]
      rfl
    · rw [((spells_of_unfinished hk (Bool.eq_false_iff.2 hf)).1 hspells).1]
      rfl

theorem entering_of_atStart {d : Decoding} (ha : d.atStart = false) (xs : Coming UInt8) :
    d.entering xs = xs := by
  simp [entering, ha]

/-- With nothing used yet nothing has been handed up. -/
theorem account_of {d : Decoding} (hd : d.decoder.isSome = d.encoding.decoder?.isSome)
    (hw : d.Waiting) (ha : d.atStart = true → d = init d.encoding) {stream : List UInt8}
    {marker : UInt8} {s : Rewind × σ} (h : Spent stream marker [] s) :
    Account (.of d hd stream marker) [] [] [] (d, s) where
  encoding := rfl
  spent := h
  fresh hstart := ⟨ha hstart, rfl, rfl⟩
  behind := by
    have hcoming : upToMarker marker stream = (ByteStream.coming s).units := h.coming
    simp only [Course.of, hcoming, List.nil_append]
    split
    · rw [ha ‹_›]
      exact (units_entering _ _).symm
    · rw [entering_of_atStart (Bool.eq_false_iff.2 ‹_›)]
  spells := by
    cases hk : d.decoder with
    | none => exact (spells_of_none hk).2 ⟨hk, hw.1, by simpa using hw.1⟩
    | some state => exact (spells_of_unfinished hk hw.2).2 ⟨hk, by simpa [Charset.Decoder.feed] using hw.1⟩
  ended hf := by simp [hw.2] at hf

/-- Bytes that come in past the start are no mark. -/
theorem Account.behind_next {s : Decoding × Rewind × σ}
    (h : Account k handed used bs s) (ha : s.1.atStart = false) {us : List UInt8}
    {s' : Rewind × σ} (hs : Spent k.stream k.marker (used ++ us) s') :
    k.body = bs ++ us ++ (ByteStream.coming s').units := by
  rw [h.behind, entering_of_atStart ha, h.spent.units_coming hs, List.append_assoc]

/-- Nor is anything lost if none come in. -/
theorem Account.behind_same {s : Decoding × Rewind × σ} (h : Account k handed used bs s)
    (ha : s.1.atStart = false) {s' : Rewind × σ} (hs : Spent k.stream k.marker used s') :
    k.body = bs ++ (ByteStream.coming s').units := by
  rw [← List.append_nil used] at hs
  rw [h.behind_next ha hs, List.append_nil]

/-- Bytes that are characters as they stand. -/
theorem Account.map {d : Decoding} {s s' : Rewind × σ}
    (h : Account k handed used bs (d, s)) (hk : k.decoder = none) (hw : d.Waiting)
    (ha : d.atStart = false) {us : List UInt8} (hs : Spent k.stream k.marker (used ++ us) s') :
    Account k (handed ++ us.map Encoding.charOfByte) (used ++ us) (bs ++ us)
      (d, s') where
  encoding := h.encoding
  spent := hs
  fresh hstart := by simp [ha] at hstart
  behind := by
    rw [entering_of_atStart ha]
    exact h.behind_next ha hs
  spells := by
    obtain ⟨hdec, hs, hspells⟩ := (spells_of_none hk).1 h.spells
    dsimp only at hs hspells
    rw [hs, List.append_nil] at hspells
    refine (spells_of_none hk).2 ⟨hdec, hs, ?_⟩
    dsimp only
    rw [hs, List.append_nil, hspells, List.map_append]
  ended hf := by simp [hw.2] at hf

theorem Account.decode {d : Decoding} {s s' : Rewind × σ} {state : Charset.Decoder}
    (h : Account k handed used bs (d, s)) (hk : k.decoder = some state)
    (hw : d.Waiting) (ha : d.atStart = false) {us : List UInt8}
    (hs : Spent k.stream k.marker (used ++ us) s') (n : Nat) :
    Account k (handed ++ (d.decode n us).1) (used ++ us) (bs ++ us)
      ((d.decode n us).2, s') := by
  obtain ⟨hdec, hspells⟩ := (spells_of_unfinished hk hw.2).1 h.spells
  simp only [hw.1, List.append_nil] at hspells
  rw [decode_of_some hdec]
  exact
    { encoding := h.encoding
      spent := hs
      fresh := fun hstart => by simp [ha] at hstart
      behind := by
        rw [entering_of_atStart]
        · exact h.behind_next ha hs
        · exact ha
      spells := by
        refine (spells_of_unfinished hk ?_).2 ?_
        · exact hw.2
        rw [Charset.Decoder.feed_append]
        refine ⟨rfl, ?_⟩
        simp only [hw.1, List.nil_append]
        rw [List.append_assoc, List.take_append_drop, hspells]
      ended := fun hf => by simp [hw.2] at hf }

theorem Account.finish {d : Decoding} {s s' : Rewind × σ} {state : Charset.Decoder}
    (h : Account k handed used bs (d, s)) (hk : k.decoder = some state)
    (hw : d.Waiting) (ha : d.atStart = false) (hs : Spent k.stream k.marker used s')
    (hall : upToMarker k.marker k.stream = used) (n : Nat) :
    Account k (handed ++ (d.finish n).1) used bs ((d.finish n).2, s') := by
  obtain ⟨hdec, hspells⟩ := (spells_of_unfinished hk hw.2).1 h.spells
  simp only [hw.1, List.append_nil] at hspells
  rw [finish_of_some hdec]
  exact
    { encoding := h.encoding
      spent := hs
      fresh := fun hstart => by simp [ha] at hstart
      behind := by
        rw [entering_of_atStart]
        · exact h.behind_same ha hs
        · exact ha
      spells := by
        refine (spells_of_finished hk rfl).2 ⟨rfl, ?_⟩
        simp only [hw.1, List.nil_append]
        rw [List.append_assoc, List.take_append_drop, hspells]
      ended := fun _ => hall.symm }

/-- The same account with nothing more used. -/
theorem Account.still {d : Decoding} {s s' : Rewind × σ}
    (h : Account k handed used bs (d, s)) (ha : d.atStart = false)
    (hs : Spent k.stream k.marker used s') : Account k handed used bs (d, s') where
  encoding := h.encoding
  spent := hs
  fresh hstart := by simp [ha] at hstart
  behind := by
    rw [entering_of_atStart ha]
    exact h.behind_same ha hs
  spells := h.spells
  ended := h.ended

/-- Characters from the surplus are handed up without a look below. -/
theorem Account.takeSurplus {d : Decoding} {s : Rewind × σ}
    (h : Account k handed used bs (d, s)) (hs : d.surplus ≠ []) (n : Nat) :
    Account k (handed ++ d.surplus.take n) used bs
      ({ d with surplus := d.surplus.drop n }, s) where
  encoding := h.encoding
  spent := h.spent
  fresh hstart := by
    have hd := (h.fresh hstart).1
    dsimp only at hd
    rw [hd] at hs
    exact absurd rfl hs
  behind := h.behind
  spells := by
    have hspells := h.spells
    have hsame : handed ++ d.surplus.take n ++ d.surplus.drop n = handed ++ d.surplus := by
      rw [List.append_assoc, List.take_append_drop]
    simp only [hsame]
    cases hk : k.decoder with
    | none => exact absurd ((spells_of_none hk).1 hspells).2.1 hs
    | some state =>
      simp only [Spells, hk] at hspells ⊢
      exact hspells
  ended := h.ended

end Account

/-- So many characters have been handed up. -/
def Handed (k : Course) (cs : List Char) (s : Decoding × Rewind × σ) : Prop :=
  ∃ used bs, Account k cs used bs s

omit [ByteStream σ] [Stocked σ] in
/-- The decoder is finished, and nothing of what it made is left. -/
def Over (s : Decoding × Rewind × σ) : Prop := s.1.finished = true ∧ s.1.surplus = []

omit [ByteSource σ] [ByteStream σ] [Stocked σ] in
/-- An end that leaves no character is the end here. -/
theorem finish_over {d : Decoding} (hw : d.Waiting) {n : Nat} (hn : 0 < n) (h : (d.finish n).1 = [])
    (s : Rewind × σ) : Over ((d.finish n).2, s) := by
  cases hd : d.decoder with
  | none =>
    rw [finish_of_none hd]
    exact ⟨rfl, hw.1⟩
  | some state =>
    rw [finish_of_some hd] at h ⊢
    exact ⟨rfl, by simp [hw.1, take_eq_nil hn h]⟩

section Handed
variable [Settled σ] {k : Course} {cs : List Char} {n : Nat}

/-- One request for bytes. If it makes no character it leaves none over either. -/
theorem advance_handed (hn : 0 < n) {state : Charset.Decoder} (hk : k.decoder = some state)
    {s : Decoding × Rewind × σ} (h : Handed k cs s) (hw : s.1.Waiting)
    (ha : s.1.atStart = false) :
    let r := advance n s
    (r.1.getD .wouldBlock).Truthful (Handed k) Over cs r.2 ∧
      (r.1 = none → r.2.1.Waiting ∧ r.2.1.atStart = false) := by
  obtain ⟨d, s⟩ := s
  obtain ⟨used, bs, h⟩ := h
  have hstart := advance_atStart n (d, s)
  obtain ⟨hspent, hend, hsound⟩ := h.spent.fetch (d.bytesFor_pos n)
  simp only [advance] at hstart ⊢
  rcases hf : ByteSource.fetch (d.bytesFor n) s with ⟨us | _ | _ | error, s'⟩
  all_goals
    rw [hf] at hspent hend hsound hstart
    simp only [Fetch.units, List.append_nil] at hspent
  · have hnext := h.decode hk hw ha hspent n
    by_cases hnone : (d.decode n us).1 = []
    · simp only [hnone, List.isEmpty_nil, if_true] at hnext ⊢
      exact ⟨⟨⟨_, _, hnext⟩, by simp, by simp⟩,
        fun _ => ⟨decode_waiting hw hn hnone, hstart.trans ha⟩⟩
    · have hsome : (d.decode n us).1.isEmpty = false := by simpa using hnone
      simp only [hsome, Bool.false_eq_true, if_false]
      exact ⟨⟨⟨_, _, hnext⟩, by simp, by simp⟩, by simp⟩
  · refine ⟨⟨⟨used, bs, ?_⟩, by simp, by simp⟩, by simp⟩
    simpa [Fetch.units] using h.still ha hspent
  · have hnext := h.finish hk hw ha hspent (hend rfl) n
    by_cases hnone : (d.finish n).1 = []
    · have hover : Over ((d.finish n).2, s') := finish_over hw hn hnone s'
      simp only [hnone, List.isEmpty_nil, if_true] at hnext ⊢
      exact ⟨⟨⟨used, bs, hnext⟩, by simp, fun _ => hover⟩, by simp⟩
    · have hsome : (d.finish n).1.isEmpty = false := by simpa using hnone
      simp only [hsome, Bool.false_eq_true, if_false]
      exact ⟨⟨⟨used, bs, hnext⟩, by simp, by simp⟩, by simp⟩
  · exact absurd rfl (hsound error)

/-- The last of the requests for a text is made with the same handed out. -/
theorem fetchText_last (hn : 0 < n) {state : Charset.Decoder} (hk : k.decoder = some state)
    {s : Decoding × Rewind × σ} (h : Handed k cs s) (hw : s.1.Waiting)
    (ha : s.1.atStart = false) :
    ∃ s', Handed k cs s' ∧ s'.1.Waiting ∧ s'.1.atStart = false ∧
      fetchText n s = ((advance n s').1.getD .wouldBlock, (advance n s').2) := by
  obtain ⟨s', ⟨h', hw', ha'⟩, hr⟩ := fetchText_eq_advance
    (P := fun s' => Handed k cs s' ∧ s'.1.Waiting ∧ s'.1.atStart = false)
    (by
      rintro s' ⟨h', hw', ha'⟩ hnone
      obtain ⟨hnext, hwait⟩ := advance_handed hn hk h' hw' ha'
      have hsame := hnext.adds
      rw [hnone] at hsame
      simp only [Option.getD_none, Fetch.units, List.append_nil] at hsame
      exact ⟨hsame, hwait hnone⟩)
    ⟨h, hw, ha⟩
  exact ⟨s', h', hw', ha', hr⟩

theorem fetchText_handed (hn : 0 < n) {state : Charset.Decoder} (hk : k.decoder = some state)
    {s : Decoding × Rewind × σ} (h : Handed k cs s) (hw : s.1.Waiting)
    (ha : s.1.atStart = false) :
    (fetchText n s).1.Truthful (Handed k) Over cs (fetchText n s).2 := by
  obtain ⟨s', h', hw', ha', hr⟩ := fetchText_last hn hk h hw ha
  rw [hr]
  exact (advance_handed hn hk h' hw' ha').1

theorem fetchBytes_handed (hn : 0 < n) (hk : k.decoder = none) {s : Decoding × Rewind × σ}
    (h : Handed k cs s) (hw : s.1.Waiting) (ha : s.1.atStart = false) :
    (fetchBytes n s).1.Truthful (Handed k) Over cs (fetchBytes n s).2 := by
  obtain ⟨d, s⟩ := s
  obtain ⟨used, bs, h⟩ := h
  have hmin : 0 < min n maxChunk := by
    simp only [maxChunk]
    omega
  obtain ⟨hspent, hend, hsound⟩ := h.spent.fetch hmin
  simp only [fetchBytes]
  rcases hf : ByteSource.fetch (min n maxChunk) s with ⟨us | _ | _ | error, s'⟩
  all_goals
    rw [hf] at hspent hend hsound
    simp only [Fetch.units, List.append_nil] at hspent
  · exact ⟨⟨_, _, h.map hk hw ha hspent⟩, by simp, by simp⟩
  · refine ⟨⟨used, bs, ?_⟩, by simp, by simp⟩
    simpa [Fetch.units] using h.still ha hspent
  · have hnext := h.still ha hspent
    have hspells := (spells_of_none hk).1 hnext.spells
    refine ⟨⟨used, bs, ?_⟩, by simp, fun _ => ⟨rfl, hw.1⟩⟩
    simp only [Fetch.units, List.append_nil]
    exact
      { encoding := hnext.encoding
        spent := hnext.spent
        fresh := fun hstart => absurd (ha.symm.trans hstart) (by decide)
        behind := hnext.behind
        spells := (spells_of_none hk).2 hspells
        ended := fun _ => (hend rfl).symm }
  · exact absurd rfl (hsound error)

theorem fetchPlain_handed (hn : 0 < n) {s : Decoding × Rewind × σ}
    (h : Handed k cs s) (hw : s.1.Waiting) (ha : s.1.atStart = false) :
    (fetchPlain n s).1.Truthful (Handed k) Over cs (fetchPlain n s).2 := by
  have he : s.1.encoding = k.encoding := by
    obtain ⟨used, bs, h⟩ := h
    exact h.encoding
  have hk := k.decodes
  unfold fetchPlain
  rw [he]
  cases hke : k.encoding with
  | charset c =>
    rw [hke] at hk
    obtain ⟨state, hstate⟩ := Option.isSome_iff_exists.1 hk
    exact fetchText_handed hn hstate h hw ha
  | binary | latin1 =>
    rw [hke] at hk
    exact fetchBytes_handed hn (Option.not_isSome_iff_eq_none.1 (by simp [hk, Encoding.decoder?])) h hw ha

/-- What the search for a mark spends is a mark that it found; otherwise all is handed back. -/
theorem skipMark_spent {d : Decoding} {s : Rewind × σ}
    (h : Spent k.stream k.marker [] s) :
    let r := skipMark (d, s)
    (∃ front, Spent k.stream k.marker front r.2.2 ∧ (r.1 ≠ none → front = [])) ∧
      ∀ error, r.1 ≠ some (.failed error) := by
  obtain ⟨r, s⟩ := s
  simp only [skipMark]
  cases hc : d.encoding.markedCharset? with
  | none => exact ⟨⟨[], h, fun _ => rfl⟩, by simp⟩
  | some c =>
    have hmark : Spent k.stream k.marker [] (r.mark markLength, s) := ⟨h.stock, h.lasting, h.coming, h.sound⟩
    obtain ⟨hspent, -, hsound⟩ := hmark.collect (show 0 < markLength by decide) markLength
    obtain ⟨-, -, -, hreset⟩ := Rewind.collect_reset (show 0 < markLength by decide) markLength (r, s)
    dsimp only
    rcases hq : collect markLength ByteSource.run markLength (r.mark markLength, s) with
      ⟨⟨us, halt⟩, r', s'⟩
    rw [hq] at hspent hsound hreset
    dsimp only at hspent hsound hreset
    have hback := hspent.handBack
    cases halt with
    | failed error => exact absurd rfl (hsound error)
    | served | wouldBlock | ended =>
      simp only [hreset]
      split
      · exact ⟨⟨[], hback, fun _ => rfl⟩, by simp⟩
      split
      · rename_i hfound
        obtain ⟨mark, hm, hne, -⟩ := Charset.ofMark?_eq_some hfound
        have hpos : 0 < (c.mark?.getD []).length := by
          rw [hm]
          exact List.length_pos_iff.2 hne
        obtain ⟨hpast, -, hpassed⟩ := hback.fetch hpos
        simp only [ByteSource.fetch] at hpast hpassed
        rcases hf : Rewind.fetch (c.mark?.getD []).length
          ((⟨[], us ++ r'.ahead, none⟩ : Rewind), s') with ⟨vs | _ | _ | error, s''⟩
        all_goals rw [hf] at hpast hpassed
        · exact ⟨⟨_, hpast, by simp⟩, by simp⟩
        · exact ⟨⟨_, hpast, by simp⟩, by simp⟩
        · exact ⟨⟨_, hpast, by simp⟩, by simp⟩
        · exact absurd rfl (hpassed error)
      · exact ⟨⟨[], hback, fun _ => rfl⟩, by simp⟩

/-- The search for a mark hands up nothing. When it is over the stream stands behind the mark. -/
theorem skipMark_handed {d : Decoding} {s : Rewind × σ} (h : Handed k cs (d, s))
    (ha : d.atStart = true) :
    let r := skipMark (d, s)
    Handed k cs r.2 ∧ (r.1 = none → r.2.1 = d.disarm) ∧
      ∀ f, r.1 = some f → f = .wouldBlock := by
  obtain ⟨used, bs, h⟩ := h
  obtain ⟨hd, rfl, rfl⟩ := h.fresh ha
  dsimp only at hd
  subst hd
  have hbehind := h.behind
  have hspells := h.spells
  cases hc : (init k.encoding).encoding.markedCharset? with
  | none =>
    have hskip : skipMark (init k.encoding, s) = (none, (init k.encoding).disarm, s) := by simp [skipMark, hc]
    rw [hskip]
    refine ⟨⟨[], [], ?_⟩, fun _ => rfl, by simp⟩
    exact
      { encoding := rfl
        spent := h.spent
        fresh := fun hstart => by simp [disarm] at hstart
        behind := by
          rw [hbehind, entering_disarm]
          simp [entering, hc]
        spells := hspells
        ended := by simp [disarm, init] }
  | some c =>
    have hent : ∀ xs, (init k.encoding).entering xs = c.opening [] xs := fun xs => by
      simp only [entering, hc]
      rfl
    have hsearch := skipMark_searched hc s
    obtain ⟨⟨front, hspent, hfront⟩, hsound⟩ := skipMark_spent (d := init k.encoding) h.spent
    rcases hq : skipMark (init k.encoding, s) with ⟨_ | f, d', s'⟩
    · rw [hq] at hsearch hspent
      obtain ⟨rfl, hx⟩ := hsearch
      refine ⟨⟨front, [], ?_⟩, fun _ => rfl, by simp⟩
      exact
        { encoding := rfl
          spent := hspent
          fresh := fun hstart => by simp [disarm] at hstart
          behind := by
            rw [hbehind, hent, hx]
            rfl
          spells := hspells
          ended := by simp [disarm, init] }
    · rw [hq] at hsearch hspent hfront hsound
      obtain rfl := hfront (by simp)
      cases f with
      | got us => exact hsearch.elim
      | ended => exact hsearch.elim
      | failed error => exact absurd rfl (hsound error)
      | wouldBlock =>
        obtain ⟨rfl, hx⟩ := hsearch
        refine ⟨⟨[], [], ?_⟩, by simp, ?_⟩
        · exact
            { encoding := rfl
              spent := hspent
              fresh := fun _ => ⟨rfl, rfl, rfl⟩
              behind := by
                rw [hbehind, hent, hent, hx]
                rfl
              spells := hspells
              ended := by simp [init] }
        · rintro f ⟨⟩
          rfl

/-- Whatever a fetch answers, it is no failure, and what it brings has been handed up. -/
theorem fetch_handed (hn : 0 < n) {s : Decoding × Rewind × σ} (h : Handed k cs s) :
    (fetch n s).1.Truthful (Handed k) Over cs (fetch n s).2 := by
  obtain ⟨d, s⟩ := s
  simp only [fetch]
  rw [if_neg (Nat.pos_iff_ne_zero.1 hn)]
  by_cases hs : d.surplus = []
  · by_cases hf : d.finished = true
    · simp only [hs, List.isEmpty_nil, Bool.not_true, Bool.false_eq_true, if_false, hf, if_true]
      exact ⟨by simpa [Fetch.units] using h, by simp, fun _ => ⟨hf, hs⟩⟩
    · have hw : d.Waiting := ⟨hs, Bool.eq_false_iff.2 hf⟩
      simp only [hs, List.isEmpty_nil, Bool.not_true, Bool.false_eq_true, if_false, hf]
      by_cases ha : d.atStart = true
      · rw [if_pos ha]
        obtain ⟨hnext, hdis, hsome⟩ := skipMark_handed h ha
        rcases hq : skipMark (d, s) with ⟨_ | f, d', s'⟩
        · rw [hq] at hnext hdis
          have hd' : d' = d.disarm := hdis rfl
          subst hd'
          exact fetchPlain_handed hn hnext hw rfl
        · rw [hq] at hnext hsome
          obtain rfl := hsome f rfl
          exact ⟨by simpa [Fetch.units] using hnext, by simp, by simp⟩
      · rw [if_neg ha]
        exact fetchPlain_handed hn h hw (Bool.eq_false_iff.2 ha)
  · have hs' : d.surplus.isEmpty = false := by simpa using hs
    obtain ⟨used, bs, h⟩ := h
    simp only [hs', Bool.not_false, if_true]
    exact ⟨⟨used, bs, h.takeSurplus hs n⟩, by simp, by simp⟩

omit [Settled σ] in
/-- Of the stages below only their account matters. -/
theorem Handed.congr {d : Decoding} {s s' : Rewind × σ} (h : Handed k cs (d, s))
    (hs : ∀ used, Spent k.stream k.marker used s → Spent k.stream k.marker used s')
    (hc : ByteStream.coming s' = ByteStream.coming s) : Handed k cs (d, s') := by
  obtain ⟨used, bs, h⟩ := h
  refine ⟨used, bs, ⟨h.encoding, hs used h.spent, h.fresh, ?_, h.spells, h.ended⟩⟩
  rw [hc]
  exact h.behind

omit [Settled σ] in
/-- The bytes of a finished decoding are all there are. -/
theorem Account.body_of_finished {used bs : List UInt8} {s : Decoding × Rewind × σ}
    (h : Account k cs used bs s) (hf : s.1.finished = true) : k.body = bs := by
  have ha : s.1.atStart = false := by
    apply Bool.eq_false_iff.2
    intro hstart
    rw [(h.fresh hstart).1] at hf
    exact absurd hf (by simp [init])
  have hall := h.spent.coming
  rw [← h.ended hf] at hall
  have hnil : (ByteStream.coming s.2).units = [] := List.self_eq_append_right.1 hall
  rw [h.behind, entering_of_atStart ha, hnil, List.append_nil]

omit [Settled σ] in
/-- When it is over all characters of the stream have been handed up. -/
theorem Handed.eq_text {s : Decoding × Rewind × σ} (h : Handed k cs s) (ho : Over s) :
    cs = k.text := by
  obtain ⟨used, bs, h⟩ := h
  obtain ⟨hf, hs⟩ := ho
  have hspells := h.spells
  rw [hs, List.append_nil] at hspells
  unfold Course.text
  rw [h.body_of_finished hf]
  cases hk : k.decoder with
  | none => exact ((spells_of_none hk).1 hspells).2.2
  | some state => exact ((spells_of_finished hk hf).1 hspells).2

omit [Settled σ] in
/-- Until then they are the first characters of the stream. -/
theorem Handed.begins_text {s : Decoding × Rewind × σ} (h : Handed k cs s) : cs <+: k.text := by
  obtain ⟨used, bs, h⟩ := h
  have hspells := h.spells
  have hall : cs ++ s.1.surplus <+: k.text := by
    unfold Course.text
    cases hk : k.decoder with
    | none =>
      rw [((spells_of_none hk).1 hspells).2.2, h.behind, List.map_append]
      exact List.prefix_append _ _
    | some state =>
      by_cases hf : s.1.finished = true
      · refine ⟨[], ?_⟩
        rw [((spells_of_finished hk hf).1 hspells).2, h.body_of_finished hf, List.append_nil]
      · rw [((spells_of_unfinished hk (Bool.eq_false_iff.2 hf)).1 hspells).2, h.behind]
        dsimp only
        rw [Charset.Decoder.feed_append, List.append_assoc]
        exact List.prefix_append _ _
  exact (List.prefix_append cs s.1.surplus).trans hall

section Around
variable {d : Decoding} {s s' : Rewind × σ} {used bs us : List UInt8}

omit [Settled σ] in
theorem Account.behind_around (h : Account k cs used bs (d, s))
    (hm : k.encoding.markedCharset? = none) (hs : Spent k.stream k.marker (used ++ us) s') :
    k.body = bs ++ us ++ (ByteStream.coming s').units := by
  have hent : d.entering (ByteStream.coming s) = ByteStream.coming s := by
    simp [entering, show d.encoding = k.encoding from h.encoding, hm]
  have hcoming : (ByteStream.coming s).units = us ++ (ByteStream.coming s').units :=
    h.spent.units_coming hs
  rw [h.behind, hent, hcoming, List.append_assoc]

omit [Settled σ] in
/-- Bytes that are characters as they stand may be taken around the decoding, whether it notices or
nothing was taken. -/
theorem Account.around (h : Account k cs used bs (d, s)) (hk : k.decoder = none)
    (hm : k.encoding.markedCharset? = none) (hs : Spent k.stream k.marker (used ++ us) s')
    {d' : Decoding} (hd : d' = d.disarm ∨ d' = d ∧ us = []) :
    Account k (cs ++ us.map Encoding.charOfByte) (used ++ us) (bs ++ us) (d', s') := by
  have hsame : d'.encoding = d.encoding ∧ d'.decoder = d.decoder ∧ d'.surplus = d.surplus ∧
      d'.finished = d.finished := by
    rcases hd with rfl | ⟨rfl, -⟩ <;> exact ⟨rfl, rfl, rfl, rfl⟩
  obtain ⟨henc, hkeep, hsur, hfin⟩ := hsame
  obtain ⟨hdec, hnil, hspells⟩ := (spells_of_none hk).1 h.spells
  dsimp only at hnil hspells
  rw [hnil, List.append_nil] at hspells
  refine ⟨henc.trans h.encoding, hs, ?_, ?_, ?_, ?_⟩
  · intro hstart
    rcases hd with rfl | ⟨rfl, rfl⟩
    · simp [disarm] at hstart
    · simpa using h.fresh hstart
  · have hent : d'.entering (ByteStream.coming s') = ByteStream.coming s' := by
      simp [entering, henc, show d.encoding = k.encoding from h.encoding, hm]
    rw [hent]
    exact h.behind_around hm hs
  · refine (spells_of_none hk).2 ⟨hkeep.trans hdec, hsur.trans hnil, ?_⟩
    dsimp only
    rw [hsur, hnil, List.append_nil, hspells, List.map_append]
  · intro hf
    dsimp only at hf
    rw [hfin] at hf
    have hall := hs.coming
    rw [← h.ended hf, List.append_assoc] at hall
    have hus : us = [] := (List.append_eq_nil_iff.1 (List.self_eq_append_right.1 hall)).1
    rw [hus, List.append_nil]
    exact h.ended hf

omit [Settled σ] in
/-- With all bytes used all characters have been handed up. -/
theorem Account.eq_text_around (h : Account k cs used bs (d, s)) (hk : k.decoder = none)
    (hm : k.encoding.markedCharset? = none) (hall : upToMarker k.marker k.stream = used) :
    cs = k.text := by
  have hspent : Spent k.stream k.marker (used ++ []) s := by
    rw [List.append_nil]
    exact h.spent
  have hbody := h.behind_around hm hspent
  have hcoming := h.spent.coming
  rw [hall] at hcoming
  have hnil : (ByteStream.coming s).units = [] := List.self_eq_append_right.1 hcoming
  rw [hnil, List.append_nil, List.append_nil] at hbody
  obtain ⟨-, hsur, hspells⟩ := (spells_of_none hk).1 h.spells
  dsimp only at hsur hspells
  rw [hsur, List.append_nil] at hspells
  simp only [Course.text, hk, hspells, hbody]

end Around

omit [Settled σ] in
/-- Of bytes that are characters as they stand it is certain what has been handed up. -/
theorem Handed.unique {us vs : List Char} {s : Decoding × Rewind × σ} (hk : k.decoder = none)
    (h : Handed k us s) (h' : Handed k vs s) : us = vs := by
  obtain ⟨used, bs, h⟩ := h
  obtain ⟨used', bs', h'⟩ := h'
  obtain ⟨-, hnil, hspells⟩ := (spells_of_none hk).1 h.spells
  obtain ⟨-, -, hspells'⟩ := (spells_of_none hk).1 h'.spells
  rw [hnil, List.append_nil] at hspells hspells'
  have hbs : bs = bs' := List.append_cancel_right (h.behind.symm.trans h'.behind)
  rw [hspells, hspells', hbs]

/-- A source of characters that are decoded gives answers to go by. -/
theorem tells (k : Course) : Lines.Tells (Handed k) (Over (σ := σ)) :=
  fun _ _ _ hn h => fetch_handed hn h

end Handed

end ScriptChannel.Input.Decoding
