import ScriptChannel.Input.Decoding
import ScriptChannel.Proofs.Charset.Coming
import ScriptChannel.Proofs.Input.Rewind
import ScriptChannel.Proofs.Persist

/-!
# From bytes to characters, signal by signal

What is to come is the surplus and then, unless the decoder is finished, what it makes of the
signals from below, with a byte order mark taken out of them if one may still stand there.
-/

/-- The set whose mark may stand at the start has one. -/
theorem ScriptChannel.Encoding.mark_of_markedCharset {e : Encoding} {c : Charset}
    (h : e.markedCharset? = some c) : ∃ mark, c.mark? = some mark := by
  cases e with
  | charset c' =>
    simp only [markedCharset?] at h
    split at h
    · obtain rfl := Option.some.inj h
      exact Option.isSome_iff_exists.1 ‹_›
    · simp at h
  | binary | latin1 => simp [markedCharset?] at h

namespace ScriptChannel.Input.Decoding

/-- The signals from below as characters. -/
def reading (d : Decoding) (xs : Coming UInt8) : Coming Char :=
  match d.encoding, d.decoder with
  | .charset _, some state => state.coming xs
  | .charset _, none => xs.silence
  | _, _ => xs.map Encoding.charOfByte

/-- The signals from below without a byte order mark, if one may still stand there. -/
def entering (d : Decoding) (xs : Coming UInt8) : Coming UInt8 :=
  match d.atStart, d.encoding.markedCharset? with
  | true, some c => c.opening [] xs
  | _, _ => xs

theorem reading_disarm (d : Decoding) (xs : Coming UInt8) : d.disarm.reading xs = d.reading xs := rfl

theorem entering_disarm (d : Decoding) (xs : Coming UInt8) : d.disarm.entering xs = xs := rfl

section Charset
variable {d : Decoding} {c : Charset} (he : d.encoding = .charset c)
include he

theorem reading_of_some {state : Charset.Decoder} (hd : d.decoder = some state) (xs : Coming UInt8) :
    d.reading xs = state.coming xs := by
  simp [reading, he, hd]

theorem reading_of_none (hd : d.decoder = none) (xs : Coming UInt8) : d.reading xs = xs.silence := by
  simp [reading, he, hd]

/-- A reading of a set lets everything but bytes through. -/
theorem reading_signals (xs : Coming UInt8) :
    d.reading (.delay :: xs) = .delay :: d.reading xs ∧
      ∀ e, d.reading (.failure e :: xs) = .failure e :: d.reading xs := by
  cases hd : d.decoder with
  | none => simp [reading_of_none he hd, Coming.silence]
  | some state => simp [reading_of_some he hd, Charset.Decoder.coming]

end Charset

theorem reading_of_bytes {d : Decoding} (he : ∀ c, d.encoding ≠ .charset c) (xs : Coming UInt8) :
    d.reading xs = xs.map Encoding.charOfByte := by
  unfold reading
  split
  · exact absurd ‹_› (he _)
  · exact absurd ‹_› (he _)
  · rfl

theorem decode_of_some {d : Decoding} {state : Charset.Decoder} (hd : d.decoder = some state) (n : Nat)
    (bs : List UInt8) :
    d.decode n bs =
      ((state.feed bs).1.take n,
        { d with
          decoder := some (state.feed bs).2
          surplus := d.surplus ++ (state.feed bs).1.drop n }) := by
  simp [decode, hd]

theorem decode_of_none {d : Decoding} (hd : d.decoder = none) (n : Nat) (bs : List UInt8) :
    d.decode n bs = ([], d) := by
  simp [decode, hd]

theorem finish_of_some {d : Decoding} {state : Charset.Decoder} (hd : d.decoder = some state)
    (n : Nat) :
    d.finish n =
      (state.finish.1.take n,
        { d with
          decoder := some state.finish.2
          surplus := d.surplus ++ state.finish.1.drop n
          finished := true }) := by
  simp [finish, hd]

theorem finish_of_none {d : Decoding} (hd : d.decoder = none) (n : Nat) :
    d.finish n = ([], { d with finished := true }) := by
  simp [finish, hd]

theorem length_reading_le (d : Decoding) (xs : Coming UInt8) :
    (d.reading xs).length ≤ d.pending + xs.length := by
  cases he : d.encoding with
  | charset c =>
    cases hd : d.decoder with
    | none =>
      rw [reading_of_none he hd]
      exact Nat.le_trans (Coming.length_silence_le xs) (Nat.le_add_left _ _)
    | some state =>
      rw [reading_of_some he hd]
      simpa [pending, hd] using state.length_coming_le xs
  | binary | latin1 =>
    rw [reading_of_bytes (by simp [he]), Coming.length_map]
    exact Nat.le_add_left _ _

theorem length_entering_le (d : Decoding) (xs : Coming UInt8) :
    (d.entering xs).length ≤ xs.length := by
  unfold entering
  split
  · simpa using Charset.length_opening_le _ [] xs
  · exact Nat.le_refl _

/-- Delays and failures from below get through. -/
theorem silence_reading {β : Type} (d : Decoding) (xs : Coming UInt8) :
    ((d.reading xs).silence : Coming β) = xs.silence := by
  cases he : d.encoding with
  | charset c =>
    cases hd : d.decoder with
    | none => rw [reading_of_none he hd, Coming.silence_silence]
    | some state => rw [reading_of_some he hd, state.silence_coming]
  | binary | latin1 => rw [reading_of_bytes (by simp [he]), Coming.silence_map]

theorem silence_entering {β : Type} (d : Decoding) (xs : Coming UInt8) :
    ((d.entering xs).silence : Coming β).Sublist xs.silence := by
  unfold entering
  split
  · exact Charset.silence_opening _ _ _
  · exact List.Sublist.refl _

section Stream
variable {σ : Type} [ByteSource σ] [ByteStream σ]

/-- What is to come if no byte order mark is looked for. -/
def plain (s : Decoding × Rewind × σ) : Coming Char :=
  Coming.ofUnits s.1.surplus ++ if s.1.finished then [] else s.1.reading (ByteStream.coming s.2)

/-- What is to come from this stage. -/
def coming (s : Decoding × Rewind × σ) : Coming Char :=
  Coming.ofUnits s.1.surplus ++
    if s.1.finished then [] else s.1.reading (s.1.entering (ByteStream.coming s.2))

/-- Nothing is left over from the last answer, and the end was not met. -/
def Waiting (d : Decoding) : Prop := d.surplus = [] ∧ d.finished = false

theorem plain_of_waiting {d : Decoding} (h : d.Waiting) (s : Rewind × σ) :
    plain (d, s) = d.reading (ByteStream.coming s) := by
  simp [plain, h.1, h.2]

theorem fetchBytes_takes {n : Nat} (hn : 0 < n) {d : Decoding} (hd : d.Waiting)
    (he : ∀ c, d.encoding ≠ .charset c) (s : Rewind × σ) :
    (fetchBytes n (d, s)).1.Takes n (plain (d, s)) (plain (fetchBytes n (d, s)).2) := by
  have ht := ByteStream.fetch_takes (min n maxChunk) s (by simp [maxChunk]; omega)
  rw [plain_of_waiting hd, reading_of_bytes he]
  simp only [fetchBytes]
  rcases hf : ByteSource.fetch (min n maxChunk) s with ⟨f, s'⟩
  rw [hf] at ht
  cases f with
  | got bs =>
    obtain ⟨hbs, hlen, hx⟩ := ht
    dsimp only at hx
    refine ⟨by simpa using hbs, by simp only [List.length_map]; omega, ?_⟩
    rw [hx, Coming.map_ofUnits_append, plain_of_waiting hd, reading_of_bytes he]
  | wouldBlock =>
    have hx : ByteStream.coming s = .delay :: ByteStream.coming s' := ht
    dsimp only [Fetch.Takes]
    rw [hx, plain_of_waiting hd, reading_of_bytes he]
    rfl
  | ended =>
    have hx : ByteStream.coming s = [] := ht
    simp [Fetch.Takes, hx, Coming.map]
  | failed e =>
    have hx : ByteStream.coming s = .failure e :: ByteStream.coming s' := ht
    dsimp only [Fetch.Takes]
    rw [hx, plain_of_waiting hd, reading_of_bytes he]
    rfl

theorem bytesFor_pos (d : Decoding) (n : Nat) : 0 < d.bytesFor n := by
  have hunit : 0 < d.encoding.bytesPerChar := by
    unfold Encoding.bytesPerChar
    split
    · split <;> decide
    · decide
  simp only [bytesFor]
  omega

/-- Decoding moves what the bytes stand for from below to the answer and the surplus. -/
theorem decode_reading {d : Decoding} {c : Charset} (he : d.encoding = .charset c)
    (hw : d.Waiting) (n : Nat) (bs : List UInt8) (s : Rewind × σ) :
    d.reading (Coming.ofUnits bs ++ ByteStream.coming s) =
      Coming.ofUnits (d.decode n bs).1 ++ plain ((d.decode n bs).2, s) := by
  obtain ⟨hs, hf⟩ := hw
  cases hd : d.decoder with
  | none =>
    rw [decode_of_none hd, plain_of_waiting ⟨hs, hf⟩, reading_of_none he hd, reading_of_none he hd,
      Coming.silence_ofUnits_append]
    rfl
  | some state =>
    rw [decode_of_some hd, reading_of_some he hd, state.coming_ofUnits_append]
    simp only [plain, hs, hf, List.nil_append, Bool.false_eq_true, if_false]
    rw [reading_of_some (by exact he) (by rfl), ← List.append_assoc, ← Coming.ofUnits_append,
      List.take_append_drop]

theorem finish_reading {d : Decoding} {c : Charset} (he : d.encoding = .charset c)
    (hw : d.Waiting) (n : Nat) (s : Rewind × σ) :
    d.reading [] = Coming.ofUnits (d.finish n).1 ++ plain ((d.finish n).2, s) := by
  obtain ⟨hs, -⟩ := hw
  cases hd : d.decoder with
  | none => simp [finish_of_none hd, reading_of_none he hd, plain, hs, Coming.silence]
  | some state =>
    rw [finish_of_some hd, reading_of_some he hd]
    simp only [plain, hs, List.nil_append, if_true, List.append_nil]
    rw [← Coming.ofUnits_append, List.take_append_drop]
    rfl

theorem length_decode_le (d : Decoding) (n : Nat) (bs : List UInt8) : (d.decode n bs).1.length ≤ n := by
  unfold decode
  split
  · exact Nat.zero_le _
  · exact List.length_take_le _ _

theorem length_finish_le (d : Decoding) (n : Nat) : (d.finish n).1.length ≤ n := by
  unfold finish
  split
  · exact Nat.zero_le _
  · exact List.length_take_le _ _

/-- Nothing of a text is handed out only if there is none. -/
theorem take_eq_nil {n : Nat} (hn : 0 < n) {cs : List Char} (h : cs.take n = []) : cs = [] := by
  rcases List.take_eq_nil_iff.1 h with h0 | h0
  · omega
  · exact h0

/-- Bytes that make no character leave no surplus either. -/
theorem decode_waiting {d : Decoding} (hw : d.Waiting) {n : Nat} (hn : 0 < n) {bs : List UInt8}
    (h : (d.decode n bs).1 = []) : (d.decode n bs).2.Waiting := by
  cases hd : d.decoder with
  | none =>
    rw [decode_of_none hd]
    exact hw
  | some state =>
    rw [decode_of_some hd] at h ⊢
    have hnone := take_eq_nil hn h
    exact ⟨by simp [hw.1, hnone], hw.2⟩

/-- An end that leaves no character leaves none to come. -/
theorem finish_plain {d : Decoding} (hw : d.Waiting) {n : Nat} (hn : 0 < n)
    (h : (d.finish n).1 = []) (s : Rewind × σ) : plain ((d.finish n).2, s) = [] := by
  cases hd : d.decoder with
  | none => simp [finish_of_none hd, plain, hw.1]
  | some state =>
    rw [finish_of_some hd] at h ⊢
    have hnone := take_eq_nil hn h
    simp [plain, hw.1, hnone]

theorem decode_encoding (d : Decoding) (n : Nat) (bs : List UInt8) :
    (d.decode n bs).2.encoding = d.encoding := by
  unfold decode
  split <;> rfl

/-- One request for bytes: an answer that takes, or none, and then nothing changes but that bytes
have gone down into the decoder. -/
theorem advance_takes {n : Nat} (hn : 0 < n) {d : Decoding} {c : Charset}
    (he : d.encoding = .charset c) (hd : d.Waiting) (s : Rewind × σ) :
    match (advance n (d, s)).1 with
    | some f => f.Takes n (plain (d, s)) (plain (advance n (d, s)).2)
    | none =>
      plain (advance n (d, s)).2 = plain (d, s) ∧ (advance n (d, s)).2.1.Waiting ∧
        (advance n (d, s)).2.1.encoding = .charset c ∧
        (ByteStream.coming (advance n (d, s)).2.2).length < (ByteStream.coming s).length := by
  have ht := ByteStream.fetch_takes (d.bytesFor n) s (d.bytesFor_pos n)
  rw [plain_of_waiting hd]
  simp only [advance]
  rcases hf : ByteSource.fetch (d.bytesFor n) s with ⟨f, s'⟩
  rw [hf] at ht
  have hlt := ht.length_lt
  cases f with
  | got bs =>
    obtain ⟨hbs, hlen, hx⟩ := ht
    dsimp only at hx hlt ⊢
    rw [hx, decode_reading he hd n bs s']
    by_cases hnone : (d.decode n bs).1 = []
    · simp only [hnone, List.isEmpty_nil, if_true]
      rw [← hx]
      exact ⟨by simp, decode_waiting hd hn hnone, (decode_encoding d n bs).trans he,
        hlt (by simp)⟩
    · have hsome : (d.decode n bs).1.isEmpty = false := by simpa using hnone
      simp only [hsome, Bool.false_eq_true, if_false]
      exact ⟨hnone, length_decode_le d n bs, rfl⟩
  | wouldBlock =>
    have hx : ByteStream.coming s = .delay :: ByteStream.coming s' := ht
    dsimp only [Fetch.Takes]
    rw [hx, (reading_signals he _).1, plain_of_waiting hd]
  | ended =>
    have hx : ByteStream.coming s = [] := ht
    dsimp only
    rw [hx, finish_reading he hd n s']
    by_cases hnone : (d.finish n).1 = []
    · simp only [hnone, List.isEmpty_nil, if_true, Fetch.Takes, Coming.ofUnits_nil, List.nil_append]
      exact finish_plain hd hn hnone s'
    · have hsome : (d.finish n).1.isEmpty = false := by simpa using hnone
      simp only [hsome, Bool.false_eq_true, if_false]
      exact ⟨hnone, length_finish_le d n, rfl⟩
  | failed e =>
    have hx : ByteStream.coming s = .failure e :: ByteStream.coming s' := ht
    dsimp only [Fetch.Takes]
    rw [hx, (reading_signals he _).2, plain_of_waiting hd]

omit [ByteStream σ] in
/-- What the requests that bring no character preserve holds before the last one, and a fetch of text has
the answer to that. -/
theorem fetchText_eq_advance {P : Decoding × Rewind × σ → Prop} {n : Nat}
    (next : ∀ s, P s → (advance n s).1 = none → P (advance n s).2) {s : Decoding × Rewind × σ}
    (h : P s) :
    ∃ s', P s' ∧ fetchText n s = ((advance n s').1.getD .wouldBlock, (advance n s').2) := by
  obtain ⟨s', hs', hr⟩ := persist_eq_attempt Option.isNone
    (fun s : Decoding × Rewind × σ => ByteSource.budget s.2) (advance n)
    (fun s hs hnone => next s hs (Option.isNone_iff_eq_none.1 hnone)) h
  exact ⟨s', hs', by simp only [fetchText, hr]⟩

/-- If they take something from what is to come besides, the last one brings an answer. -/
theorem fetchText_eq_answer {P : Decoding × Rewind × σ → Prop} {n : Nat}
    (next : ∀ s, P s → (advance n s).1 = none → P (advance n s).2 ∧
      (ByteStream.coming (advance n s).2.2).length < (ByteStream.coming s.2).length)
    {s : Decoding × Rewind × σ} (h : P s) :
    ∃ s' f, P s' ∧ (advance n s').1 = some f ∧ fetchText n s = (f, (advance n s').2) := by
  obtain ⟨s', hs', hr, hlast⟩ := persist_settles Option.isNone
    (fun s : Decoding × Rewind × σ => ByteSource.budget s.2) (advance n)
    (fun s' _ => ByteStream.length_coming_le s'.2)
    (fun s hs hnone => next s hs (Option.isNone_iff_eq_none.1 hnone)) h
  obtain ⟨f, hf⟩ := Option.isSome_iff_exists.1 (by simpa using hlast)
  exact ⟨s', f, hs', hf, by simp only [fetchText, hr, hf, Option.getD_some]⟩

/-- The last attempt is made with the same to come, and it has an answer. -/
theorem fetchText_settles {n : Nat} (hn : 0 < n) {d : Decoding} {c : Charset}
    (he : d.encoding = .charset c) (hd : d.Waiting) (s : Rewind × σ) :
    ∃ d' s' f, advance n (d', s') = (some f, (fetchText n (d, s)).2) ∧ (fetchText n (d, s)).1 = f ∧
      plain (d', s') = plain (d, s) ∧ d'.Waiting ∧ d'.encoding = .charset c := by
  obtain ⟨⟨d', s'⟩, f, ⟨hp, hd', he'⟩, hf, hr⟩ := fetchText_eq_answer (n := n)
    (P := fun s' : Decoding × Rewind × σ =>
      plain s' = plain (d, s) ∧ s'.1.Waiting ∧ s'.1.encoding = .charset c)
    (by
      rintro ⟨d', s'⟩ ⟨hp, hd', he'⟩ hnone
      have ha := advance_takes hn he' hd' s'
      rw [hnone] at ha
      obtain ⟨hp', hw, hen, hlt⟩ := ha
      exact ⟨⟨hp'.trans hp, hw, hen⟩, hlt⟩)
    (s := (d, s)) ⟨rfl, hd, he⟩
  rw [hr]
  exact ⟨d', s', f, Prod.ext hf rfl, rfl, hp, hd', he'⟩

theorem fetchText_takes {n : Nat} (hn : 0 < n) {d : Decoding} {c : Charset}
    (he : d.encoding = .charset c) (hd : d.Waiting) (s : Rewind × σ) :
    (fetchText n (d, s)).1.Takes n (plain (d, s)) (plain (fetchText n (d, s)).2) := by
  obtain ⟨d', s', f, hlast, hf, hp, hd', he'⟩ := fetchText_settles hn he hd s
  have ha := advance_takes hn he' hd' s'
  rw [hlast, hp] at ha
  rw [hf]
  exact ha

theorem fetchPlain_takes {n : Nat} (hn : 0 < n) {d : Decoding} (hd : d.Waiting) (s : Rewind × σ) :
    (fetchPlain n (d, s)).1.Takes n (plain (d, s)) (plain (fetchPlain n (d, s)).2) := by
  unfold fetchPlain
  cases he : d.encoding with
  | charset c => exact fetchText_takes hn he hd s
  | binary => exact fetchBytes_takes hn hd (by simp [he]) s
  | latin1 => exact fetchBytes_takes hn hd (by simp [he]) s

omit [ByteStream σ] in
/-- A mark that was found is at the front of what is handed out again, and is passed over. -/
theorem replay_mark {bs mark ahead : List UInt8} (hm : mark ≠ []) (hp : mark <+: bs) (s : σ) :
    Rewind.fetch mark.length ((⟨[], bs ++ ahead, none⟩ : Rewind), s) =
      (.got mark, ⟨[], bs.drop mark.length ++ ahead, none⟩, s) := by
  obtain ⟨rest, rfl⟩ := hp
  have hlen : mark.length ≠ 0 := fun h => hm (List.length_eq_zero_iff.1 h)
  have hne : (mark ++ rest ++ ahead).isEmpty = false := by simp [hm]
  simp only [Rewind.fetch, hlen, hne, if_false, Bool.not_false, if_true, Rewind.replay]
  simp [Rewind.isMarked]

section Search
variable (s : Decoding × Rewind × σ)

omit [ByteStream σ] in
/-- The search for a byte order mark leaves everything here but its own flag, and answers no end. -/
theorem skipMark_keeps :
    ((skipMark s).2.1 = s.1 ∨ (skipMark s).2.1 = s.1.disarm) ∧ (skipMark s).1 ≠ some .ended := by
  obtain ⟨d, r, s⟩ := s
  simp only [skipMark]
  split
  · exact ⟨.inr rfl, by simp⟩
  split
  · exact ⟨.inl rfl, by simp⟩
  split
  · exact ⟨.inl rfl, by simp⟩
  split
  · exact ⟨.inl rfl, by simp⟩
  split
  · split <;> exact ⟨.inr rfl, by simp⟩
  · exact ⟨.inr rfl, by simp⟩

omit [ByteStream σ] in
theorem skipMark_surplus : (skipMark s).2.1.surplus = s.1.surplus := by
  rcases (skipMark_keeps s).1 with h | h
  · rw [h]
  · rw [h]
    rfl

omit [ByteStream σ] in
theorem skipMark_finished : (skipMark s).2.1.finished = s.1.finished := by
  rcases (skipMark_keeps s).1 with h | h
  · rw [h]
  · rw [h]
    rfl

end Search

/-- Where the search for the mark of `c` has come to with the bytes seen so far: it is over, and
what is below is what was to come without the mark, or it was held up by what comes first. -/
def Searched (c : Charset) (d : Decoding) (s : Rewind × σ) :
    Option (Fetch Char) × Decoding × Rewind × σ → Prop
  | (none, d', s') =>
    d' = d.disarm ∧ c.opening [] (ByteStream.coming s) = ByteStream.coming s'
  | (some .wouldBlock, d', s') =>
    d' = d ∧ c.opening [] (ByteStream.coming s) = .delay :: c.opening [] (ByteStream.coming s')
  | (some (.failed e), d', s') =>
    d' = d ∧ c.opening [] (ByteStream.coming s) = .failure e :: c.opening [] (ByteStream.coming s')
  | (some _, _, _) => False

/-- With the bytes that decide handed back, the mark is passed over if they begin with it. -/
theorem searched_of_decided {c : Charset} {bs : List UInt8} {s t : Rewind × σ}
    (h : c.opening [] (ByteStream.coming s) =
      Coming.ofUnits (c.withoutMark bs) ++ ByteStream.coming t) (d : Decoding) :
    Searched c d s
      (if Charset.ofMark? bs = some c then
        match Rewind.fetch (c.mark?.getD []).length
            ((⟨[], bs ++ t.1.ahead, none⟩ : Rewind), t.2) with
        | (.failed e, r, s) => (some (.failed e), d.disarm, r, s)
        | (_, r, s) => (none, d.disarm, r, s)
      else (none, d.disarm, ⟨[], bs ++ t.1.ahead, none⟩, t.2)) := by
  unfold Charset.withoutMark at h
  by_cases hfound : Charset.ofMark? bs = some c
  · obtain ⟨mark, hmark, hne, hpre⟩ := Charset.ofMark?_eq_some hfound
    rw [if_pos hfound, hmark, Option.getD_some] at h ⊢
    rw [replay_mark hne hpre]
    refine ⟨rfl, ?_⟩
    rw [h]
    simp [ByteStream.coming, Rewind.coming]
  · rw [if_neg hfound] at h ⊢
    refine ⟨rfl, ?_⟩
    rw [h]
    simp [ByteStream.coming, Rewind.coming]

theorem skipMark_searched [Settled σ] {d : Decoding} {c : Charset}
    (hc : d.encoding.markedCharset? = some c) (s : Rewind × σ) :
    Searched c d s (skipMark (d, s)) := by
  obtain ⟨r, s⟩ := s
  simp only [skipMark, hc]
  obtain ⟨ht, hend, hful, hreset⟩ := Rewind.collect_reset (show 0 < markLength by decide)
    markLength (r, s)
  rcases hq : collect markLength ByteSource.run markLength (r.mark markLength, s) with
    ⟨⟨bs, halt⟩, r', s'⟩
  rw [hq] at ht hend hful hreset
  dsimp only at ht hend hful hreset
  -- what is below once the bytes were handed back
  have hback : ByteStream.coming ((⟨[], bs ++ r'.ahead, none⟩ : Rewind), s') =
      Coming.ofUnits bs ++ ByteStream.coming (r', s') := by
    simp [ByteStream.coming, Rewind.coming]
  have hshort : halt ≠ .served → ∀ xs : Coming UInt8,
      c.opening [] (Coming.ofUnits bs ++ xs) = c.opening bs xs := by
    intro hh xs
    have hlt : bs.length < 3 := hful.short hh
    simpa using c.opening_ofUnits_append (show ([] : List UInt8).length + bs.length < 3 by simpa) xs
  cases halt with
  | served =>
    have hlen : bs.length = 3 := hful.all_of_served rfl
    have hx : ByteStream.coming (r, s) = Coming.ofUnits bs ++ ByteStream.coming (r', s') := ht
    simp only [hreset]
    rw [if_neg (by simp)]
    refine searched_of_decided (t := (r', s')) ?_ d
    rw [hx, c.opening_of_three hlen]
  | wouldBlock =>
    have hx : ByteStream.coming (r, s) =
        Coming.ofUnits bs ++ .delay :: ByteStream.coming (r', s') := ht
    have hopen := hshort (by simp) (.delay :: ByteStream.coming (r', s'))
    simp only [hreset]
    by_cases haw : Charset.awaitsMark bs = true
    · have hcond : (Charset.ofMark? bs).isNone = true ∧ Charset.couldBecomeMark bs = true := by
        simpa [Charset.awaitsMark] using haw
      rw [if_pos ⟨trivial, hcond⟩]
      refine ⟨rfl, ?_⟩
      rw [hx, hopen, hback, hshort (by simp), Charset.opening, if_pos haw]
    · have hcond : ¬ ((Charset.ofMark? bs).isNone = true ∧ Charset.couldBecomeMark bs = true) := by
        simpa [Charset.awaitsMark] using haw
      rw [if_neg (fun h => hcond h.2)]
      refine searched_of_decided (t := (r', s')) ?_ d
      rw [hx, hopen, Charset.opening, if_neg haw]
  | ended =>
    have hx : ByteStream.coming (r, s) = Coming.ofUnits bs ++ [] := ht
    have hnil : ByteStream.coming (r', s') = [] := hend rfl
    simp only [hreset]
    rw [if_neg (by simp)]
    refine searched_of_decided (t := (r', s')) ?_ d
    rw [hx, hshort (by simp), hnil, List.append_nil, Charset.opening]
  | failed e =>
    have hx : ByteStream.coming (r, s) =
        Coming.ofUnits bs ++ .failure e :: ByteStream.coming (r', s') := ht
    simp only [hreset]
    refine ⟨rfl, ?_⟩
    rw [hx, hshort (by simp), hback, hshort (by simp), Charset.opening]

omit [ByteStream σ] in
theorem advance_atStart (n : Nat) (s : Decoding × Rewind × σ) :
    (advance n s).2.1.atStart = s.1.atStart := by
  obtain ⟨d, s⟩ := s
  simp only [advance]
  rcases ByteSource.fetch (d.bytesFor n) s with ⟨bs | _ | _ | e, s'⟩
  · simp only [decode]
    split <;> rfl
  · rfl
  · simp only [finish]
    split <;> rfl
  · rfl

omit [ByteStream σ] in
/-- Reading on does not make a mark possible again. -/
theorem fetchPlain_atStart (n : Nat) (s : Decoding × Rewind × σ) :
    (fetchPlain n s).2.1.atStart = s.1.atStart := by
  have htext : (fetchText n s).2.1.atStart = s.1.atStart :=
    persist_unchanged Option.isNone _ (advance n) (f := fun s => s.1.atStart) (advance_atStart n) s
  have hbytes : (fetchBytes n s).2.1.atStart = s.1.atStart := by
    obtain ⟨d, s⟩ := s
    simp only [fetchBytes]
    rcases ByteSource.fetch (min n maxChunk) s with ⟨bs | _ | _ | e, s'⟩ <;> rfl
  unfold fetchPlain
  split
  · exact htext
  · exact hbytes

/-- Where no mark may stand any more none is looked for. -/
theorem coming_of_atStart {s : Decoding × Rewind × σ} (h : s.1.atStart = false) :
    coming s = plain s := by
  simp [coming, plain, entering, h]

theorem coming_of_waiting {d : Decoding} (hw : d.Waiting) (s : Rewind × σ) :
    coming (d, s) = d.reading (d.entering (ByteStream.coming s)) := by
  simp [coming, hw.1, hw.2]

theorem fetchPlain_coming {n : Nat} (hn : 0 < n) {d : Decoding} (hd : d.Waiting)
    (ha : d.atStart = false) (s : Rewind × σ) :
    (fetchPlain n (d, s)).1.Takes n (coming (d, s)) (coming (fetchPlain n (d, s)).2) := by
  have hthen := fetchPlain_atStart n (d, s)
  rw [coming_of_atStart ha, coming_of_atStart (hthen.trans ha)]
  exact fetchPlain_takes hn hd s

theorem fetch_takes [Settled σ] {n : Nat} (hn : 0 < n) (s : Decoding × Rewind × σ) :
    (fetch n s).1.Takes n (coming s) (coming (fetch n s).2) := by
  obtain ⟨d, s⟩ := s
  simp only [fetch]
  rw [if_neg (Nat.pos_iff_ne_zero.1 hn)]
  by_cases hs : d.surplus = []
  · by_cases hf : d.finished = true
    · simp [hs, hf, Fetch.Takes, coming]
    · have hw : d.Waiting := ⟨hs, Bool.eq_false_iff.2 hf⟩
      simp only [hs, List.isEmpty_nil, Bool.not_true, Bool.false_eq_true, if_false, hf]
      by_cases ha : d.atStart = true
      · rw [if_pos ha]
        cases hc : d.encoding.markedCharset? with
        | none =>
          have hskip : skipMark (d, s) = (none, d.disarm, s) := by simp [skipMark, hc]
          have hcom : coming (d, s) = coming (d.disarm, s) := by
            rw [coming_of_waiting hw, coming_of_waiting (d := d.disarm) hw, entering_disarm,
              reading_disarm]
            simp [entering, hc]
          rw [hskip, hcom]
          exact fetchPlain_coming hn (d := d.disarm) hw rfl s
        | some c =>
          have hent : ∀ xs, d.entering xs = c.opening [] xs := fun xs => by
            simp [entering, ha, hc]
          have hsearch := skipMark_searched hc s
          rw [coming_of_waiting hw, hent]
          rcases hq : skipMark (d, s) with ⟨_ | f, d', s'⟩
          · rw [hq] at hsearch
            obtain ⟨rfl, hx⟩ := hsearch
            have hcom : d.reading (c.opening [] (ByteStream.coming s)) = coming (d.disarm, s') := by
              rw [hx, coming_of_waiting (d := d.disarm) hw, entering_disarm, reading_disarm]
            rw [hcom]
            exact fetchPlain_coming hn (d := d.disarm) hw rfl s'
          · rw [hq] at hsearch
            have hch : d.encoding = .charset c := by
              cases he : d.encoding <;> simp_all [Encoding.markedCharset?]
            cases f with
            | got us => exact hsearch.elim
            | ended => exact hsearch.elim
            | wouldBlock =>
              obtain ⟨rfl, hx⟩ := hsearch
              dsimp only [Fetch.Takes]
              rw [hx, (reading_signals hch _).1, coming_of_waiting hw, hent]
            | failed e =>
              obtain ⟨rfl, hx⟩ := hsearch
              dsimp only [Fetch.Takes]
              rw [hx, (reading_signals hch _).2, coming_of_waiting hw, hent]
      · have ha' : d.atStart = false := Bool.eq_false_iff.2 ha
        rw [if_neg ha]
        exact fetchPlain_coming hn hw ha' s
  · have hs' : d.surplus.isEmpty = false := by simpa using hs
    simp only [hs', Bool.not_false, if_true]
    refine ⟨by simp [List.take_eq_nil_iff, hs, Nat.pos_iff_ne_zero.1 hn], List.length_take_le _ _, ?_⟩
    simp only [coming]
    rw [← List.append_assoc, ← Coming.ofUnits_append, List.take_append_drop]
    rfl

instance [Settled σ] : CharStream (Decoding × Rewind × σ) where
  coming := coming
  fetch_takes _ s hn := fetch_takes hn s
  length_coming_le s := by
    have hb := ByteStream.length_coming_le s.2
    have hr := s.1.length_reading_le (s.1.entering (ByteStream.coming s.2))
    have he := s.1.length_entering_le (ByteStream.coming s.2)
    simp only [coming, List.length_append, Coming.length_ofUnits, CharSource.budget]
    split
    · simp only [List.length_nil]
      omega
    · omega

end Stream

end ScriptChannel.Input.Decoding
