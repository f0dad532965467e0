import ScriptChannel.Proofs.Input.Tuning

/-!
# Where the search for a byte order mark is over

An input side that nothing was asked of has yet to look for a byte order mark. The first character
asked of it ends that, if its bytes come without delays and failures. Raw bytes end it only if there
are some.
-/

namespace ScriptChannel.Input

/-- No byte order mark is looked for any more. -/
def Decoding.Begun {τ : Type} (s : Decoding × τ) : Prop := s.1.atStart = false

namespace Decoding
variable {σ : Type} [ByteSource σ]

theorem closes_begun : Closes Begun (fun _ => True) (fetch (σ := σ)) := by
  rintro n ⟨d, s⟩
  refine ⟨fun hs => ?_, fun _ => trivial, fun _ _ => trivial⟩
  have hstart : d.atStart = false := hs
  have hplain := (fetchPlain_atStart n (d, s)).trans hstart
  simp only [fetch, hstart, Bool.false_eq_true, if_false]
  split
  · exact hs
  split
  · rfl
  split
  · exact hs
  · exact hplain

variable [ByteStream σ] [Settled σ]

/-- Where bytes and nothing else are to come, the search comes to a result. -/
theorem skipMark_begun {d : Decoding} {s : Rewind × σ} {bs : List UInt8}
    (h : ByteStream.coming s = Coming.ofUnits bs) :
    (skipMark (d, s)).1 = none ∧ Begun (skipMark (d, s)).2 := by
  cases hc : d.encoding.markedCharset? with
  | none => simp [skipMark, hc, Begun, disarm]
  | some c =>
    obtain ⟨mark, hm⟩ := Encoding.mark_of_markedCharset hc
    have hsearched := skipMark_searched hc s
    rcases hq : skipMark (d, s) with ⟨_ | f, d', s'⟩
    all_goals
      rw [hq] at hsearched
      simp only [Searched, h, Charset.opening_ofUnits hm] at hsearched
    · obtain ⟨rfl, -⟩ := hsearched
      exact ⟨rfl, rfl⟩
    · cases f with
      | got us | ended => exact hsearched.elim
      | wouldBlock | failed e =>
        cases hbs : c.withoutMark bs <;> simp [hbs] at hsearched

/-- So it ends with the first character asked for. -/
theorem fetch_begun (e : Encoding) {n : Nat} (hn : 0 < n) {s : Rewind × σ} {bs : List UInt8}
    (h : ByteStream.coming s = Coming.ofUnits bs) : Begun (fetch n (.init e, s)).2 := by
  obtain ⟨hnone, hbegun⟩ := skipMark_begun (d := .init e) h
  have hplain := fetchPlain_atStart n (skipMark (.init e, s)).2
  rcases hq : skipMark (.init e, s) with ⟨o, s'⟩
  rw [hq] at hnone hbegun hplain
  obtain rfl := hnone
  have hinit : (Decoding.init e).surplus = [] ∧ (Decoding.init e).finished = false ∧
      (Decoding.init e).atStart = true := ⟨rfl, rfl, rfl⟩
  have hfetch : fetch n (.init e, s) = fetchPlain n s' := by
    simp [fetch, Nat.ne_of_gt hn, hinit, hq]
  rw [hfetch]
  exact hplain.trans hbegun

end Decoding

namespace Lines
variable {σ : Type} [CharSource σ] {P : σ → Prop}
  (h : Closes P (fun _ => True) (CharSource.fetch (σ := σ)))
include h

theorem next_keeps (n : Nat) {s : Lines × σ} (hs : P s.2) : P (next n s).2.2 :=
  ((next_honest h (fun _ _ _ _ => trivial) n s).keeps ⟨hs, fun _ => trivial⟩).1

/-- What any character asked for brings about, the first one does. -/
theorem next_begins {s : σ} (hfirst : ∀ n, 0 < n → P (CharSource.fetch n s).2) {l : Lines}
    (ha : l.ahead = []) (he : l.ended = false) (n : Nat) : P (next n (l, s)).2.2 := by
  have hfill : P (fill n (l, s)).2.2 := by
    have hmax := hfirst (max n 1) (by omega)
    simp only [fill, ha, he, List.isEmpty_nil, Bool.not_true, Bool.false_eq_true, if_false]
    split <;> rename_i hf <;> rw [hf] at hmax <;> exact hmax
  rcases hq : fill n (l, s) with ⟨_ | why, s'⟩
  all_goals rw [hq] at hfill
  · -- with a character ahead the same is done from here
    have hagain : next n (l, s) = next n s' := by
      have hsome := ahead_of_fill hq
      have hfilled : fill n s' = (none, s') := by
        simp [fill, hsome]
      simp only [next, hq, hfilled]
    rw [hagain]
    exact next_keeps h n hfill
  · simpa only [next, hq] using hfill

theorem gather_begins {s : σ} (hfirst : ∀ n, 0 < n → P (CharSource.fetch n s).2) {l : Lines}
    (ha : l.ahead = []) (he : l.ended = false) {n : Nat} (hn : 0 < n) :
    P (gather n false (l, s)).2.2 := by
  obtain ⟨n, rfl⟩ := Nat.exists_eq_succ_of_ne_zero (Nat.ne_of_gt hn)
  have hnext := next_begins h hfirst ha he (n + 1)
  simp only [gather, Bool.false_and, Bool.false_eq_true, if_false]
  rcases hq : next (n + 1) (l, s) with ⟨_ | _ | _ | e, s'⟩
  all_goals rw [hq] at hnext
  · exact ((gather_honest h (fun _ _ _ _ => trivial) n true s').keeps ⟨hnext, fun _ => trivial⟩).1
  all_goals exact hnext

theorem read_begins {s : σ} (hfirst : ∀ n, 0 < n → P (CharSource.fetch n s).2) {l : Lines}
    (hpending : l.pending = []) (he : l.ended = false) {n : Nat} (hn : 0 < n) :
    P (read n (l, s)).2.2 := by
  obtain ⟨hpartial, hahead⟩ := List.append_eq_nil_iff.1 hpending
  simp only [read, hpartial, List.take_nil, List.drop_nil, List.length_nil, Nat.sub_zero,
    List.isEmpty_nil, Bool.not_true]
  exact gather_begins h hfirst (l := { l with partialLine := [] }) hahead he hn

/-- So does a run of pieces. -/
theorem collect_begins {piece : Nat} (hp : 0 < piece) {s : σ}
    (hfirst : ∀ n, 0 < n → P (CharSource.fetch n s).2) {l : Lines} (hpending : l.pending = [])
    (he : l.ended = false) {n : Nat} (hn : 0 < n) : P (collect piece read n (l, s)).2.2 := by
  obtain ⟨n, rfl⟩ := Nat.exists_eq_succ_of_ne_zero (Nat.ne_of_gt hn)
  have hread := read_begins h hfirst hpending he (n := min (n + 1) piece) (by omega)
  simp only [collect, collectIn, Nat.succ_ne_zero, if_false]
  rcases hq : read (min (n + 1) piece) (l, s) with ⟨⟨us, _ | _ | _ | e⟩, s'⟩
  all_goals rw [hq] at hread
  · exact ((Honest.collectIn piece (read_honest h fun _ _ _ _ => trivial) n (n + 1 - us.length)
      s').keeps ⟨hread, fun _ => trivial⟩).1
  all_goals exact hread

theorem untilNewline_begins (blocking : Bool) {s : σ}
    (hfirst : ∀ n, 0 < n → P (CharSource.fetch n s).2) {l : Lines} (ha : l.ahead = [])
    (he : l.ended = false) (fuel : Nat) : P (untilNewline blocking (fuel + 1) (l, s)).2.2 := by
  have hnext := next_begins h hfirst ha he 1
  have hlater : ∀ {s'}, P s'.2 → P (untilNewline blocking fuel s').2.2 := fun {s'} hs =>
    ((untilNewline_honest h (fun _ _ _ _ => trivial) blocking fuel s').keeps
      ⟨hs, fun _ => trivial⟩).1
  simp only [untilNewline]
  rcases hq : next 1 (l, s) with ⟨_ | _ | _ | e, s'⟩
  all_goals rw [hq] at hnext
  · dsimp only
    split
    · exact hnext
    · exact hlater hnext
  · dsimp only
    split
    · exact hlater hnext
    · exact hnext
  all_goals exact hnext

theorem readLine_begins (blocking : Bool) {s : σ}
    (hfirst : ∀ n, 0 < n → P (CharSource.fetch n s).2) {l : Lines} (ha : l.ahead = [])
    (he : l.ended = false) : P (readLine blocking (l, s)).2.2 := by
  have hends := untilNewline_begins h blocking hfirst ha he (budget (l, s) + 1)
  simp only [readLine]
  rcases hq : untilNewline blocking (budget (l, s) + 2) (l, s) with ⟨⟨cs, stop⟩, l', s'⟩
  rw [hq] at hends
  cases stop with
  | newline | wouldBlock | failed => exact hends
  | ended =>
    dsimp only
    split <;> exact hends

end Lines

namespace Chain
variable {δ : Type} [RawReader δ] {c : Chain}

theorem readText_keeps_begun (h : c.decoding.atStart = false) (n : Nat) (d : δ) :
    (c.readText n d).2.1.decoding.atStart = false :=
  readText_keeps (P := Decoding.Begun) Decoding.closes_begun n d h

theorem readLine_keeps_begun (h : c.decoding.atStart = false) (blocking : Bool) (d : δ) :
    (c.readLine blocking d).2.1.decoding.atStart = false :=
  readLine_keeps (P := Decoding.Begun) Decoding.closes_begun blocking d h

/-- Raw bytes are not looked through for a mark; but once there were some it is too late for one. -/
theorem readBytes_begun (n : Nat) (d : δ) (hf : ∀ e, (c.readBytes n d).1.2 ≠ .failed e) :
    (c.readBytes n d).2.1.decoding.atStart =
      (c.decoding.atStart && (c.readBytes n d).1.1.isEmpty) := by
  simp only [readBytes, ofWhole] at hf ⊢
  split
  · rename_i hnone
    rw [hnone, Bool.and_true]
  · rename_i hsome
    rw [Bool.eq_false_iff.2 hsome, Bool.and_false]
    rfl

variable [RawStream δ]

/-- Nothing was asked of it for characters since it was built or sent to some place. -/
structure Unbegun (c : Chain) : Prop where
  pending : c.lines.pending = []
  ended : c.lines.ended = false
  decoding : c.decoding = .init c.decoding.encoding

theorem Unbegun.fetch_begun (h : c.Unbegun) {d : δ} {bs : List UInt8}
    (hbs : ByteStream.coming (c.lower d) = Coming.ofUnits bs) {n : Nat} (hn : 0 < n) :
    Decoding.Begun (CharSource.fetch n (c.whole d).2).2 := by
  have hinit : (c.whole d).2 = (.init c.decoding.encoding, c.lower d) := by
    rw [← h.decoding]
    rfl
  rw [hinit]
  exact Decoding.fetch_begun _ hn hbs

omit [RawStream δ] in
/-- Asking for bytes that are not there is asking for nothing. -/
theorem Unbegun.readBytes (h : c.Unbegun) {n : Nat} {d : δ} (hnone : (c.readBytes n d).1.1 = []) :
    (c.readBytes n d).2.1.Unbegun := by
  have hpending : (c.lines.takePending n).2.pending = [] := by
    have hdropped : (c.lines.takePending n).2.pending = c.lines.pending.drop n := List.append_nil _
    rw [hdropped, h.pending, List.drop_nil]
  have hkept : (c.readBytes n d).2.1.decoding = c.decoding := by
    simp only [Chain.readBytes] at hnone ⊢
    simp only [hnone, List.isEmpty_nil, if_true, ofWhole]
    split <;> rfl
  exact ⟨hpending, h.ended, by rw [hkept]; exact h.decoding⟩

theorem Unbegun.readText (h : c.Unbegun) {d : δ} {bs : List UInt8}
    (hbs : ByteStream.coming (c.lower d) = Coming.ofUnits bs) {n : Nat} (hn : 0 < n) :
    (c.readText n d).2.1.decoding.atStart = false :=
  Lines.collect_begins (σ := Decoding × Lower δ) Decoding.closes_begun (by decide)
    (fun _ hn => h.fetch_begun hbs hn) h.pending h.ended hn

theorem Unbegun.readLine (h : c.Unbegun) {d : δ} {bs : List UInt8}
    (hbs : ByteStream.coming (c.lower d) = Coming.ofUnits bs) (blocking : Bool) :
    (c.readLine blocking d).2.1.decoding.atStart = false :=
  Lines.readLine_begins (σ := Decoding × Lower δ) Decoding.closes_begun blocking
    (fun _ hn => h.fetch_begun hbs hn) (List.append_eq_nil_iff.1 h.pending).2 h.ended

end Chain

end ScriptChannel.Input
