import ScriptChannel.Proofs.Input.Chain
import ScriptChannel.Proofs.Input.Closing

/-!
# Stages that are used up

A stage answers that its stream has ended only when nothing waits in it and nothing can come from
below any more, and so it stays. Whoever goes around the decoding hears the end of the bytes: the
surplus above them is no part of that.
-/

namespace ScriptChannel

/-- Of the last of some fetches, for which all of them stop. -/
theorem collectIn_stopped {α σ : Type} {E : σ → Prop} {stop : Halt} (hstop : stop ≠ .served)
    {piece : Nat} {fetch : Nat → σ → (List α × Halt) × σ}
    (h : ∀ n s, (fetch n s).1.2 = stop → E (fetch n s).2) (fuel wanted : Nat) {s : σ}
    (he : (collectIn piece fetch fuel wanted s).1.2 = stop) :
    E (collectIn piece fetch fuel wanted s).2 := by
  induction fuel generalizing wanted s with
  | zero => exact absurd he.symm hstop
  | succ fuel ih =>
    simp only [collectIn] at he ⊢
    split at he
    · exact absurd he.symm hstop
    · rename_i hwanted
      rw [if_neg hwanted]
      have hpiece := h (min wanted piece) s
      rcases hf : fetch (min wanted piece) s with ⟨⟨us, _ | _ | _ | e⟩, s'⟩
      all_goals rw [hf] at he hpiece
      · exact ih (wanted - us.length) he
      all_goals exact hpiece he

theorem collect_stopped {α σ : Type} {E : σ → Prop} {stop : Halt} (hstop : stop ≠ .served)
    {piece : Nat} {fetch : Nat → σ → (List α × Halt) × σ}
    (h : ∀ n s, (fetch n s).1.2 = stop → E (fetch n s).2) {wanted : Nat} {s : σ}
    (he : (collect piece fetch wanted s).1.2 = stop) : E (collect piece fetch wanted s).2 :=
  collectIn_stopped hstop h wanted wanted he

namespace Input
variable {σ : Type} {P E : σ → Prop}

/-- Nothing comes from here any more: what is held is behind the marker. -/
def Cutoff.Shut (c : Cutoff) : Prop := c.reached = true ∨ c.held = []

theorem Cutoff.closes_shut {δ : Type} [RawReader δ] :
    Closes (fun _ => True) (fun s => s.1.Shut) (fetch (δ := δ)) := by
  rintro n ⟨c, d⟩
  have hscreen : ∀ bs, ((c.screen bs).1 = .ended → (c.screen bs).2.Shut) ∧
      (c.Shut → (c.screen bs).2.Shut) := by
    intro bs
    unfold screen
    split
    · exact ⟨by simp, id⟩
    · exact ⟨fun _ => .inl rfl, fun _ => .inl rfl⟩
  simp only [fetch]
  by_cases hr : c.reached = true
  · rw [if_pos hr]
    exact ⟨id, id, fun _ _ => .inl hr⟩
  rw [if_neg hr]
  split
  · exact .still (by simp)
  simp only [take]
  by_cases hheld : c.held = []
  · -- the device is asked, and this stage has nothing to itself
    rw [hheld, List.isEmpty_nil, if_pos rfl]
    generalize persist interrupted RawReader.budget (RawReader.read n) d = q
    obtain ⟨answer, d'⟩ := q
    dsimp only
    cases Fetch.ofRead answer with
    | got bs => exact ⟨fun _ => trivial, (hscreen bs).2, fun _ => (hscreen bs).1⟩
    | wouldBlock | ended | failed => exact ⟨fun _ => trivial, id, fun _ _ => .inr hheld⟩
  · have hsome : c.held.isEmpty = false := by simpa using hheld
    rw [hsome, if_neg Bool.false_ne_true]
    have hopen : ¬ c.Shut := fun hs => hs.elim hr hheld
    refine ⟨fun _ => trivial, fun hs => absurd hs hopen, fun _ he => ?_⟩
    dsimp only at he ⊢
    unfold screen at he ⊢
    split at he
    · cases he
    · rw [if_neg ‹_›]
      exact .inl rfl

namespace ReadAhead

/-- The cache is empty, the end was met, and this holds below. -/
structure Dry (E : σ → Prop) (s : ReadAhead × σ) : Prop where
  cache : s.1.cache = []
  ended : s.1.ended = true
  below : E s.2

variable [ByteSource σ]

theorem fetch_dry {s : ReadAhead × σ} (h : Dry E s) (n : Nat) : (fetch n s).2 = s := by
  obtain ⟨b, s⟩ := s
  obtain ⟨hcache, hended, -⟩ := h
  dsimp only at hcache hended
  simp only [fetch, hcache, hended, List.isEmpty_nil, Bool.not_true, Bool.false_eq_true, if_false,
    if_true]
  split <;> rfl

theorem ended_of_ask {n : Nat} {s : ReadAhead × σ} (h : (ask n s).1 = .ended) :
    (ask n s).2.1.cache = s.1.cache ∧ (ask n s).2.1.ended = true := by
  obtain ⟨b, s⟩ := s
  simp only [ask] at h ⊢
  generalize persist (fun f : Fetch UInt8 => b.blocking && f.isWouldBlock) ByteSource.budget
    (ByteSource.fetch n) s = r at h ⊢
  obtain ⟨us | _ | _ | e, s'⟩ := r
  all_goals simp_all

theorem ended_of_fetch {n : Nat} {s : ReadAhead × σ} (h : (fetch n s).1 = .ended) :
    (fetch n s).2.1.cache = [] ∧ (fetch n s).2.1.ended = true := by
  obtain ⟨b, s⟩ := s
  simp only [fetch] at h ⊢
  split at h
  · cases h
  rename_i hn
  rw [if_neg hn]
  split at h
  · cases h
  rename_i hcache
  rw [if_neg hcache]
  have hnone : b.cache = [] := by simpa using hcache
  split at h
  · rw [if_pos ‹_›]
    exact ⟨hnone, ‹_›⟩
  rename_i hended
  rw [if_neg hended]
  split at h
  · rw [if_pos ‹_›]
    exact hnone ▸ ended_of_ask h
  · rename_i hbuffering
    rw [if_neg hbuffering]
    have hask := ended_of_ask (n := max b.size 1) (s := (b, s))
    rcases hq : ask (max b.size 1) (b, s) with ⟨us | _ | _ | e, b', s'⟩
    all_goals rw [hq] at hask h
    · cases h
    · cases h
    · exact hnone ▸ hask rfl
    · cases h

theorem closes_dry (h : Closes P E (ByteSource.fetch (σ := σ))) :
    Closes (Latched ended P E) (Dry E) (fetch (σ := σ)) := by
  intro n s
  have hclose := closes h n s
  refine ⟨hclose.keeps, fun hs => ?_, fun hs he => ?_⟩
  · rw [fetch_dry hs]
    exact hs
  · obtain ⟨hcache, hended⟩ := ended_of_fetch he
    exact ⟨hcache, hended, hclose.closes hs he⟩

end ReadAhead

/-- Nothing is to be handed out again, and this holds below. -/
structure Rewind.Dry (E : σ → Prop) (s : Rewind × σ) : Prop where
  ahead : s.1.ahead = []
  below : E s.2

theorem Rewind.closes_dry [ByteSource σ] (h : Closes P E (ByteSource.fetch (σ := σ))) :
    Closes (Below P) (Dry E) (fetch (σ := σ)) := by
  rintro n ⟨r, s⟩
  have hrecord : ∀ us, r.ahead = [] → (r.record us).ahead = [] := by
    intro us ha
    unfold record
    split
    · exact ha
    · split
      · rfl
      · exact ha
  have hbelow := h n s
  simp only [fetch]
  split
  · exact .still (by simp)
  split
  · rename_i ha
    refine ⟨id, fun hs => ?_, by simp⟩
    have hnone : r.ahead = [] := hs.ahead
    simp [hnone] at ha
  · rename_i ha
    have hnone : r.ahead = [] := by simpa using ha
    have hdry : E (ByteSource.fetch n s).2 → Dry E
        (if (ByteSource.fetch n s).1.isGot then r.record (ByteSource.fetch n s).1.units else r,
          (ByteSource.fetch n s).2) := by
      refine fun hs => ⟨?_, hs⟩
      dsimp only
      split
      · exact hrecord _ hnone
      · exact hnone
    exact ⟨hbelow.keeps, fun hs => hdry (hbelow.stays hs.below),
      fun hs he => hdry (hbelow.closes hs he)⟩

namespace Decoding

/-- There is no surplus, the end was met, and this holds below. -/
structure Dry {τ : Type} (E : τ → Prop) (s : Decoding × τ) : Prop where
  surplus : s.1.surplus = []
  finished : s.1.finished = true
  below : E s.2

variable [ByteSource σ]

theorem fetch_dry {E : Rewind × σ → Prop} {s : Decoding × Rewind × σ} (h : Dry E s) (n : Nat) :
    (fetch n s).2 = s := by
  obtain ⟨d, s⟩ := s
  obtain ⟨hsurplus, hfinished, -⟩ := h
  dsimp only at hsurplus hfinished
  simp only [fetch, hsurplus, hfinished, List.isEmpty_nil, Bool.not_true, Bool.false_eq_true,
    if_false, if_true]
  split <;> rfl

theorem ended_of_fetchPlain {n : Nat} (hn : 0 < n) {d : Decoding} (hd : d.Waiting) {s : Rewind × σ}
    (h : (fetchPlain n (d, s)).1 = .ended) :
    (fetchPlain n (d, s)).2.1.surplus = [] ∧ (fetchPlain n (d, s)).2.1.finished = true := by
  have hbytes : (fetchBytes n (d, s)).1 = .ended →
      (fetchBytes n (d, s)).2.1.surplus = [] ∧ (fetchBytes n (d, s)).2.1.finished = true := by
    intro he
    simp only [fetchBytes] at he ⊢
    generalize ByteSource.fetch (min n maxChunk) s = q at he ⊢
    obtain ⟨us | _ | _ | e, s'⟩ := q
    · cases he
    · cases he
    · exact ⟨hd.1, rfl⟩
    · cases he
  unfold fetchPlain at h ⊢
  split at h
  · -- the attempts before the last one leave no surplus
    obtain ⟨⟨d', s'⟩, hd', heq⟩ := fetchText_eq_advance (n := n)
      (P := fun s : Decoding × Rewind × σ => s.1.Waiting)
      (by
        rintro ⟨d, s⟩ hw hnone
        simp only [advance] at hnone ⊢
        generalize ByteSource.fetch (d.bytesFor n) s = q at hnone ⊢
        obtain ⟨us | _ | _ | e, s'⟩ := q
        · exact decode_waiting hw hn (by simpa using hnone)
        all_goals simp at hnone)
      (s := (d, s)) hd
    rw [heq] at h ⊢
    simp only [advance] at h ⊢
    generalize ByteSource.fetch (d'.bytesFor n) s' = q at h ⊢
    obtain ⟨us | _ | _ | e, s''⟩ := q
    · dsimp only at h
      split at h <;> simp at h
    · simp at h
    · dsimp only at h ⊢
      have hnone : (d'.finish n).1 = [] := by
        simp only [Option.getD_some] at h
        split at h
        · exact List.isEmpty_iff.1 ‹_›
        · cases h
      cases hstate : d'.decoder with
      | none =>
        rw [finish_of_none hstate]
        exact ⟨hd'.1, rfl⟩
      | some state =>
        rw [finish_of_some hstate] at hnone ⊢
        have hsurplus : d'.surplus = [] := hd'.1
        exact ⟨by simp [hsurplus, take_eq_nil hn hnone], rfl⟩
    · simp at h
  · exact hbytes h

/-- What holds below while the end is not met holds behind the search for a mark as well. -/
theorem skipMark_latched (h : Closes P E (ByteSource.fetch (σ := σ))) {d : Decoding} {s : Rewind × σ}
    (hf : d.finished = false) (hs : Latched finished (Below P) (Rewind.Dry E) (d, s)) :
    Latched finished (Below P) (Rewind.Dry E) (skipMark (d, s)).2 := by
  have hbelow := (skipMark_honest (P := P) (E := fun _ => True)
    (fun n s => ⟨(h n s).keeps, fun _ => trivial, fun _ _ => trivial⟩) (d, s)).keeps
    ⟨hs.1, fun _ => trivial⟩
  have hfinished : (skipMark (d, s)).2.1.finished = false := (skipMark_finished (d, s)).trans hf
  exact ⟨hbelow.1, fun hn => absurd (hfinished.symm.trans hn) Bool.false_ne_true⟩

theorem closes_dry (h : Closes P E (ByteSource.fetch (σ := σ))) :
    Closes (Latched finished (Below P) (Rewind.Dry E)) (Dry (Rewind.Dry E)) (fetch (σ := σ)) := by
  have hplain := fetchPlain_honest (Rewind.closes_dry h)
  have hlast : ∀ {n : Nat} {d : Decoding} {s : Rewind × σ}, 0 < n → d.Waiting →
      Latched finished (Below P) (Rewind.Dry E) (d, s) → (fetchPlain n (d, s)).1 = .ended →
      Dry (Rewind.Dry E) (fetchPlain n (d, s)).2 := by
    intro n d s hn hd hs he
    obtain ⟨hsurplus, hfinished⟩ := ended_of_fetchPlain hn hd he
    exact ⟨hsurplus, hfinished, (hplain n (d, s)).closes hs he⟩
  rintro n ⟨d, s⟩
  have hnews := (skipMark_keeps (d, s)).2
  refine ⟨fun hs => ?_, fun hs => by rwa [fetch_dry hs], fun hs he => ?_⟩
  · simp only [fetch]
    split
    · exact hs
    split
    · exact hs
    split
    · exact hs
    rename_i hfinished
    split
    · have hsearched := skipMark_latched h (Bool.eq_false_iff.2 hfinished) hs
      rcases hq : skipMark (d, s) with ⟨_ | f, s'⟩
      all_goals rw [hq] at hsearched
      · exact (hplain n s').keeps hsearched
      · exact hsearched
    · exact (hplain n (d, s)).keeps hs
  · simp only [fetch] at he ⊢
    split at he
    · cases he
    rename_i hn
    rw [if_neg hn]
    split at he
    · cases he
    rename_i hsome
    have hsurplus : d.surplus = [] := by simpa using hsome
    rw [if_neg hsome]
    split at he
    · rename_i hfinished
      rw [if_pos hfinished]
      exact ⟨hsurplus, hfinished, hs.2 hfinished⟩
    rename_i hfinished
    rw [if_neg hfinished]
    split at he
    · rename_i hstart
      rw [if_pos hstart]
      have hsearched := skipMark_latched h (Bool.eq_false_iff.2 hfinished) hs
      have hwaiting : (skipMark (d, s)).2.1.Waiting :=
        ⟨(skipMark_surplus (d, s)).trans hsurplus,
          (skipMark_finished (d, s)).trans (Bool.eq_false_iff.2 hfinished)⟩
      rcases hq : skipMark (d, s) with ⟨_ | f, s'⟩
      all_goals rw [hq] at he hnews hsearched hwaiting
      · exact hlast (Nat.pos_of_ne_zero hn) hwaiting hsearched he
      · exact absurd (congrArg some he) hnews
    · rename_i hstart
      rw [if_neg hstart]
      exact hlast (Nat.pos_of_ne_zero hn) ⟨hsurplus, Bool.eq_false_iff.2 hfinished⟩ hs he

end Decoding
namespace Lines
variable [CharSource σ]

/-- The end is answered when nothing is ahead. -/
theorem ahead_of_next_ended {n : Nat} {s : Lines × σ} (h : (next n s).1 = .ended) :
    (next n s).2.1.ahead = [] := by
  have hreturn : ∀ {pair lone : Lines → Next × Lines}, (∀ l, (pair l).1 ≠ .ended) →
      (∀ l, (lone l).1 ≠ .ended) → ∀ s : Lines × σ, (afterReturn pair lone s).1 ≠ .ended := by
    intro pair lone hpair hlone s
    simp only [afterReturn]
    split
    · simp
    · simp
    · split
      · exact hpair _
      · exact hlone _
  obtain ⟨l, s⟩ := s
  simp only [next] at h ⊢
  rcases hf : fill n (l, s) with ⟨_ | why, l', s'⟩
  · rw [hf] at h
    dsimp only at h
    cases ha : l'.ahead with
    | nil => exact absurd ha (ahead_of_fill hf)
    | cons c cs =>
      rw [ha] at h
      dsimp only at h
      split at h
      · cases h
      · exact absurd h (hreturn (by simp) (by simp) _)
      · cases h
      · exact absurd h (hreturn (by simp) (by simp) _)
      · cases h
  · simp only [fill] at hf
    split at hf
    · cases hf
    rename_i hahead
    have hnone : l.ahead = [] := by simpa using hahead
    dsimp only
    split at hf
    · rw [← (Prod.mk.inj (Prod.mk.inj hf).2).1, hnone]
    · split at hf <;> simp only [Prod.mk.injEq, reduceCtorEq, false_and] at hf
      all_goals
        obtain ⟨-, rfl, -⟩ := hf
        exact hnone

theorem ahead_of_gather_ended {n : Nat} {some? : Bool} {s : Lines × σ}
    (h : (gather n some? s).1.2 = .ended) : 0 < n ∧ (gather n some? s).2.1.ahead = [] := by
  induction n generalizing some? s with
  | zero => simp [gather] at h
  | succ n ih =>
    refine ⟨Nat.succ_pos n, ?_⟩
    simp only [gather] at h ⊢
    split at h
    · cases h
    · rename_i hgo
      rw [if_neg hgo]
      have hnext := ahead_of_next_ended (n := n + 1) (s := s)
      rcases hq : next (n + 1) s with ⟨c | _ | _ | e, s'⟩
      all_goals rw [hq] at h hnext
      · exact (ih h).2
      · cases some? <;> cases h
      · exact hnext rfl
      · cases h

/-- A run of characters that ends has handed out all there was here. -/
theorem pending_of_read_ended [CharStream σ] {n : Nat} {s : Lines × σ} (h : (read n s).1.2 = .ended) :
    (read n s).2.1.pending = [] := by
  obtain ⟨l, s⟩ := s
  simp only [read] at h ⊢
  obtain ⟨hpos, hahead⟩ := ahead_of_gather_ended h
  obtain ⟨-, -, hpartial⟩ := gather_run (n - (l.partialLine.take n).length)
    (!(l.partialLine.take n).isEmpty) ({ l with partialLine := l.partialLine.drop n }, s)
  have hnone : l.partialLine.drop n = [] := by
    rw [List.length_take] at hpos
    exact List.drop_eq_nil_of_le (by omega)
  rw [pending, hpartial, hahead]
  simpa using hnone

theorem ahead_of_untilNewline_ended {blocking : Bool} {fuel : Nat} {s : Lines × σ}
    (h : (untilNewline blocking fuel s).1.2 = .ended) :
    (untilNewline blocking fuel s).2.1.ahead = [] := by
  induction fuel generalizing s with
  | zero => simp [untilNewline] at h
  | succ fuel ih =>
    simp only [untilNewline] at h ⊢
    have hnext := ahead_of_next_ended (n := 1) (s := s)
    rcases hq : next 1 s with ⟨c | _ | _ | e, s'⟩
    all_goals
      rw [hq] at h hnext
      dsimp only at h ⊢
    · split at h
      · cases h
      · rw [if_neg ‹_›]
        exact ih h
    · split at h
      · rw [if_pos ‹_›]
        exact ih h
      · cases h
    · exact hnext rfl
    · cases h

theorem pending_of_readLine_ended {blocking : Bool} {s : Lines × σ}
    (h : (readLine blocking s).1 = .ended) : (readLine blocking s).2.1.pending = [] := by
  have hahead : (untilNewline blocking (budget s + 2) s).1.2 = .ended →
      (untilNewline blocking (budget s + 2) s).2.1.ahead = [] := ahead_of_untilNewline_ended
  simp only [readLine] at h ⊢
  rcases hq : untilNewline blocking (budget s + 2) s with ⟨⟨cs, stop⟩, l, s'⟩
  rw [hq] at h hahead
  cases stop with
  | newline | wouldBlock | failed => cases h
  | ended =>
    dsimp only at h hahead ⊢
    split at h
    · rename_i hline
      rw [if_pos hline]
      obtain ⟨hpartial, -⟩ := List.append_eq_nil_iff.1 (List.isEmpty_iff.1 hline)
      rw [pending, hpartial, hahead rfl]
      rfl
    · cases h

end Lines

namespace Chain

/-- Nothing waits below the decoding, and nothing comes any more. -/
structure Dry (c : Chain) : Prop where
  ahead : c.rewind.ahead = []
  cache : c.readAhead.cache = []
  ended : c.readAhead.ended = true
  shut : c.cutoff.Shut

/-- Where an end was noted, everything below is used up. -/
structure Sealed (c : Chain) : Prop where
  shut : c.readAhead.ended = true → c.cutoff.Shut
  dry : c.decoding.finished = true → c.Dry
  decoded : c.lines.ended = true → c.decoding.surplus = [] ∧ c.decoding.finished = true

variable {δ : Type}

/-- As the stages below the decoding have it. -/
abbrev DryLower : Lower δ → Prop := Rewind.Dry (ReadAhead.Dry fun s : Cutoff × δ => s.1.Shut)

abbrev SealedLower : Lower δ → Prop :=
  Below (Latched ReadAhead.ended (fun _ => True) fun s : Cutoff × δ => s.1.Shut)

/-- As all the stages have it. -/
abbrev SealedWhole : Whole δ → Prop :=
  Latched Lines.ended (Latched Decoding.finished SealedLower DryLower) (Decoding.Dry DryLower)

theorem dry_iff {l : Lines} {g : Decoding} {s : Lower δ} : (ofWhole (l, g, s)).1.Dry ↔ DryLower s := by
  obtain ⟨r, b, k, d⟩ := s
  constructor
  · rintro ⟨hahead, hcache, hended, hshut⟩
    exact ⟨hahead, hcache, hended, hshut⟩
  · rintro ⟨hahead, hcache, hended, hshut⟩
    exact ⟨hahead, hcache, hended, hshut⟩

theorem sealed_iff (s : Whole δ) : (ofWhole s).1.Sealed ↔ SealedWhole s := by
  obtain ⟨l, g, s⟩ := s
  have hdry := dry_iff (l := l) (g := g) (s := s)
  obtain ⟨r, b, k, d⟩ := s
  constructor
  · rintro ⟨hshut, hfinished, hdecoded⟩
    refine ⟨⟨⟨trivial, hshut⟩, fun hf => hdry.1 (hfinished hf)⟩, fun hl => ?_⟩
    obtain ⟨hsurplus, hf⟩ := hdecoded hl
    exact ⟨hsurplus, hf, hdry.1 (hfinished hf)⟩
  · rintro ⟨⟨⟨-, hshut⟩, hfinished⟩, hdecoded⟩
    exact ⟨hshut, fun hf => hdry.2 (hfinished hf), fun hl => ⟨(hdecoded hl).surplus, (hdecoded hl).finished⟩⟩

variable [RawReader δ]

theorem closes_dryLower : Closes SealedLower DryLower (ByteSource.fetch (σ := Lower δ)) :=
  Rewind.closes_dry (σ := ReadAhead × Cutoff × δ) (ReadAhead.closes_dry Cutoff.closes_shut)

theorem closes_dryDecoding :
    Closes (Latched Decoding.finished SealedLower DryLower) (Decoding.Dry DryLower)
      (CharSource.fetch (σ := Decoding × Lower δ)) :=
  Decoding.closes_dry (σ := ReadAhead × Cutoff × δ) (ReadAhead.closes_dry Cutoff.closes_shut)

variable {c : Chain}

/-- A run of bytes goes around the decoding, and at most leaves word there that the start is passed. -/
theorem readBytes_around (n : Nat) (c : Chain) (d : δ) :
    let front := (c.lines.pending.take n).map Encoding.lowByte
    let q := collect piece ByteSource.run (n - front.length) (c.lower d)
    ∃ g, (g = c.decoding ∨ g = c.decoding.disarm) ∧
      c.readBytes n d = ((front ++ q.1.1, q.1.2), ofWhole ((c.lines.takePending n).2, g, q.2)) := by
  refine ⟨_, ?_, rfl⟩
  split
  · exact .inl rfl
  · split
    · exact .inl rfl
    · exact .inr rfl

theorem Sealed.readBytes (hc : c.Sealed) (n : Nat) (d : δ) :
    let r := c.readBytes n d
    r.2.1.Sealed ∧ r.2.1.decoding.surplus = c.decoding.surplus ∧
      (r.1.2 = .ended → r.2.1.lines.pending = [] ∧ r.2.1.Dry) := by
  obtain ⟨g, hg, hr⟩ := c.readBytes_around n d
  have hrun := Honest.collect piece closes_dryLower.run
    (n - ((c.lines.pending.take n).map Encoding.lowByte).length) (c.lower d)
  obtain ⟨⟨hlower, hfinished⟩, hdecoded⟩ := (sealed_iff (c.whole d)).1 hc
  have hsurplus : g.surplus = c.decoding.surplus := by rcases hg with rfl | rfl <;> rfl
  have hfinished' : g.finished = c.decoding.finished := by rcases hg with rfl | rfl <;> rfl
  dsimp only
  rw [hr]
  refine ⟨(sealed_iff _).2 ⟨⟨hrun.keeps hlower, fun hf => ?_⟩, fun hl => ?_⟩, hsurplus, fun he => ?_⟩
  · exact hrun.stays (hfinished (hfinished' ▸ hf))
  · have hdry := hdecoded hl
    exact ⟨hsurplus.trans hdry.surplus, hfinished'.trans hdry.finished, hrun.stays hdry.below⟩
  · refine ⟨?_, dry_iff.2 (hrun.closes hlower he)⟩
    -- something was left to ask for
    have hlt : c.lines.pending.length < n := by
      refine Nat.lt_of_not_ge fun hle => ?_
      have hnone : n - ((c.lines.pending.take n).map Encoding.lowByte).length = 0 := by
        rw [List.length_map, List.length_take]
        omega
      rw [hnone] at he
      cases he
    simpa [ofWhole, Lines.takePending, Lines.pending] using
      List.drop_eq_nil_of_le (Nat.le_of_lt hlt)

end Chain

section Text
variable {δ : Type} [RawReader δ] [RawStream δ] {c : Chain}

/-- Asked for something, the decoding answers with something or with news. -/
theorem Decoding.fetch_ne_nil (n : Nat) (s : Decoding × Chain.Lower δ) :
    (CharSource.fetch (n + 1) s).1 ≠ .got [] := by
  intro hnone
  have htakes := CharStream.fetch_takes (n + 1) s (Nat.succ_pos n)
  rw [hnone] at htakes
  exact htakes.1 rfl

/-- An end that a run of characters meets is the end of all. -/
theorem Chain.Sealed.readText (hc : c.Sealed) (n : Nat) (d : δ) :
    let r := c.readText n d
    r.2.1.Sealed ∧
      (r.1.2 = .ended → r.2.1.lines.pending = [] ∧ r.2.1.decoding.surplus = [] ∧ r.2.1.Dry) := by
  have hrun := Honest.collect Chain.piece (Lines.read_honest Chain.closes_dryDecoding
    fun n s _ hnone => absurd hnone (Decoding.fetch_ne_nil n s)) n (c.whole d)
  have hsealed := (Chain.sealed_iff (c.whole d)).1 hc
  refine ⟨(Chain.sealed_iff _).2 (hrun.keeps hsealed), fun he => ?_⟩
  have hdry := hrun.closes hsealed he
  have hpending := collect_stopped (E := fun s : Chain.Whole δ => s.1.pending = []) (by simp)
    (fun n s => Lines.pending_of_read_ended) he
  exact ⟨hpending, hdry.surplus, Chain.dry_iff.2 hdry.below⟩

/-- So is one that the reading of a line meets, with it or behind it. -/
theorem Chain.Sealed.readLine (hc : c.Sealed) (blocking : Bool) (d : δ) :
    let r := c.readLine blocking d
    r.2.1.Sealed ∧ (r.1 = .ended ∨ r.2.1.lines.isEnded = true →
      r.2.1.lines.pending = [] ∧ r.2.1.decoding.surplus = [] ∧ r.2.1.Dry) := by
  have hrun := Lines.readLine_honest Chain.closes_dryDecoding
    (fun n s _ hnone => absurd hnone (Decoding.fetch_ne_nil n s)) blocking (c.whole d)
  have hsealed := (Chain.sealed_iff (c.whole d)).1 hc
  have hnow := hrun.keeps hsealed
  refine ⟨(Chain.sealed_iff _).2 hnow, ?_⟩
  rintro (he | he)
  · have hdry := hrun.closes hsealed he
    exact ⟨Lines.pending_of_readLine_ended he, hdry.surplus, Chain.dry_iff.2 hdry.below⟩
  · have hended : (c.readLine blocking d).2.1.lines.ended = true ∧
        (c.readLine blocking d).2.1.lines.pending = [] := by
      simp only [Lines.isEnded, Bool.and_eq_true, List.isEmpty_iff] at he
      obtain ⟨⟨hended, hahead⟩, hpartial⟩ := he
      refine ⟨hended, ?_⟩
      rw [Lines.pending, hahead, hpartial]
      rfl
    have hdry := hnow.2 hended.1
    exact ⟨hended.2, hdry.surplus, Chain.dry_iff.2 hdry.below⟩

end Text

end Input

end ScriptChannel
