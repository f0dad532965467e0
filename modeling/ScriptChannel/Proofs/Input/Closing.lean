import ScriptChannel.Input.Chain
import ScriptChannel.Proofs.Persist

/-!
# What reading keeps, and where an end comes from

What a device keeps through single read calls it keeps through any read of the input side, since the
stages do nothing else to it. The stages remember an end and answer it again, but none of them makes
one up: they pass on that of the device, or that of the first stage, which has met its marker.
-/

namespace ScriptChannel
variable {α σ τ : Type}

/-- A step that keeps `P`, and `E` for good. An end is answered only where `E` holds. -/
structure Honest (P E : σ → Prop) (ends : Prop) (s s' : σ) : Prop where
  keeps : P s → P s'
  stays : E s → E s'
  closes : P s → ends → E s'

/-- Every fetch is honest. -/
def Closes (P E : σ → Prop) (fetch : Nat → σ → Fetch α × σ) : Prop :=
  ∀ n s, Honest P E ((fetch n s).1 = .ended) s (fetch n s).2

/-- Every read call into a buffer is. -/
def RawCloses {δ : Type} [RawReader δ] (P E : δ → Prop) : Prop :=
  ∀ n d, n ≠ 0 → Honest P E ((RawReader.read n d).1 = .ok []) d (RawReader.read n d).2

/-- Of what lies below a stage. -/
def Below (P : σ → Prop) (s : τ × σ) : Prop := P s.2

/-- Of what lies below a stage, with `E` if the stage has noted an end. -/
def Latched (noted : τ → Bool) (P E : σ → Prop) (s : τ × σ) : Prop :=
  P s.2 ∧ (noted s.1 = true → E s.2)

namespace Honest
variable {P E : σ → Prop} {ends ends' : Prop} {s s' s'' : σ}

theorem still (h : ¬ ends) : Honest P E ends s s := ⟨id, id, fun _ he => absurd he h⟩

theorem refl : Honest P E False s s := still id

/-- A step that answers no end. -/
theorem quiet (h : Honest P E ends s s') (hn : ¬ ends') : Honest P E ends' s s' :=
  ⟨h.keeps, h.stays, fun _ he => absurd he hn⟩

theorem trans (h : Honest P E ends s s') (h' : Honest P E ends' s' s'') : Honest P E ends' s s'' :=
  ⟨h'.keeps ∘ h.keeps, h'.stays ∘ h.stays, fun hp => h'.closes (h.keeps hp)⟩

theorem imp (h : Honest P E ends s s') (hi : ends' → ends) : Honest P E ends' s s' :=
  ⟨h.keeps, h.stays, fun hp he => h.closes hp (hi he)⟩

/-- For a stage that does not note ends. -/
theorem below (h : Honest P E ends s s') (x x' : τ) :
    Honest (Below P) (Below E) ends (x, s) (x', s') := ⟨h.keeps, h.stays, h.closes⟩

/-- A stage may note the ends it is answered. -/
theorem latched {noted : τ → Bool} {x x' : τ} (h : Honest P E ends s s')
    (hn : noted x' = true → noted x = true ∨ ends) :
    Honest (Latched noted P E) (Below E) ends (x, s) (x', s') where
  keeps hs := ⟨h.keeps hs.1, fun hx => (hn hx).elim (h.stays ∘ hs.2) (h.closes hs.1)⟩
  stays := h.stays
  closes hs := h.closes hs.1

/-- It may note an end that it is answered, and answer it. -/
theorem passed {noted : τ → Bool} {x x' : τ} (h : Honest P E ends s s') (he : ends) :
    Honest (Latched noted P E) (Below E) ends' (x, s) (x', s') where
  keeps hs := ⟨h.keeps hs.1, fun _ => h.closes hs.1 he⟩
  stays := h.stays
  closes hs _ := h.closes hs.1 he

/-- It may answer an end that it has noted. -/
theorem noted {noted : τ → Bool} {x : τ} (hn : noted x = true) :
    Honest (Latched noted P E) (Below E) ends (x, s) (x, s) := ⟨id, id, fun hs _ => hs.2 hn⟩

/-- A stage may change in what has nothing to do with ends. -/
theorem restaged {noted : τ → Bool} {s : τ × σ} {x' x'' : τ}
    (h : Honest (Latched noted P E) (Below E) ends s (x', s'))
    (hn : noted x'' = true → noted x' = true) :
    Honest (Latched noted P E) (Below E) ends s (x'', s') where
  keeps hs := ⟨(h.keeps hs).1, fun hx => (h.keeps hs).2 (hn hx)⟩
  stays := h.stays
  closes := h.closes

/-- Attempts are honest together if each of them is. -/
theorem persist {β : Type} (again : β → Bool) (budget : σ → Nat) {attempt : σ → β × σ}
    (last : β → Prop) (h : ∀ s, Honest P E (last (attempt s).1) s (attempt s).2) (s : σ) :
    Honest P E (last (persist again budget attempt s).1) s (persist again budget attempt s).2 := by
  obtain ⟨s', ⟨hkeep, hstay⟩, hlast⟩ := persist_eq_attempt again budget attempt
    (P := fun s' => (P s → P s') ∧ (E s → E s'))
    (fun s' hs' _ => ⟨(h s').keeps ∘ hs'.1, (h s').stays ∘ hs'.2⟩) (s := s) ⟨id, id⟩
  rw [hlast]
  exact ⟨(h s').keeps ∘ hkeep, (h s').stays ∘ hstay, fun hs => (h s').closes (hkeep hs)⟩

theorem collectIn {fetch : Nat → σ → (List α × Halt) × σ} (piece : Nat)
    (h : ∀ n s, Honest P E ((fetch n s).1.2 = .ended) s (fetch n s).2) (fuel wanted : Nat) (s : σ) :
    Honest P E ((collectIn piece fetch fuel wanted s).1.2 = .ended) s
      (collectIn piece fetch fuel wanted s).2 := by
  induction fuel generalizing wanted s with
  | zero => exact still (by simp [ScriptChannel.collectIn])
  | succ fuel ih =>
    simp only [ScriptChannel.collectIn]
    split
    · exact still (by simp)
    · have hpiece := h (min wanted piece) s
      rcases hf : fetch (min wanted piece) s with ⟨⟨us, _ | _ | _ | e⟩, s'⟩
      all_goals rw [hf] at hpiece
      · exact hpiece.trans (ih (wanted - us.length) s')
      all_goals exact hpiece

/-- So are the pieces of a run. -/
theorem collect {fetch : Nat → σ → (List α × Halt) × σ} (piece : Nat)
    (h : ∀ n s, Honest P E ((fetch n s).1.2 = .ended) s (fetch n s).2) (wanted : Nat) (s : σ) :
    Honest P E ((collect piece fetch wanted s).1.2 = .ended) s (collect piece fetch wanted s).2 :=
  collectIn piece h wanted wanted s

end Honest

theorem Closes.run {P E : σ → Prop} [ByteSource σ] (h : Closes P E (ByteSource.fetch (σ := σ)))
    (n : Nat) (s : σ) : Honest P E ((ByteSource.run n s).1.2 = .ended) s (ByteSource.run n s).2 := by
  refine (h n s).imp fun he => ?_
  simp only [ByteSource.run] at he
  rcases hf : (ByteSource.fetch n s).1 with _ | _ | _ | _
  all_goals simp_all [Fetch.run]

namespace Input

namespace Cutoff
variable {δ : Type} [RawReader δ] {P E : δ → Prop}

/-- The marker was met, or else it holds below. -/
def Met (E : δ → Prop) (s : Cutoff × δ) : Prop := s.1.reached = true ∨ E s.2

/-- There is no marker, and none was met. -/
def Unmarked (c : Cutoff) : Prop := c.marker = 0 ∧ c.reached = false

/-- Held bytes and read calls are no end of the first stage's own. -/
theorem take_honest (h : RawCloses P E) {n : Nat} (hn : n ≠ 0) (s : Cutoff × δ) :
    Honest P E ((take n s).1 = .ended) s.2 (take n s).2.2 := by
  obtain ⟨c, d⟩ := s
  simp only [take]
  split
  · have hread := Honest.persist interrupted RawReader.budget (· = .ok []) (fun d => h n d hn) d
    refine hread.imp fun he => ?_
    dsimp only at he
    cases hr : (persist interrupted RawReader.budget (RawReader.read n) d).1 with
    | error e =>
      rw [hr, Fetch.ofRead] at he
      split at he <;> cases he
    | ok bs =>
      cases bs with
      | nil => rfl
      | cons b bs => simp [hr, Fetch.ofRead] at he
  · exact .still (by simp)

theorem closes (h : RawCloses P E) : Closes (Below P) (Met E) (fetch (δ := δ)) := by
  rintro n ⟨c, d⟩
  simp only [fetch]
  by_cases hr : c.reached = true
  · rw [if_pos hr]
    exact ⟨id, id, fun _ _ => .inl hr⟩
  · rw [if_neg hr]
    by_cases hn : n = 0
    · rw [if_pos hn]
      exact .still (by simp)
    · rw [if_neg hn]
      have htake := take_honest h hn (c, d)
      rcases hq : take n (c, d) with ⟨bs | _ | _ | e, c', d'⟩
      all_goals
        rw [hq] at htake
        have hstays : Met E (c, d) → E d' := fun hm => htake.stays (hm.resolve_left hr)
      · refine ⟨htake.keeps, fun hm => .inr (hstays hm), fun _ he => .inl ?_⟩
        dsimp only at he ⊢
        unfold screen at he ⊢
        split at he
        · cases he
        · rw [if_neg ‹_›]
          rfl
      all_goals exact ⟨htake.keeps, fun hm => .inr (hstays hm), fun hp he => .inr (htake.closes hp he)⟩

theorem fetch_unmarked (n : Nat) (s : Cutoff × δ) (h : s.1.Unmarked) : (fetch n s).2.1.Unmarked := by
  obtain ⟨c, d⟩ := s
  obtain ⟨hm, hr⟩ := h
  dsimp only at hm hr
  have htake : (take n (c, d)).2.1.Unmarked := by
    simp only [take]
    split <;> exact ⟨hm, hr⟩
  simp only [fetch, hr, Bool.false_eq_true, if_false]
  split
  · exact ⟨hm, hr⟩
  · rcases hq : take n (c, d) with ⟨bs | _ | _ | e, c', d'⟩
    all_goals rw [hq] at htake
    · dsimp only at htake ⊢
      unfold screen
      rw [if_pos (.inl htake.1)]
      exact htake
    all_goals exact htake

/-- What every read call of the device keeps is kept by a fetch. -/
theorem closes_of_kept (h : ∀ n d, P d → P (RawReader.read n d).2) :
    Closes (Below P) (fun _ => True) (fetch (δ := δ)) := by
  have hread : RawCloses P fun _ => True :=
    fun n d _ => ⟨h n d, fun _ => trivial, fun _ _ => trivial⟩
  exact fun n s => ⟨(closes hread n s).keeps, fun _ => trivial, fun _ _ => trivial⟩

/-- Without a marker all ends are the device's. -/
theorem closes_of_unmarked (h : RawCloses P E) :
    Closes (fun s => Unmarked s.1 ∧ P s.2) (Below E) (fetch (δ := δ)) := by
  intro n s
  have hmet := closes h n s
  have hbelow : RawCloses E E := fun n d hn => ⟨(h n d hn).stays, (h n d hn).stays, fun hd _ =>
    (h n d hn).stays hd⟩
  refine ⟨fun hs => ⟨fetch_unmarked n s hs.1, hmet.keeps hs.2⟩, (closes hbelow n s).keeps, ?_⟩
  intro hs he
  refine (hmet.closes hs.2 he).resolve_left ?_
  rw [(fetch_unmarked n s hs.1).2]
  exact Bool.false_ne_true

end Cutoff

section Stages
variable [ByteSource σ] {P E : σ → Prop} (h : Closes P E (ByteSource.fetch (σ := σ)))
include h

namespace ReadAhead

theorem ask_honest (n : Nat) (s : ReadAhead × σ) :
    Honest (Latched ended P E) (Below E) ((ask n s).1 = .ended) s (ask n s).2 := by
  obtain ⟨b, s⟩ := s
  have hask := Honest.persist (fun f : Fetch UInt8 => b.blocking && f.isWouldBlock)
    ByteSource.budget (· = .ended) (h n) s
  simp only [ask]
  generalize persist (fun f : Fetch UInt8 => b.blocking && f.isWouldBlock) ByteSource.budget
    (ByteSource.fetch n) s = r at hask
  obtain ⟨us | _ | _ | e, s'⟩ := r
  · exact hask.latched .inl
  · exact hask.latched .inl
  · exact hask.passed rfl
  · exact hask.latched .inl

theorem closes : Closes (Latched ended P E) (Below E) (fetch (σ := σ)) := by
  rintro n ⟨b, s⟩
  have hkept : Honest P E False s s := .still id
  simp only [fetch]
  split
  · exact .still (by simp)
  split
  · exact .quiet (hkept.latched fun hn => .inl hn) (by simp)
  split
  · exact .noted ‹_›
  split
  · exact ask_honest h n (b, s)
  · have hask := ask_honest h (max b.size 1) (b, s)
    rcases hq : ask (max b.size 1) (b, s) with ⟨us | _ | _ | e, b', s'⟩
    all_goals rw [hq] at hask
    · exact ⟨hask.keeps, hask.stays, by simp⟩
    all_goals exact hask

end ReadAhead

theorem Rewind.closes : Closes (Below P) (Below E) (Rewind.fetch (σ := σ)) := by
  rintro n ⟨r, s⟩
  simp only [fetch]
  split
  · exact .still (by simp)
  split
  · dsimp only
    exact (Honest.refl.below r _).quiet (by simp)
  · exact (h n s).below r _

namespace Decoding

omit [ByteSource σ] h in
/-- A step that notes no end. -/
theorem latched_same {ends : Prop} {d d' : Decoding} {s s' : Rewind × σ}
    (h : Honest (Below P) (Below E) ends s s') (hd : d'.finished = d.finished) :
    Honest (Latched finished (Below P) (Below E)) (Below (Below E)) ends (d, s) (d', s') :=
  h.latched fun hf => .inl (hd ▸ hf)

theorem skipMark_honest (s : Decoding × Rewind × σ) :
    Honest (Latched finished (Below P) (Below E)) (Below (Below E)) ((skipMark s).1 = some .ended) s
      (skipMark s).2 := by
  obtain ⟨d, r, s⟩ := s
  have hmark := Honest.collect markLength (Rewind.closes h).run markLength (r.mark markLength, s)
  -- what becomes of the mark makes no difference below
  have hdown : ∀ {bs halt r' s'}, collect markLength ByteSource.run markLength
      (r.mark markLength, s) = ((bs, halt), r', s') → ∀ r'' : Rewind,
      Honest (Below P) (Below E) False (r, s) (r'', s') := by
    intro bs halt r' s' hq r''
    rw [hq] at hmark
    exact ⟨hmark.keeps, hmark.stays, fun _ => False.elim⟩
  have hagain := Rewind.closes h
  simp only [skipMark]
  split
  · have hkept : Honest P E False s s := .still id
    exact .quiet (latched_same (hkept.below r r) rfl) (by simp)
  rename_i expected _
  split
  · rename_i hq
    exact .quiet (latched_same (hdown hq _) rfl) (by simp)
  · rename_i hq
    split
    · exact .quiet (latched_same (hdown hq _) rfl) (by simp)
    rename_i r'' _
    split
    · exact .quiet (latched_same (hdown hq _) rfl) (by simp)
    split
    · split
      all_goals
        rename_i hf
        have hskip := (hdown hq r'').trans (hagain (expected.mark?.getD []).length (r'', _))
        rw [hf] at hskip
        exact .quiet (latched_same hskip rfl) (by simp)
    · exact .quiet (latched_same (hdown hq _) rfl) (by simp)

section Plain
omit h
variable {P E : Rewind × σ → Prop} (hr : Closes P E (Rewind.fetch (σ := σ)))
include hr

theorem fetchBytes_honest (n : Nat) (s : Decoding × Rewind × σ) :
    Honest (Latched finished P E) (Below E) ((fetchBytes n s).1 = .ended) s (fetchBytes n s).2 := by
  obtain ⟨d, s⟩ := s
  have hbelow := hr (min n maxChunk) s
  simp only [fetchBytes, ByteSource.fetch]
  rcases hf : Rewind.fetch (min n maxChunk) s with ⟨us | _ | _ | e, s'⟩
  all_goals rw [hf] at hbelow
  · exact .quiet (hbelow.latched .inl) (by simp)
  · exact .quiet (hbelow.latched .inl) (by simp)
  · exact hbelow.passed rfl
  · exact .quiet (hbelow.latched .inl) (by simp)

theorem advance_honest (n : Nat) (s : Decoding × Rewind × σ) :
    Honest (Latched finished P E) (Below E) ((advance n s).1 = some .ended) s (advance n s).2 := by
  obtain ⟨d, s⟩ := s
  have hbelow := hr (d.bytesFor n) s
  have hdecode : ∀ us, (d.decode n us).2.finished = d.finished := by
    intro us
    unfold decode
    split <;> rfl
  simp only [advance, ByteSource.fetch]
  rcases hf : Rewind.fetch (d.bytesFor n) s with ⟨us | _ | _ | e, s'⟩
  all_goals rw [hf] at hbelow
  · refine .quiet (hbelow.latched fun hn => .inl (hdecode us ▸ hn)) ?_
    dsimp only
    split <;> simp
  · exact .quiet (hbelow.latched .inl) (by simp)
  · exact hbelow.passed rfl
  · exact .quiet (hbelow.latched .inl) (by simp)

theorem fetchPlain_honest (n : Nat) (s : Decoding × Rewind × σ) :
    Honest (Latched finished P E) (Below E) ((fetchPlain n s).1 = .ended) s (fetchPlain n s).2 := by
  unfold fetchPlain
  split
  · have htext := Honest.persist Option.isNone
      (fun s : Decoding × Rewind × σ => ByteSource.budget s.2) (· = some Fetch.ended)
      (advance_honest hr n) s
    simp only [fetchText]
    refine htext.imp fun he => ?_
    cases hp : (persist Option.isNone (fun s : Decoding × Rewind × σ => ByteSource.budget s.2)
      (advance n) s).1 with
    | none => simp [hp] at he
    | some f => simpa [hp] using he
  · exact fetchBytes_honest hr n s

end Plain

theorem closes : Closes (Latched finished (Below P) (Below E)) (Below (Below E))
    (fetch (σ := σ)) := by
  have hplain := fetchPlain_honest (Rewind.closes h)
  rintro n ⟨d, s⟩
  simp only [fetch]
  split
  · exact .still (by simp)
  split
  · exact .quiet (latched_same .refl rfl) (by simp)
  split
  · exact .noted ‹_›
  split
  · have hskip := skipMark_honest h (d, s)
    split
    · rename_i f s' hq
      rw [hq] at hskip
      exact hskip.imp fun he => by rw [← he]
    · rename_i s' hq
      rw [hq] at hskip
      exact hskip.trans (hplain n s')
  · exact hplain n (d, s)

end Decoding

end Stages

namespace Lines
variable [CharSource σ] {P E : σ → Prop} (h : Closes P E (CharSource.fetch (σ := σ)))
  (hsome : ∀ n s, P s → (CharSource.fetch (n + 1) s).1 = .got [] → E (CharSource.fetch (n + 1) s).2)
include h hsome

theorem fill_honest (n : Nat) (s : Lines × σ) :
    Honest (Latched ended P E) (Below E) ((fill n s).1 = some .ended) s (fill n s).2 := by
  obtain ⟨l, s⟩ := s
  simp only [fill]
  split
  · exact .still (by simp)
  split
  · exact .noted ‹_›
  · have hbelow := h (max n 1) s
    have hnone := hsome (max n 1 - 1) s
    rw [show max n 1 - 1 + 1 = max n 1 by omega] at hnone
    rcases hf : CharSource.fetch (max n 1) s with ⟨us | _ | _ | e, s'⟩
    all_goals rw [hf] at hbelow hnone
    · cases us with
      | nil =>
        have hdown : Honest P E True s s' := ⟨hbelow.keeps, hbelow.stays, fun hp _ => hnone hp rfl⟩
        exact (hdown.latched fun hn => .inl hn).imp fun _ => trivial
      | cons u us => exact .quiet (hbelow.latched fun hn => .inl hn) (by simp)
    · exact .quiet (hbelow.latched fun hn => .inl hn) (by simp)
    · exact hbelow.passed rfl
    · exact .quiet (hbelow.latched fun hn => .inl hn) (by simp)

/-- A carriage return is settled without an end being noted or answered. -/
theorem afterReturn_honest {pair lone : Lines → Next × Lines}
    (hpair : ∀ l, (pair l).2.ended = l.ended ∧ (pair l).1 ≠ .ended)
    (hlone : ∀ l, (lone l).2.ended = l.ended ∧ (lone l).1 ≠ .ended) (s : Lines × σ) :
    Honest (Latched ended P E) (Below E) ((afterReturn pair lone s).1 = .ended) s
      (afterReturn pair lone s).2 := by
  have hfill := fill_honest h hsome 1 s
  simp only [afterReturn]
  split
  · rename_i l s' hf
    rw [hf] at hfill
    exact .quiet (hfill.restaged id) (by simp)
  · rename_i e l s' hf
    rw [hf] at hfill
    exact hfill.quiet (by simp)
  · rename_i l s' _ _ hf
    rw [hf] at hfill
    by_cases hn : l.ahead.head? = some '\n'
    · rw [if_pos hn]
      obtain ⟨hended, hanswer⟩ := hpair { l with ahead := l.ahead.tail }
      exact .quiet (hfill.restaged fun hx => hended ▸ hx) hanswer
    · rw [if_neg hn]
      obtain ⟨hended, hanswer⟩ := hlone l
      exact .quiet (hfill.restaged fun hx => hended ▸ hx) hanswer

omit h hsome in
theorem ahead_of_fill {n : Nat} {s s' : Lines × σ} (hf : fill n s = (none, s')) : s'.1.ahead ≠ [] := by
  obtain ⟨l, s⟩ := s
  simp only [fill] at hf
  split at hf
  · rename_i hne
    simp only [Prod.mk.injEq, true_and] at hf
    simpa [← hf] using hne
  split at hf
  · simp at hf
  · split at hf <;> simp at hf
    subst hf
    simpa using ‹_›

theorem next_honest (n : Nat) (s : Lines × σ) :
    Honest (Latched ended P E) (Below E) ((next n s).1 = .ended) s (next n s).2 := by
  have hfill := fill_honest h hsome n s
  simp only [next]
  rcases hf : fill n s with ⟨_ | why, l, s'⟩
  all_goals rw [hf] at hfill
  · have hne := ahead_of_fill hf
    cases ha : l.ahead with
    | nil => exact absurd ha hne
    | cons c cs =>
      have hquiet : Honest (Latched ended P E) (Below E) False s ({ l with ahead := cs }, s') :=
        .quiet (hfill.restaged id) id
      have hreturn : ∀ {pair lone : Lines → Next × Lines},
          (∀ l, (pair l).2.ended = l.ended ∧ (pair l).1 ≠ .ended) →
          (∀ l, (lone l).2.ended = l.ended ∧ (lone l).1 ≠ .ended) →
          Honest (Latched ended P E) (Below E)
            ((afterReturn pair lone ({ l with ahead := cs }, s')).1 = .ended) s
            (afterReturn pair lone ({ l with ahead := cs }, s')).2 := fun hpair hlone =>
        hquiet.trans (afterReturn_honest h hsome hpair hlone _)
      dsimp only
      rw [ha]
      dsimp only
      split
      · exact hquiet.quiet (by simp)
      · exact hreturn (fun l => ⟨rfl, by simp⟩) fun l => ⟨rfl, by simp⟩
      · exact .quiet (hquiet.restaged id) (by simp)
      · exact hreturn (fun l => ⟨rfl, by simp⟩) fun l => ⟨rfl, by simp⟩
      · exact hquiet.quiet (by simp)
  · exact hfill.imp fun he => congrArg some he

theorem gather_honest (n : Nat) (some? : Bool) (s : Lines × σ) :
    Honest (Latched ended P E) (Below E) ((gather n some? s).1.2 = .ended) s (gather n some? s).2 := by
  induction n generalizing some? s with
  | zero => exact .still (by simp [gather])
  | succ n ih =>
    simp only [gather]
    split
    · exact .still (by simp)
    · have hnext := next_honest h hsome (n + 1) s
      rcases hq : next (n + 1) s with ⟨c | _ | _ | e, s'⟩
      all_goals rw [hq] at hnext
      · exact hnext.trans (ih true s')
      · exact hnext.quiet (by cases some? <;> simp)
      · exact hnext.imp fun _ => rfl
      · exact hnext.quiet (by simp)

theorem read_honest (n : Nat) (s : Lines × σ) :
    Honest (Latched ended P E) (Below E) ((read n s).1.2 = .ended) s (read n s).2 := by
  obtain ⟨l, s⟩ := s
  have hkept : Honest (Latched ended P E) (Below E) False (l, s)
      ({ l with partialLine := l.partialLine.drop n }, s) := Honest.refl.restaged id
  exact hkept.trans (gather_honest h hsome _ _ _)

theorem untilNewline_honest (blocking : Bool) (fuel : Nat) (s : Lines × σ) :
    Honest (Latched ended P E) (Below E) ((untilNewline blocking fuel s).1.2 = .ended) s
      (untilNewline blocking fuel s).2 := by
  induction fuel generalizing s with
  | zero => exact .still (by simp [untilNewline])
  | succ fuel ih =>
    have hnext := next_honest h hsome 1 s
    simp only [untilNewline]
    rcases hq : next 1 s with ⟨c | _ | _ | e, s'⟩
    all_goals rw [hq] at hnext
    · dsimp only
      split
      · exact hnext.quiet (by simp)
      · exact hnext.trans (ih s')
    · dsimp only
      split
      · exact hnext.trans (ih s')
      · exact hnext.quiet (by simp)
    · exact hnext.imp fun _ => rfl
    · exact hnext.quiet (by simp)

/-- No line is an end, and what waits of one is none. -/
theorem readLine_honest (blocking : Bool) (s : Lines × σ) :
    Honest (Latched ended P E) (Below E) ((readLine blocking s).1 = .ended) s
      (readLine blocking s).2 := by
  have hends := untilNewline_honest h hsome blocking (budget s + 2) s
  simp only [readLine]
  rcases hq : untilNewline blocking (budget s + 2) s with ⟨⟨cs, stop⟩, l, s'⟩
  rw [hq] at hends
  cases stop with
  | newline => exact .quiet (hends.restaged id) (by simp)
  | wouldBlock => exact .quiet (hends.restaged id) (by simp)
  | failed e => exact .quiet (hends.restaged id) (by simp)
  | ended =>
    dsimp only
    split
    · exact hends.imp fun _ => rfl
    · exact .quiet (hends.restaged id) (by simp)

end Lines

namespace Chain
variable {δ : Type} {P E : Cutoff × δ → Prop}

/-- A stage above the first has noted the end. -/
def noted (c : Chain) : Bool := c.lines.ended || c.decoding.finished || c.readAhead.ended

/-- Of the first stage and its device, with `E` if the end was noted above. -/
def Held (P E : Cutoff × δ → Prop) (s : Chain × δ) : Prop :=
  P (s.1.cutoff, s.2) ∧ (s.1.noted = true → E (s.1.cutoff, s.2))

/-- Of the first stage and its device. -/
def Bottom (E : Cutoff × δ → Prop) (s : Chain × δ) : Prop := E (s.1.cutoff, s.2)

/-- As the stages below the line endings have it. -/
abbrev HeldLower (P E : Cutoff × δ → Prop) : Lower δ → Prop := Below (Latched ReadAhead.ended P E)

abbrev BottomLower (E : Cutoff × δ → Prop) : Lower δ → Prop := Below (Below E)

/-- As all the stages have it. -/
abbrev HeldWhole (P E : Cutoff × δ → Prop) : Whole δ → Prop :=
  Latched Lines.ended (Latched Decoding.finished (HeldLower P E) (BottomLower E))
    (Below (BottomLower E))

abbrev BottomWhole (E : Cutoff × δ → Prop) : Whole δ → Prop := Below (Below (BottomLower E))

theorem held_ofWhole (s : Whole δ) : Held P E (ofWhole s) ↔ HeldWhole P E s := by
  obtain ⟨l, g, r, b, k, d⟩ := s
  simp only [Held, noted, ofWhole, Latched, Below, Bool.or_eq_true]
  grind

/-- What the stages are one by one, they are together. -/
theorem honest_ofWhole {ends : Prop} {c : Chain} {d : δ} {s' : Whole δ}
    (h : Honest (HeldWhole P E) (BottomWhole E) ends (c.whole d) s') :
    Honest (Held P E) (Bottom E) ends (c, d) (ofWhole s') :=
  ⟨fun hs => (held_ofWhole s').2 (h.keeps ((held_ofWhole (c.whole d)).1 hs)), h.stays,
    fun hs => h.closes ((held_ofWhole (c.whole d)).1 hs)⟩

/-- So are the lower stages alone, if those above note nothing. -/
theorem honest_around {ends : Prop} {c : Chain} {d : δ} {l : Lines} {g : Decoding} {s' : Lower δ}
    (hg : g.finished = c.decoding.finished) (hl : l.ended = c.lines.ended)
    (h : Honest (HeldLower P E) (BottomLower E) ends (c.lower d) s') :
    Honest (Held P E) (Bottom E) ends (c, d) (ofWhole (l, g, s')) := by
  refine honest_ofWhole (Honest.latched (Honest.latched h ?_) ?_)
  · exact fun hx => .inl (hg ▸ hx)
  · exact fun hx => .inl (hl ▸ hx)

variable [RawReader δ] (h : Closes P E (Cutoff.fetch (δ := δ)))
include h

theorem closes_lower : Closes (HeldLower P E) (BottomLower E) (ByteSource.fetch (σ := Lower δ)) :=
  Rewind.closes (σ := ReadAhead × Cutoff × δ) (ReadAhead.closes (σ := Cutoff × δ) h)

theorem closes_decoding : Closes (Latched Decoding.finished (HeldLower P E) (BottomLower E))
    (Below (BottomLower E)) (CharSource.fetch (σ := Decoding × Lower δ)) :=
  Decoding.closes (σ := ReadAhead × Cutoff × δ) (ReadAhead.closes (σ := Cutoff × δ) h)

theorem readBytes_honest (n : Nat) (c : Chain) (d : δ) :
    Honest (Held P E) (Bottom E) ((c.readBytes n d).1.2 = .ended) (c, d) (c.readBytes n d).2 := by
  have hrun := Honest.collect piece (closes_lower h).run
    (n - ((c.lines.takePending n).1.map Encoding.lowByte).length) (c.lower d)
  refine honest_around ?_ rfl hrun
  split
  · rfl
  · split <;> rfl

variable (hsome : ∀ n s, Latched Decoding.finished (HeldLower P E) (BottomLower E) s →
  (CharSource.fetch (n + 1) s).1 = .got [] → Below (BottomLower E) (CharSource.fetch (n + 1) s).2)
include hsome

theorem readText_honest (n : Nat) (c : Chain) (d : δ) :
    Honest (Held P E) (Bottom E) ((c.readText n d).1.2 = .ended) (c, d) (c.readText n d).2 :=
  honest_ofWhole (Honest.collect piece (Lines.read_honest (closes_decoding h) hsome) n (c.whole d))

theorem readLine_honest (blocking : Bool) (c : Chain) (d : δ) :
    Honest (Held P E) (Bottom E) ((c.readLine blocking d).1 = .ended) (c, d)
      (c.readLine blocking d).2 :=
  honest_ofWhole (Lines.readLine_honest (closes_decoding h) hsome blocking (c.whole d))

end Chain

end Input

end ScriptChannel
