import Mathlib.Data.List.Induction
import ScriptChannel.Proofs.Consulted
import ScriptChannel.Proofs.Input.Cutoff
import ScriptChannel.Proofs.Stock
import ScriptChannel.Proofs.Transport.Rehearsed

/-!
# One ordered stream, whatever the settings

The stage with its reader in use: it is read with buffers of any size, its settings are changed while
something is cached, the cache is taken from it, and a noted end is cancelled. What was handed out and
then the cache is what the source has delivered. The end of the source, once answered, is final until it
is cancelled.
-/

namespace ScriptChannel.Input.ReadAhead

/-- What a user of the stage does. -/
inductive Call
  | read (size : Nat)
  | takeCached
  | setSize (size : Nat)
  | setBuffering (buffering : Buffering)
  | setBlocking (blocking : Bool)
  | cancelEnd
  deriving DecidableEq, Repr

/-- The stage and what its user has of it. -/
structure Usage (σ : Type) where
  /-- By reads and with the cache, in order. -/
  handed : List UInt8
  readAhead : ReadAhead
  source : Consulted σ
  /-- The fetches from the source up to the last time that its end was cancelled, if it was. -/
  cancelled : Nat

/-- At most one newline, and that at the end. -/
theorem newline_firstLine (n : Nat) (bs : List UInt8) : 0x0A ∉ (firstLine n bs).dropLast := by
  induction n generalizing bs with
  | zero => simp [firstLine]
  | succ n ih =>
    cases bs with
    | nil => simp [firstLine]
    | cons b bs =>
      simp only [firstLine]
      split
      · simp
      · rename_i hb
        cases hrest : firstLine n bs with
        | nil => simp
        | cons c cs =>
          have hno := ih bs
          rw [hrest] at hno
          rw [List.dropLast_cons_cons, List.mem_cons, not_or]
          exact ⟨Ne.symm hb, hno⟩

section Source
variable {σ : Type} [ByteSource σ]

/-- Either a fetch makes do with what is there, or it makes one request, with nothing cached and no end
noted. What it is answered then it hands out or caches, and the end it notes. -/
theorem fetch_asks (n : Nat) (b : ReadAhead) (s : σ) :
    (fetch n (b, s)).2.2 = s ∧ b.cache = (fetch n (b, s)).1.units ++ (fetch n (b, s)).2.1.cache ∧
        (fetch n (b, s)).2.1.ended = b.ended ∨
      b.cache = [] ∧ b.ended = false ∧ ∃ m, m ≠ 0 ∧ (fetch n (b, s)).2.2 = (ask m (b, s)).2.2 ∧
        (ask m (b, s)).1.units = (fetch n (b, s)).1.units ++ (fetch n (b, s)).2.1.cache ∧
        (fetch n (b, s)).2.1.ended = ((ask m (b, s)).1 == .ended) := by
  simp only [fetch]
  split
  · exact .inl ⟨rfl, rfl, rfl⟩
  rename_i hn
  split
  · exact .inl ⟨rfl, (serve_stock b n).symm, rfl⟩
  have hnone : b.cache = [] := by simpa using ‹¬ (!b.cache.isEmpty) = true›
  split
  · exact .inl ⟨rfl, rfl, rfl⟩
  have hopen : b.ended = false := by simpa using ‹¬ b.ended = true›
  refine .inr ⟨hnone, hopen, ?_⟩
  split
  · obtain ⟨hcache, -, hended⟩ := ask_notes n b s
    refine ⟨n, hn, rfl, ?_, ?_⟩
    · rw [hcache, hnone, List.append_nil]
    · rw [hended, hopen, Bool.false_or]
  · obtain ⟨hcache, -, hended⟩ := ask_notes (max b.size 1) b s
    rw [hnone] at hcache
    rw [hopen, Bool.false_or] at hended
    refine ⟨max b.size 1, by omega, ?_⟩
    rcases hq : ask (max b.size 1) (b, s) with ⟨us | _ | _ | e, b', s'⟩
    all_goals rw [hq] at hcache hended
    · exact ⟨rfl, (serve_stock { b' with cache := us } n).symm, hended⟩
    all_goals exact ⟨rfl, hcache.symm, hended⟩

/-- The source was asked until it answered something else than that nothing is there yet, or once. -/
theorem ask_log (n : Nat) (b : ReadAhead) (s : Consulted σ) :
    ∃ delays, (∀ entry ∈ delays, entry.2 = .wouldBlock) ∧
      (ask n (b, s)).2.2.log = s.log ++ (delays ++ [(n, (ask n (b, s)).1)]) := by
  obtain ⟨s', ⟨delays, hdelays, hlog⟩, hanswer, hsource⟩ := ask_answers (n := n)
    (P := fun s' : Consulted σ => ∃ delays : List (Nat × Fetch UInt8),
      (∀ entry ∈ delays, entry.2 = .wouldBlock) ∧ s'.log = s.log ++ delays)
    (by
      rintro s' ⟨delays, hdelays, hlog⟩ hagain
      refine ⟨delays ++ [(n, (ByteSource.fetch n s').1)], fun entry hmem => ?_,
        by rw [Consulted.log_fetch, hlog, List.append_assoc]⟩
      rcases List.mem_append.1 hmem with hmem | hmem
      · exact hdelays entry hmem
      · obtain rfl := List.mem_singleton.1 hmem
        exact hagain)
    b (s := s) ⟨[], by simp⟩
  refine ⟨delays, hdelays, ?_⟩
  rw [hsource, hanswer, Consulted.log_fetch, hlog, List.append_assoc]

/-- In line mode no newline is handed out but the last byte. -/
theorem newline_fetch (n : Nat) {b : ReadAhead} (hb : b.buffering = .line) (s : σ) :
    0x0A ∉ (fetch n (b, s)).1.units.dropLast := by
  have hserve : ∀ c : ReadAhead, c.buffering = .line → 0x0A ∉ (c.serve n).1.dropLast := by
    intro c hc
    rw [serve, share, if_pos hc]
    exact newline_firstLine n c.cache
  simp only [fetch]
  split
  · simp [Fetch.units]
  split
  · exact hserve b hb
  split
  · simp [Fetch.units]
  rw [if_neg (by simp [hb])]
  obtain ⟨-, hbuffering, -⟩ := ask_notes (max b.size 1) b s
  rcases hq : ask (max b.size 1) (b, s) with ⟨us | _ | _ | e, b', s'⟩
  all_goals rw [hq] at hbuffering
  · exact hserve { b' with cache := us } (hbuffering.trans hb)
  all_goals simp [Fetch.units]

/-- A reader who waits never hears that nothing is there yet. -/
theorem fetch_patient [ByteStream σ] (n : Nat) {b : ReadAhead} (hb : b.blocking = true) (s : σ) :
    (fetch n (b, s)).1 ≠ .wouldBlock := by
  intro h
  have hn : 0 < n := by
    rcases Nat.eq_zero_or_pos n with rfl | hn
    · simp [fetch] at h
    · exact hn
  have htakes := (fetch_takes hn (b, s)).1
  rw [h] at htakes
  -- neither the cache nor what is heard of the source has delays in it
  have hcoming : coming (b, s) = (coming (b, s)).patient := by
    simp only [coming, heard, hb, if_true, Coming.patient_append, Coming.patient_ofUnits]
    split <;> simp [Coming.patient]
  have hdelay : Signal.delay ∈ (coming (b, s)).patient := by
    rw [← hcoming, show coming (b, s) = _ from htakes]
    exact List.mem_cons_self ..
  simp [Coming.patient, Signal.isDelay] at hdelay

namespace Usage

omit [ByteSource σ] in
/-- A new stage in front of a source. -/
def init (size : Nat) (buffering : Buffering) (s : σ) : Usage σ :=
  ⟨[], .init size buffering, .fresh s, 0⟩

def place (u : Usage σ) : ReadAhead × Consulted σ := (u.readAhead, u.source)

def call (u : Usage σ) : Call → Usage σ
  | .read n =>
    let r := fetch n u.place
    { u with handed := u.handed ++ r.1.units, readAhead := r.2.1, source := r.2.2 }
  | .takeCached =>
    let r := u.readAhead.takeCached
    { u with handed := u.handed ++ r.1, readAhead := r.2 }
  | .setSize size => { u with readAhead := { u.readAhead with size } }
  | .setBuffering buffering => { u with readAhead := { u.readAhead with buffering } }
  | .setBlocking blocking => { u with readAhead := { u.readAhead with blocking } }
  | .cancelEnd => { u with readAhead := u.readAhead.cancelEnd, cancelled := u.source.log.length }

def after (u : Usage σ) (calls : List Call) : Usage σ := calls.foldl call u

theorem after_concat (u : Usage σ) (calls : List Call) (c : Call) :
    u.after (calls ++ [c]) = (u.after calls).call c := by
  simp [after]

/-- The source has answered that it ended, and this was not cancelled since. -/
def EndAnswered (u : Usage σ) : Prop := ∃ n, (n, Fetch.ended) ∈ u.source.log.drop u.cancelled

/-- What was handed out and the cache are what the source delivered, and the end is noted that it
answered. -/
structure Sound (u : Usage σ) : Prop where
  conserved : u.handed ++ u.readAhead.cache = u.source.delivered
  counted : u.cancelled ≤ u.source.log.length
  noted : u.readAhead.ended = true ↔ u.EndAnswered

omit [ByteSource σ] in
theorem sound_init (size : Nat) (buffering : Buffering) (s : σ) : (init size buffering s).Sound where
  conserved := rfl
  counted := Nat.le_refl 0
  noted := by simp [init, ReadAhead.init, EndAnswered, Consulted.fresh]

theorem Sound.call {u : Usage σ} (h : u.Sound) (c : Call) : (u.call c).Sound := by
  cases c with
  | read n =>
    rcases fetch_asks n u.readAhead u.source with ⟨hs, hcache, hended⟩ |
      ⟨hnone, hopen, m, -, hs, hunits, hended⟩
    · refine ⟨?_, ?_, ?_⟩
      · simp only [Usage.call, place, hs]
        rw [List.append_assoc, ← hcache]
        exact h.conserved
      · simpa only [Usage.call, place, hs] using h.counted
      · simp only [Usage.call, place, EndAnswered, hs, hended]
        exact h.noted
    · obtain ⟨delays, hdelays, hlog⟩ := ask_log m u.readAhead u.source
      generalize (ask m (u.readAhead, u.source)).1 = f at hunits hended hlog
      rw [← hs] at hlog
      have hquiet : ∀ k, (k, Fetch.ended) ∉ u.source.log.drop u.cancelled := by
        intro k hmem
        rw [h.noted.2 ⟨k, hmem⟩] at hopen
        cases hopen
      have hbefore : u.handed = u.source.delivered := by
        rw [← h.conserved, hnone, List.append_nil]
      have hnothing : delays.flatMap (fun entry => entry.2.units) = [] := by
        rw [List.flatMap_eq_nil_iff]
        intro entry hmem
        rw [hdelays entry hmem]
        rfl
      refine ⟨?_, ?_, ?_⟩
      · simp only [Usage.call, place, Consulted.delivered, hlog]
        rw [List.append_assoc, ← hunits, hbefore, List.flatMap_append, List.flatMap_append, hnothing]
        simp [Consulted.delivered]
      · simp only [Usage.call, place, hlog, List.length_append]
        exact Nat.le_trans h.counted (Nat.le_add_right _ _)
      · simp only [Usage.call, place, EndAnswered, hended, hlog]
        rw [List.drop_append_of_le_length h.counted]
        constructor
        · intro hend
          obtain rfl : f = .ended := by simpa using hend
          exact ⟨m, by simp⟩
        · rintro ⟨k, hmem⟩
          rcases List.mem_append.1 hmem with hmem | hmem
          · exact absurd hmem (hquiet k)
          rcases List.mem_append.1 hmem with hmem | hmem
          · cases hdelays _ hmem
          · cases List.mem_singleton.1 hmem
            rfl
  | takeCached =>
    refine ⟨?_, h.counted, h.noted⟩
    simpa only [Usage.call, takeCached, List.append_nil] using h.conserved
  | setSize _ | setBuffering _ | setBlocking _ => exact ⟨h.conserved, h.counted, h.noted⟩
  | cancelEnd =>
    refine ⟨h.conserved, Nat.le_refl _, ?_⟩
    simp [Usage.call, cancelEnd, EndAnswered]

/-- Induction over the calls. -/
theorem sound_after (size : Nat) (buffering : Buffering) (s : σ) (calls : List Call) :
    ((init size buffering s).after calls).Sound := by
  induction calls using List.reverseRecOn with
  | nil => exact sound_init size buffering s
  | append_singleton calls c ih =>
    rw [after_concat]
    exact ih.call c

/-- Only a read asks the source, with nothing cached and no end noted. -/
theorem source_call (u : Usage σ) (c : Call) (h : u.readAhead.cache ≠ [] ∨ u.readAhead.ended = true) :
    (u.call c).source = u.source := by
  cases c with
  | read n =>
    rcases fetch_asks n u.readAhead u.source with ⟨hs, -⟩ | ⟨hnone, hopen, -⟩
    · exact hs
    · rcases h with h | h
      · exact absurd hnone h
      · cases hopen.symm.trans h
  | takeCached | setSize _ | setBuffering _ | setBlocking _ | cancelEnd => rfl

/-- A noted end is kept until it is cancelled. -/
theorem ended_call (u : Usage σ) {c : Call} (hc : c ≠ .cancelEnd) (h : u.readAhead.ended = true) :
    (u.call c).readAhead.ended = true := by
  cases c with
  | read n =>
    rcases fetch_asks n u.readAhead u.source with ⟨-, -, hended⟩ | ⟨-, hopen, -⟩
    · exact hended.trans h
    · cases hopen.symm.trans h
  | takeCached | setSize _ | setBuffering _ | setBlocking _ => exact h
  | cancelEnd => exact absurd rfl hc

/-- Whatever comes in between. -/
theorem ended_after (u : Usage σ) (h : u.readAhead.ended = true) (calls : List Call)
    (hc : .cancelEnd ∉ calls) :
    (u.after calls).readAhead.ended = true ∧ (u.after calls).source = u.source := by
  induction calls using List.reverseRecOn with
  | nil => exact ⟨h, rfl⟩
  | append_singleton calls c ih =>
    rw [List.mem_append, List.mem_singleton, not_or] at hc
    obtain ⟨hended, hsource⟩ := ih hc.1
    rw [after_concat]
    exact ⟨ended_call _ (Ne.symm hc.2) hended, (source_call _ c (.inr hended)).trans hsource⟩

/-- The stage as one ordered stream with an end. -/
structure Orderly (u : Usage σ) : Prop where
  conserved : u.handed ++ u.readAhead.cache = u.source.delivered
  /-- With something cached no call asks the source. -/
  sparing : u.readAhead.cache ≠ [] → ∀ c, (u.call c).source = u.source
  /-- Once it answered that it ended it is not asked before that is cancelled, and with nothing cached
  a read for anything answers the same. -/
  latched : u.EndAnswered → ∀ more, .cancelEnd ∉ more → (u.after more).source = u.source ∧
    ((u.after more).readAhead.cache = [] → ∀ n, n ≠ 0 → (fetch n (u.after more).place).1 = .ended)
  /-- A read for nothing has it at once. -/
  idle : fetch 0 u.place = (.got [], u.place)
  patient : u.readAhead.blocking = true → ∀ n, (fetch n u.place).1 ≠ .wouldBlock
  lineWise : u.readAhead.buffering = .line → ∀ n, 0x0A ∉ (fetch n u.place).1.units.dropLast

theorem Sound.orderly [ByteStream σ] {u : Usage σ} (h : u.Sound) : u.Orderly where
  conserved := h.conserved
  sparing hsome c := source_call u c (.inl hsome)
  latched hanswered more hmore := by
    obtain ⟨hended, hsource⟩ := ended_after u (h.noted.2 hanswered) more hmore
    exact ⟨hsource, fun hnone n hn => by simp [fetch, place, hn, hnone, hended]⟩
  idle := rfl
  patient hblocking n := fetch_patient n hblocking u.source
  lineWise hline n := newline_fetch n hline u.source

/-- Whatever was called before. -/
theorem orderly_after [ByteStream σ] (size : Nat) (buffering : Buffering) (s : σ) (calls : List Call) :
    ((init size buffering s).after calls).Orderly :=
  (sound_after size buffering s calls).orderly

/-- The end is answered to reads for something only: a read for nothing does not hear of it. -/
theorem unheard_end :
    let d : Transport.Rehearsed := { Transport.Rehearsed.quiet with reads := [] }
    let u := (init 4096 .full (Cutoff.init 0, d)).after [.read 1]
    u.EndAnswered ∧ u.readAhead.cache = [] ∧ (fetch 0 u.place).1 ≠ .ended :=
  ⟨⟨4096, by decide⟩, by decide, by decide⟩

/-- Settings changed while something is cached count from the next read on. -/
example :
    let d : Transport.Rehearsed :=
      { Transport.Rehearsed.quiet with reads := [.units [97, 10, 98, 10, 99], .delay, .units [100]] }
    let u := (init 8 .full (Cutoff.init 0, d)).after
      [.read 1, .setBuffering .line, .read 9, .setBuffering .none, .read 2, .takeCached, .read 5, .read 5]
    u.handed = [97, 10, 98, 10, 99, 100] ∧ u.readAhead.cache = [] ∧
      u.source.log.map Prod.fst = [8, 5, 5, 5] := by
  decide

end Usage

end Source

end ScriptChannel.Input.ReadAhead
