import ScriptChannel.Proofs.Input.Tuning
import ScriptChannel.Proofs.Input.Waiting
import ScriptChannel.Proofs.Transport.Recorded

/-!
# What the source said last

The stage that reads ahead notes whether the stage below had nothing when it was last asked. So a read
that stops for want of data leaves this noted, whatever stages the news came up through. But the note is
of the last request and not of the read: it follows the last answer of the device, which may have been
to a request for more than the read needed, and it stays where nothing is asked at all.
-/

namespace ScriptChannel

namespace Transport

/-- The answer, if the call is a read call. -/
def Entry.answer? : Entry → Option (Except IoError (List UInt8))
  | read _ answer => some answer
  | _ => none

namespace Recorded
variable {δ : Type}

/-- The answers to the read calls, in order. -/
def answers (d : Recorded δ) : List (Except IoError (List UInt8)) := d.log.filterMap Entry.answer?

variable [Transport δ]

theorem answers_read (n : Nat) (d : Recorded δ) :
    (RawReader.read n d).2.answers = d.answers ++ [(RawReader.read n d).1] :=
  List.filterMap_append

instance [RawStream δ] : RawStream (Recorded δ) where
  coming d := RawStream.coming d.device
  read_takes n d := RawStream.read_takes n d.device
  length_coming_le d := RawStream.length_coming_le d.device

end Recorded

end Transport

open Transport (Recorded)

namespace Input

/-- Where a fetch answers that nothing is there yet, this holds behind it. -/
def Admits {α σ : Type} (W : σ → Prop) (fetch : Nat → σ → Fetch α × σ) : Prop :=
  ∀ n s, (fetch n s).1 = .wouldBlock → W (fetch n s).2

namespace Cutoff

/-- How many fetches at the most can still be answered here without asking the device. -/
def left (c : Cutoff) : Nat := c.held.length + if c.reached then 0 else 1

/-- What an answer of the device becomes. -/
def pass (c : Cutoff) : Fetch UInt8 → Fetch UInt8 × Cutoff
  | .got bs => c.screen bs
  | f => (f, c)

/-- Bytes stay bytes or become the end. -/
theorem screen_of_bytes (c : Cutoff) (bs : List UInt8) :
    (c.screen bs).1.isWouldBlock = false ∧ ∀ e, (c.screen bs).1 ≠ .failed e := by
  unfold screen
  split
  · simp [Fetch.isWouldBlock]
  · dsimp only
    split <;> simp [Fetch.isWouldBlock]

/-- So no other answer changes. -/
theorem pass_news (c : Cutoff) (f : Fetch UInt8) :
    (c.pass f).1.isWouldBlock = f.isWouldBlock ∧ (∀ e, (c.pass f).1 = .failed e → f = .failed e) ∧
      ((c.pass f).1.isWouldBlock = true ∨ (∃ e, (c.pass f).1 = .failed e) → (c.pass f).2 = c) := by
  cases f with
  | got bs =>
    obtain ⟨hdelay, hfailed⟩ := c.screen_of_bytes bs
    exact ⟨hdelay, fun e he => absurd he (hfailed e), fun h => h.elim
      (fun hd => absurd (hdelay.symm.trans hd) Bool.false_ne_true) fun ⟨e, he⟩ => absurd he (hfailed e)⟩
  | wouldBlock | ended | failed => exact ⟨rfl, fun _ => id, fun _ => rfl⟩

/-- With bytes held there is less left for the next fetch. -/
theorem left_screen_lt {c : Cutoff} {n : Nat} (hn : n ≠ 0) (hr : c.reached = false) (hh : c.held ≠ []) :
    (({ c with held := c.held.drop n } : Cutoff).screen (c.held.take n)).2.left < c.left := by
  have hlen := List.length_pos_iff.2 hh
  unfold screen
  split
  · simp only [left, hr, List.length_drop, Bool.false_eq_true, if_false]
    omega
  · simp only [left, hr, unread, List.length_append, List.length_drop, List.length_take,
      Bool.false_eq_true, if_true, if_false]
    omega

section Reader
variable {δ : Type} [RawReader δ] {n : Nat} {c : Cutoff}

theorem fetch_of_reached (hr : c.reached = true) (n : Nat) (d : δ) : fetch n (c, d) = (.ended, c, d) := by
  simp [fetch, hr]

theorem fetch_of_held (hn : n ≠ 0) (hr : c.reached = false) (hh : c.held ≠ []) (d : δ) :
    fetch n (c, d) =
      let r := ({ c with held := c.held.drop n } : Cutoff).screen (c.held.take n)
      (r.1, r.2, d) := by
  simp [fetch, take, hr, hn, hh]

/-- The device is asked when nothing is held. -/
theorem fetch_of_empty (hn : n ≠ 0) (hr : c.reached = false) (hh : c.held = []) (d : δ) :
    fetch n (c, d) =
      let q := persist interrupted RawReader.budget (RawReader.read n) d
      let r := c.pass (.ofRead q.1)
      (r.1, r.2, q.2) := by
  simp only [fetch, take, hr, hn, hh, List.isEmpty_nil, Bool.false_eq_true, if_true, if_false]
  cases Fetch.ofRead (persist interrupted RawReader.budget (RawReader.read n) d).1 <;> rfl

/-- Where a fetch brings nothing the marker was not met. -/
theorem reached_of_fetch (hn : n ≠ 0) (c : Cutoff) (d : δ)
    (h : (fetch n (c, d)).1.isWouldBlock = true ∨ ∃ e, (fetch n (c, d)).1 = .failed e) :
    (fetch n (c, d)).2.1.reached = false := by
  by_cases hr : c.reached = true
  · rw [fetch_of_reached hr] at h
    simp [Fetch.isWouldBlock] at h
  rw [Bool.not_eq_true] at hr
  by_cases hh : c.held = []
  · rw [fetch_of_empty hn hr hh] at h ⊢
    obtain ⟨-, -, hkept⟩ := c.pass_news
      (.ofRead (persist interrupted RawReader.budget (RawReader.read n) d).1)
    exact (congrArg reached (hkept h)).trans hr
  · rw [fetch_of_held hn hr hh] at h
    obtain ⟨hdelay, hfailed⟩ :=
      ({ c with held := c.held.drop n } : Cutoff).screen_of_bytes (c.held.take n)
    rcases h with hd | ⟨e, he⟩
    · exact absurd (hdelay.symm.trans hd) Bool.false_ne_true
    · exact absurd he (hfailed e)

end Reader

section Recorded
variable {δ : Type} [Transport δ] {n : Nat} {c : Cutoff}

/-- The calls it takes to hear from the device, and what it says last. -/
theorem answers_of_empty (hn : n ≠ 0) (hr : c.reached = false) (hh : c.held = []) (d : Recorded δ) :
    ∃ earlier answer, (fetch n (c, d)).2.2.answers = d.answers ++ (earlier ++ [answer]) ∧
      (fetch n (c, d)).1 = (c.pass (.ofRead answer)).1 ∧
      (fetch n (c, d)).2.1 = (c.pass (.ofRead answer)).2 := by
  rw [fetch_of_empty hn hr hh]
  obtain ⟨d', ⟨earlier, hearlier⟩, hlast⟩ := persist_eq_attempt interrupted RawReader.budget
    (RawReader.read n) (P := fun d' : Recorded δ => ∃ earlier, d'.answers = d.answers ++ earlier)
    (by
      rintro d' ⟨earlier, hd'⟩ -
      exact ⟨earlier ++ [(RawReader.read n d').1], by rw [Recorded.answers_read, hd', List.append_assoc]⟩)
    (s := d) ⟨[], by simp⟩
  rw [hlast]
  exact ⟨earlier, (RawReader.read n d').1,
    by rw [Recorded.answers_read, hearlier, List.append_assoc], rfl, rfl⟩

end Recorded

end Cutoff

namespace ReadAhead

/-- After a delay the marker was not met. -/
def Awaits {δ : Type} (s : ReadAhead × Cutoff × δ) : Prop := s.1.starved = true → s.2.1.reached = false

section Source
variable {σ : Type} [ByteSource σ]

/-- What a request leaves noted. A failure is no news of the sort. -/
theorem starved_ask (n : Nat) (s : ReadAhead × σ) :
    (ask n s).2.1.starved =
      match (ask n s).1 with
      | .failed _ => s.1.starved
      | f => f.isWouldBlock := by
  obtain ⟨b, s⟩ := s
  simp only [ask]
  generalize persist (fun f : Fetch UInt8 => b.blocking && f.isWouldBlock) ByteSource.budget
    (ByteSource.fetch n) s = r
  obtain ⟨us | _ | _ | e, s'⟩ := r <;> rfl

/-- A reader who does not wait asks once. -/
theorem ask_of_nonblocking {b : ReadAhead} (hb : b.blocking = false) (n : Nat) (s : σ) :
    (ask n (b, s)).1 = (ByteSource.fetch n s).1 ∧ (ask n (b, s)).2.2 = (ByteSource.fetch n s).2 := by
  have honce : persist (fun f : Fetch UInt8 => b.blocking && f.isWouldBlock) ByteSource.budget
      (ByteSource.fetch n) s = ByteSource.fetch n s := by
    simp [persist, hb, retry_of_not_again]
  simp only [ask, honce]
  rcases ByteSource.fetch n s with ⟨us | _ | _ | e, s'⟩ <;> exact ⟨rfl, rfl⟩

/-- A fetch that asks nothing changes nothing but the cache. One that asks makes one request. -/
theorem fetch_cases (n : Nat) (s : ReadAhead × σ) :
    (fetch n s).1 ≠ .wouldBlock ∧ (fetch n s).2.1.starved = s.1.starved ∧ (fetch n s).2.2 = s.2 ∨
      ∃ m, m ≠ 0 ∧ ((fetch n s).1 = .wouldBlock → (ask m s).1 = .wouldBlock) ∧
        (fetch n s).2.1.starved = (ask m s).2.1.starved ∧ (fetch n s).2.2 = (ask m s).2.2 := by
  obtain ⟨b, s⟩ := s
  simp only [fetch]
  split
  · exact .inl ⟨by simp, rfl, rfl⟩
  rename_i hn
  split
  · exact .inl ⟨by simp, rfl, rfl⟩
  split
  · exact .inl ⟨by simp, rfl, rfl⟩
  split
  · exact .inr ⟨n, hn, id, rfl, rfl⟩
  · refine .inr ⟨max b.size 1, by omega, ?_⟩
    rcases ask (max b.size 1) (b, s) with ⟨us | _ | _ | e, b', s'⟩
    · exact ⟨by simp, rfl, rfl⟩
    all_goals exact ⟨id, rfl, rfl⟩

/-- That nothing is there yet is noted. -/
theorem admits_starved : Admits (fun s => s.1.starved = true) (fetch (σ := σ)) := by
  intro n s h
  rcases fetch_cases n s with ⟨hnot, -⟩ | ⟨m, -, hasked, hstarved, -⟩
  · exact absurd h hnot
  · rw [hstarved, starved_ask, hasked h]
    rfl

end Source

theorem closes_awaits {δ : Type} [RawReader δ] :
    Closes Awaits (fun _ => True) (fetch (σ := Cutoff × δ)) := by
  refine fun n s => ⟨fun hs => ?_, fun _ => trivial, fun _ _ => trivial⟩
  rcases fetch_cases n s with ⟨-, hstarved, hsame⟩ | ⟨m, hm, -, hstarved, hsame⟩
  · intro h
    rw [hsame]
    exact hs (hstarved ▸ h)
  · obtain ⟨b, s⟩ := s
    intro h
    -- whichever attempt was the last one, it went through the stage below
    obtain ⟨s', -, hanswer, hsource⟩ := ask_answers (n := m) (P := fun _ : Cutoff × δ => True)
      (fun _ _ _ => trivial) b (s := s) trivial
    rw [hstarved, starved_ask, hanswer] at h
    rw [hsame, hsource]
    have hnews := Cutoff.reached_of_fetch hm s'.1 s'.2
    simp only [ByteSource.fetch] at h ⊢
    rcases hf : Cutoff.fetch m s' with ⟨us | _ | _ | e, k, d⟩
    all_goals rw [hf] at hnews h
    · exact absurd h (by simp [Fetch.isWouldBlock])
    · exact hnews (.inl rfl)
    · exact absurd h (by simp [Fetch.isWouldBlock])
    · exact hnews (.inr ⟨e, rfl⟩)

section Recorded
variable {δ : Type} [Transport δ]

/-- What is noted when these are the answers since a start: with a last answer whether it was a delay,
and without one what was noted then, unless the stage below had something of its own to say. -/
def Told (start : ReadAhead × Cutoff) (answers : List (Except IoError (List UInt8)))
    (s : ReadAhead × Cutoff × Recorded δ) : Prop :=
  match answers.getLast? with
  | some answer =>
    s.1.starved = (Fetch.ofRead answer).isWouldBlock ∧ (s.1.starved = true → s.2.1.held = [])
  | none =>
    s.1.starved = start.1.starved ∧ s.2.1 = start.2 ∨
      s.1.starved = false ∧ s.2.1.left < start.2.left

/-- The answers go on from those before, and if none is a failure they are what is told. -/
def Follows (start : ReadAhead × Cutoff) (before : List (Except IoError (List UInt8)))
    (s : ReadAhead × Cutoff × Recorded δ) : Prop :=
  ∃ answers, s.2.2.answers = before ++ answers ∧
    ((∀ a ∈ answers, ∀ e, Fetch.ofRead a ≠ .failed e) → Told start answers s)

variable {start : ReadAhead × Cutoff} {before : List (Except IoError (List UInt8))}

omit [Transport δ] in
theorem follows_refl (s : ReadAhead × Cutoff × Recorded δ) :
    Follows (s.1, s.2.1) s.2.2.answers s :=
  ⟨[], by simp, fun _ => .inl ⟨rfl, rfl⟩⟩

omit [Transport δ] in
/-- What the answers since the start tell is what is noted. -/
theorem Follows.starved_iff {s : ReadAhead × Cutoff × Recorded δ} (h : Follows start before s)
    (hsound : ∀ a ∈ s.2.2.answers.drop before.length, ∀ e, Fetch.ofRead a ≠ .failed e) :
    s.1.starved = true ↔
      match (s.2.2.answers.drop before.length).getLast? with
      | some answer => (Fetch.ofRead answer).isWouldBlock = true
      | none => start.1.starved = true ∧ s.2.1 = start.2 := by
  obtain ⟨answers, heq, htold⟩ := h
  rw [heq, List.drop_left] at hsound ⊢
  have hs := htold hsound
  unfold Told at hs
  generalize answers.getLast? = last at hs ⊢
  cases last with
  | some answer => rw [hs.1]
  | none =>
    rcases hs with ⟨hstarved, hcutoff⟩ | ⟨hstarved, hless⟩
    · simp [hstarved, hcutoff]
    · refine ⟨fun h => absurd (hstarved.symm.trans h) Bool.false_ne_true, ?_⟩
      rintro ⟨-, hcutoff⟩
      exact absurd (hcutoff ▸ hless) (Nat.lt_irrefl _)

omit [Transport δ] in
theorem Follows.congr {s s' : ReadAhead × Cutoff × Recorded δ} (h : Follows start before s)
    (hstarved : s'.1.starved = s.1.starved) (hsame : s'.2 = s.2) : Follows start before s' := by
  obtain ⟨b, s⟩ := s
  obtain ⟨b', s'⟩ := s'
  obtain rfl : s' = s := hsame
  obtain ⟨answers, heq, htold⟩ := h
  refine ⟨answers, heq, fun ha => ?_⟩
  have hs := htold ha
  unfold Told at hs ⊢
  dsimp only at hstarved hs ⊢
  rwa [hstarved]

/-- One request, of a reader who does not wait. -/
theorem Follows.ask {m : Nat} (hm : m ≠ 0) {s : ReadAhead × Cutoff × Recorded δ}
    (hb : s.1.blocking = false) (haw : Awaits s) (h : Follows start before s) :
    Follows start before (ReadAhead.ask m s).2 := by
  obtain ⟨b, c, d⟩ := s
  obtain ⟨hanswer, hdown⟩ := ask_of_nonblocking hb m (c, d)
  have hnoted := starved_ask m (b, c, d)
  rw [hanswer] at hnoted
  rcases hq : ReadAhead.ask m (b, c, d) with ⟨f, b', s'⟩
  rw [hq] at hdown hnoted
  dsimp only at hdown hnoted ⊢
  change s' = (Cutoff.fetch m (c, d)).2 at hdown
  have hnews : (∀ e, (Cutoff.fetch m (c, d)).1 ≠ .failed e) →
      b'.starved = (Cutoff.fetch m (c, d)).1.isWouldBlock := by
    intro hsound
    rw [hnoted]
    change (match (Cutoff.fetch m (c, d)).1 with | .failed _ => b.starved | f => f.isWouldBlock) = _
    cases hf : (Cutoff.fetch m (c, d)).1 with
    | got | wouldBlock | ended => rfl
    | failed e => exact absurd hf (hsound e)
  by_cases hr : c.reached = true
  · rw [Cutoff.fetch_of_reached hr] at hdown hnews
    have hquiet : b.starved = false :=
      Bool.eq_false_iff.2 fun hs => absurd (hr.symm.trans (haw hs)) Bool.false_ne_true.symm
    exact h.congr ((hnews (by simp)).trans hquiet.symm) hdown
  rw [Bool.not_eq_true] at hr
  obtain ⟨answers, heq, htold⟩ := h
  dsimp only at heq
  by_cases hh : c.held = []
  · obtain ⟨earlier, answer, hanswers, hfetch, hcut⟩ := Cutoff.answers_of_empty hm hr hh d
    obtain ⟨hdelay, hfailed, hkept⟩ := c.pass_news (.ofRead answer)
    refine ⟨answers ++ (earlier ++ [answer]), ?_, fun ha => ?_⟩
    · rw [hdown, hanswers, heq, List.append_assoc]
    rw [hfetch] at hnews
    have hstarved := hnews fun e he => ha answer (by simp) e (hfailed e he)
    have hlast : (answers ++ (earlier ++ [answer])).getLast? = some answer := by simp
    simp only [Told, hlast]
    refine ⟨hstarved.trans hdelay, fun hs => ?_⟩
    rw [hdown, hcut, hkept (.inl (hstarved.symm.trans hs)), hh]
  · have hlt := Cutoff.left_screen_lt hm hr hh
    obtain ⟨hdelay, hfailed⟩ :=
      ({ c with held := c.held.drop m } : Cutoff).screen_of_bytes (c.held.take m)
    rw [Cutoff.fetch_of_held hm hr hh] at hdown hnews
    have hstarved : b'.starved = false := (hnews hfailed).trans hdelay
    refine ⟨answers, hdown ▸ heq, fun ha => ?_⟩
    have htold := htold ha
    unfold Told at htold ⊢
    rw [hdown]
    generalize answers.getLast? = last at htold ⊢
    cases last with
    | some answer =>
      have hquiet : b.starved = false := Bool.eq_false_iff.2 fun hs => hh (htold.2 hs)
      exact ⟨hstarved.trans (hquiet.symm.trans htold.1),
        fun hs => absurd (hstarved.symm.trans hs) Bool.false_ne_true⟩
    | none =>
      right
      rcases htold with ⟨-, hsame⟩ | ⟨-, hless⟩
      · exact ⟨hstarved, hsame ▸ hlt⟩
      · exact ⟨hstarved, Nat.lt_trans hlt hless⟩

/-- So no fetch loses what the answers tell. -/
theorem closes_follows :
    Closes (fun s => s.1.blocking = false ∧ Awaits s ∧ Follows start before s) (fun _ => True)
      (fetch (σ := Cutoff × Recorded δ)) := by
  refine fun n s => ⟨fun ⟨hb, haw, hf⟩ => ⟨?_, (closes_awaits n s).keeps haw, ?_⟩, fun _ => trivial,
    fun _ _ => trivial⟩
  · have htuning := steady_tuning n s
    simp only [tuning, Prod.mk.injEq] at htuning
    exact htuning.2.2.trans hb
  · rcases fetch_cases n s with ⟨-, hstarved, hsame⟩ | ⟨m, hm, -, hstarved, hsame⟩
    · exact hf.congr hstarved hsame
    · exact (hf.ask hm hb haw).congr hstarved hsame

end Recorded

end ReadAhead

section Below
variable {σ : Type} [ByteSource σ] {W : σ → Prop}

theorem Rewind.admits (h : Admits W (ByteSource.fetch (σ := σ))) :
    Admits (Below W) (Rewind.fetch (σ := σ)) := by
  rintro n ⟨r, s⟩ hd
  simp only [fetch] at hd ⊢
  split at hd
  · cases hd
  rw [if_neg ‹_›]
  split at hd
  · cases hd
  rw [if_neg ‹_›]
  exact h n s hd

/-- A run of bytes that stops at a delay. -/
theorem Admits.run (h : Admits W (ByteSource.fetch (σ := σ))) {n : Nat} {s : σ}
    (hd : (ByteSource.run n s).1.2 = .wouldBlock) : W (ByteSource.run n s).2 := by
  refine h n s ?_
  simp only [ByteSource.run] at hd
  cases hf : (ByteSource.fetch n s).1 with
  | wouldBlock => rfl
  | got | ended | failed => simp [hf, Fetch.run] at hd

namespace Decoding

/-- The search for a mark waits where its bytes have not come yet. -/
theorem skipMark_admits (h : Admits W (ByteSource.fetch (σ := σ))) (s : Decoding × Rewind × σ)
    (hd : (skipMark s).1 = some .wouldBlock) : Below (Below W) (skipMark s).2 := by
  obtain ⟨d, r, s⟩ := s
  have hmark : ∀ s₀ : Rewind × σ,
      (collect markLength ByteSource.run markLength s₀).1.2 = .wouldBlock →
        W (collect markLength ByteSource.run markLength s₀).2.2 := fun s₀ =>
    collect_stopped (E := Below W) (by simp) fun n s => (Rewind.admits h).run
  simp only [skipMark] at hd ⊢
  split at hd
  · simp at hd
  split at hd
  · simp at hd
  rename_i hq
  split at hd
  · simp at hd
  rename_i hreset
  split at hd
  · rename_i hwait
    have hbelow := hmark (r.mark markLength, s)
    rw [hq] at hbelow
    rw [if_pos hwait]
    exact hbelow hwait.1
  · split at hd
    · split at hd <;> simp at hd
    · simp at hd

variable [ByteStream σ]

theorem fetchPlain_admits (h : Admits W (ByteSource.fetch (σ := σ))) {n : Nat} (hn : 0 < n)
    {d : Decoding} (hw : d.Waiting) (s : Rewind × σ)
    (hd : (fetchPlain n (d, s)).1 = .wouldBlock) : Below (Below W) (fetchPlain n (d, s)).2 := by
  have hbelow := Rewind.admits h
  have hbytes : (fetchBytes n (d, s)).1 = .wouldBlock → Below (Below W) (fetchBytes n (d, s)).2 := by
    intro hd
    simp only [fetchBytes] at hd ⊢
    have hfetch := hbelow (min n maxChunk) s
    change (ByteSource.fetch (min n maxChunk) s).1 = .wouldBlock →
      Below W (ByteSource.fetch (min n maxChunk) s).2 at hfetch
    rcases hq : ByteSource.fetch (min n maxChunk) s with ⟨us | _ | _ | e, s'⟩
    all_goals rw [hq] at hd hfetch
    · simp at hd
    · exact hfetch rfl
    · simp at hd
    · simp at hd
  unfold fetchPlain at hd ⊢
  cases he : d.encoding with
  | binary | latin1 =>
    simp only [he] at hd ⊢
    exact hbytes hd
  | charset c =>
    simp only [he] at hd ⊢
    obtain ⟨d', s', f, hlast, hf, -⟩ := fetchText_settles hn he hw s
    rw [hf] at hd
    subst hd
    have hfetch := hbelow (d'.bytesFor n) s'
    change (ByteSource.fetch (d'.bytesFor n) s').1 = .wouldBlock →
      Below W (ByteSource.fetch (d'.bytesFor n) s').2 at hfetch
    simp only [advance] at hlast
    rcases hq : ByteSource.fetch (d'.bytesFor n) s' with ⟨us | _ | _ | e, s''⟩
    all_goals
      rw [hq] at hlast hfetch
      simp only [Prod.mk.injEq] at hlast
    · exact absurd hlast.1 (by split <;> simp)
    · rw [← hlast.2]
      exact hfetch rfl
    · exact absurd hlast.1 (by split <;> simp)
    · simp at hlast

theorem admits (h : Admits W (ByteSource.fetch (σ := σ))) :
    Admits (Below (Below W)) (fetch (σ := σ)) := by
  rintro n ⟨d, s⟩ hd
  simp only [fetch] at hd ⊢
  split at hd
  · cases hd
  rename_i hn
  rw [if_neg hn]
  split at hd
  · cases hd
  rename_i hsurplus
  rw [if_neg hsurplus]
  split at hd
  · cases hd
  rename_i hfinished
  rw [if_neg hfinished]
  have hw : d.Waiting := ⟨by simpa using hsurplus, Bool.eq_false_iff.2 hfinished⟩
  split at hd
  · rename_i hstart
    rw [if_pos hstart]
    have hskip := skipMark_admits h (d, s)
    have hwaiting : (skipMark (d, s)).2.1.Waiting :=
      ⟨(skipMark_surplus (d, s)).trans hw.1, (skipMark_finished (d, s)).trans hw.2⟩
    rcases hq : skipMark (d, s) with ⟨_ | f, d', s'⟩
    all_goals rw [hq] at hd hskip hwaiting
    · exact fetchPlain_admits h (Nat.pos_of_ne_zero hn) hwaiting s' hd
    · exact hskip (congrArg some hd)
  · rename_i hstart
    rw [if_neg hstart]
    exact fetchPlain_admits h (Nat.pos_of_ne_zero hn) hw s hd

end Decoding

end Below

namespace Lines
variable {σ : Type} [CharSource σ] {W : σ → Prop} (h : Admits W (CharSource.fetch (σ := σ)))
include h

theorem fill_admits {n : Nat} {s s' : Lines × σ} (hf : fill n s = (some .wouldBlock, s')) :
    Below W s' := by
  obtain ⟨l, s⟩ := s
  have hfetch := h (max n 1) s
  simp only [fill] at hf
  split at hf
  · simp at hf
  split at hf
  · simp at hf
  rcases hq : CharSource.fetch (max n 1) s with ⟨us | _ | _ | e, s''⟩
  all_goals rw [hq] at hf hfetch
  · cases us <;> simp at hf
  · simp only [Prod.mk.injEq, true_and] at hf
    rw [← hf]
    exact hfetch rfl
  · simp at hf
  · simp at hf

theorem next_admits {n : Nat} {s s' : Lines × σ} (hn : next n s = (.wouldBlock, s')) : Below W s' :=
  next_waits (Q := Below W) (fill_admits h) (fun _ => id) hn

theorem gather_admits {n : Nat} {some? : Bool} {s : Lines × σ}
    (hd : (gather n some? s).1.2 = .wouldBlock) : Below W (gather n some? s).2 := by
  induction n generalizing some? s with
  | zero => cases hd
  | succ n ih =>
    simp only [gather] at hd ⊢
    split at hd
    · cases hd
    rw [if_neg ‹_›]
    rcases hq : next (n + 1) s with ⟨c | _ | _ | e, s'⟩
    all_goals rw [hq] at hd
    · exact ih hd
    · exact next_admits h hq
    · cases some? <;> cases hd
    · cases hd

theorem read_admits {n : Nat} {s : Lines × σ} (hd : (read n s).1.2 = .wouldBlock) :
    Below W (read n s).2 := gather_admits h hd

variable [CharStream σ]

theorem readLine_admits {blocking : Bool} {s : Lines × σ}
    (hd : (readLine blocking s).1 = .blocked) : Below W (readLine blocking s).2 := by
  have hlen := length_view_le s
  have huntil : (untilNewline blocking (budget s + 2) s).1.2 = .wouldBlock →
      Below W (untilNewline blocking (budget s + 2) s).2 :=
    untilNewline_waits (Q := Below W) (fill_admits h) (fun _ => id) (by omega)
  simp only [readLine] at hd ⊢
  rcases hq : untilNewline blocking (budget s + 2) s with ⟨⟨cs, stop⟩, l, s'⟩
  rw [hq] at hd huntil
  dsimp only at hd huntil ⊢
  cases stop with
  | newline | failed => cases hd
  | wouldBlock => exact huntil rfl
  | ended =>
    dsimp only at hd
    split at hd <;> cases hd

end Lines

namespace Chain

section Device
variable {δ : Type} [RawReader δ] {c : Chain} {d : δ} {W : ReadAhead × Cutoff × δ → Prop}
  (h : Admits W (ByteSource.fetch (σ := ReadAhead × Cutoff × δ)))
include h

/-- Where a read stops for want of data, this holds of the stages from the one that reads ahead down. -/
theorem readBytes_admits {n : Nat} (hd : (c.readBytes n d).1.2 = .wouldBlock) :
    W ((c.readBytes n d).2.1.lower (c.readBytes n d).2.2).2 := by
  have hrun : ∀ n (s : Lower δ), (ByteSource.run n s).1.2 = .wouldBlock →
      Below W (ByteSource.run n s).2 := fun n s =>
    (Rewind.admits (σ := ReadAhead × Cutoff × δ) h).run
  exact collect_stopped (E := Below W) (by simp) hrun hd

variable [RawStream δ]

theorem admits_decoding :
    Admits (Below (Below W)) (CharSource.fetch (σ := Decoding × Lower δ)) :=
  Decoding.admits (σ := ReadAhead × Cutoff × δ) h

theorem readText_admits {n : Nat} (hd : (c.readText n d).1.2 = .wouldBlock) :
    W ((c.readText n d).2.1.lower (c.readText n d).2.2).2 :=
  collect_stopped (E := Below (Below (Below W))) (by simp)
    (fun n s => Lines.read_admits (admits_decoding h)) hd

theorem readLine_admits {blocking : Bool} (hd : (c.readLine blocking d).1 = .blocked) :
    W ((c.readLine blocking d).2.1.lower (c.readLine blocking d).2.2).2 :=
  Lines.readLine_admits (W := Below (Below W)) (admits_decoding h) hd

end Device

end Chain

end Input

end ScriptChannel
