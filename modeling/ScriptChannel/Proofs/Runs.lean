import ScriptChannel.Proofs.Coming

/-!
# Runs of fetches

A run brings units and stops for a reason. What holds of each piece of a run and can be put together
holds of the run. Two ways to take units off what is to come are told apart: off its front, and past
the delays, which is how a run takes them that has something to show already when a delay comes.
-/

namespace ScriptChannel
variable {α σ : Type}

namespace Coming

/-- The units come off the front. -/
def Off (us : List α) (xs ys : Coming α) : Prop := xs = ofUnits us ++ ys

/-- The units come off the front, and delays with them. -/
def Past (us : List α) (xs ys : Coming α) : Prop := ∃ p : Coming α, p.patient = ofUnits us ∧ xs = p ++ ys

theorem Off.past {us : List α} {xs ys : Coming α} (h : Off us xs ys) : Past us xs ys :=
  ⟨ofUnits us, patient_ofUnits us, h⟩

theorem Off.append {us vs : List α} {xs ys zs : Coming α} (h : Off us xs ys) (h' : Off vs ys zs) :
    Off (us ++ vs) xs zs := by
  rw [Off, h, h', ofUnits_append, List.append_assoc]

theorem Past.append {us vs : List α} {xs ys zs : Coming α} (h : Past us xs ys)
    (h' : Past vs ys zs) : Past (us ++ vs) xs zs := by
  obtain ⟨p, hp, rfl⟩ := h
  obtain ⟨q, hq, rfl⟩ := h'
  exact ⟨p ++ q, by simp [hp, hq], by simp⟩

theorem Past.units {us : List α} {xs ys : Coming α} (h : Past us xs ys) :
    xs.units = us ++ ys.units := by
  obtain ⟨p, hp, rfl⟩ := h
  have hu : p.units = us := by rw [← units_patient, hp, units_ofUnits]
  rw [units_append, hu]

/-- Past units only there is nothing else to pass. -/
theorem Past.of_ofUnits {us ts : List α} {ys : Coming α} (h : Past us (ofUnits ts) ys) :
    ∃ vs, ts = us ++ vs ∧ ys = ofUnits vs := by
  obtain ⟨p, hp, hx⟩ := h
  obtain ⟨as, bs, rfl, ha, hb⟩ := List.map_eq_append_iff.1 hx
  refine ⟨bs, ?_, hb.symm⟩
  have hpa : ofUnits us = ofUnits as := by
    rw [← hp, ← show ofUnits as = p from ha, patient_ofUnits]
  rw [ofUnits_injective hpa]

end Coming

namespace Halt

/-- A run that brought `us` and then stopped took them, and what it stopped for. -/
def Takes (R : List α → Coming α → Coming α → Prop) (us : List α) :
    Halt → Coming α → Coming α → Prop
  | served, xs, ys => R us xs ys
  | wouldBlock, xs, ys => R us xs (.delay :: ys)
  | ended, xs, _ => R us xs []
  | failed e, xs, ys => R us xs (.failure e :: ys)

theorem Takes.append {R : List α → Coming α → Coming α → Prop}
    (append : ∀ {us vs xs ys zs}, R us xs ys → R vs ys zs → R (us ++ vs) xs zs) {us vs : List α}
    {h : Halt} {xs ys zs : Coming α} (hu : R us xs ys) (hv : h.Takes R vs ys zs) :
    h.Takes R (us ++ vs) xs zs := by
  cases h <;> exact append hu hv

end Halt

/-- The units of a run for `n` fit: it has something if it was served, and less than what was wanted
if it was not. -/
structure Fits (n : Nat) (r : List α × Halt) : Prop where
  some_of_served : r.2 = .served → r.1 ≠ []
  length_le : r.1.length ≤ n
  short : r.2 ≠ .served → r.1.length < n

/-- A run of pieces brings what was wanted or says why not. -/
structure Fulfils (wanted : Nat) (r : List α × Halt) : Prop where
  all_of_served : r.2 = .served → r.1.length = wanted
  short : r.2 ≠ .served → r.1.length < wanted

theorem Fulfils.length_le {wanted : Nat} {r : List α × Halt} (h : Fulfils wanted r) :
    r.1.length ≤ wanted := by
  by_cases hs : r.2 = .served
  · exact Nat.le_of_eq (h.all_of_served hs)
  · exact Nat.le_of_lt (h.short hs)

section Collect
variable {Q : List α → Halt → σ → σ → Prop} (piece : Nat) (fetch : Nat → σ → (List α × Halt) × σ)

theorem collectIn_spec (nil : ∀ s, Q [] .served s s)
    (append : ∀ {us vs h s s' s''}, Q us .served s s' → Q vs h s' s'' → Q (us ++ vs) h s s'')
    (hp : 0 < piece)
    (law : ∀ n s, 0 < n → Q (fetch n s).1.1 (fetch n s).1.2 s (fetch n s).2 ∧ Fits n (fetch n s).1)
    (fuel : Nat) {wanted : Nat} (hw : wanted ≤ fuel) (s : σ) :
    let r := collectIn piece fetch fuel wanted s
    Q r.1.1 r.1.2 s r.2 ∧ Fulfils wanted r.1 := by
  induction fuel generalizing wanted s with
  | zero =>
    obtain rfl : wanted = 0 := Nat.le_zero.1 hw
    exact ⟨nil s, ⟨fun _ => rfl, fun h => absurd rfl h⟩⟩
  | succ fuel ih =>
    simp only [collectIn]
    by_cases h0 : wanted = 0
    · rw [if_pos h0]
      exact ⟨nil s, ⟨fun _ => h0.symm, fun h => absurd rfl h⟩⟩
    · rw [if_neg h0]
      have hmin : 0 < min wanted piece := by omega
      obtain ⟨hq, hfit⟩ := law (min wanted piece) s hmin
      rcases hf : fetch (min wanted piece) s with ⟨⟨us, h⟩, s'⟩
      rw [hf] at hq hfit
      have hle := hfit.length_le
      cases h with
      | served =>
        have hpos : 0 < us.length := List.length_pos_iff.2 (hfit.some_of_served rfl)
        dsimp only at hle
        have hfuel : wanted - us.length ≤ fuel := by omega
        obtain ⟨hq', hful⟩ := ih hfuel s'
        refine ⟨append hq hq', ⟨fun hs => ?_, fun hs => ?_⟩⟩
        · have hall := hful.all_of_served hs
          simp only [List.length_append]
          omega
        · have hshort := hful.short hs
          simp only [List.length_append]
          omega
      | wouldBlock | ended | failed =>
        refine ⟨hq, ⟨by simp, fun hs => ?_⟩⟩
        exact Nat.lt_of_lt_of_le (hfit.short hs) (Nat.min_le_left _ _)

/-- What holds of every piece and can be put together holds of the whole run. -/
theorem collect_spec (nil : ∀ s, Q [] .served s s)
    (append : ∀ {us vs h s s' s''}, Q us .served s s' → Q vs h s' s'' → Q (us ++ vs) h s s'')
    (hp : 0 < piece)
    (law : ∀ n s, 0 < n → Q (fetch n s).1.1 (fetch n s).1.2 s (fetch n s).2 ∧ Fits n (fetch n s).1)
    (wanted : Nat) (s : σ) :
    let r := collect piece fetch wanted s
    Q r.1.1 r.1.2 s r.2 ∧ Fulfils wanted r.1 :=
  collectIn_spec piece fetch nil append hp law wanted (Nat.le_refl _) s

end Collect

/-- An answer to go by: what it brings is added to what has been handed up, it is no failure, and it
says that the stream has ended only when it is over. -/
structure Fetch.Truthful (P : List α → σ → Prop) (E : σ → Prop) (us : List α) (f : Fetch α)
    (s : σ) : Prop where
  adds : P (us ++ f.units) s
  sound : ∀ error, f ≠ .failed error
  finish : f = .ended → E s

/-- A fetch that is a run takes its units off the front. -/
theorem Fetch.run_takes {n : Nat} (hn : 0 < n) {f : Fetch α} {xs ys : Coming α}
    (h : f.Takes n xs ys) : f.run.2.Takes Coming.Off f.run.1 xs ys ∧ Fits n f.run := by
  cases f with
  | got us =>
    obtain ⟨hus, hlen, hx⟩ := h
    exact ⟨hx, ⟨fun _ => hus, hlen, fun h => absurd rfl h⟩⟩
  | wouldBlock => exact ⟨h, ⟨by simp [Fetch.run], Nat.zero_le _, fun _ => hn⟩⟩
  | ended => exact ⟨h, ⟨by simp [Fetch.run], Nat.zero_le _, fun _ => hn⟩⟩
  | failed e => exact ⟨h, ⟨by simp [Fetch.run], Nat.zero_le _, fun _ => hn⟩⟩

theorem Fetch.run_injective : Function.Injective (Fetch.run (α := α)) := by
  intro f f' h
  cases f <;> cases f' <;> simp_all [Fetch.run]

/-- The next `n` units, or those in front of whatever comes between them. -/
def Coming.draw : Nat → Coming α → (List α × Halt) × Coming α
  | 0, xs => (([], .served), xs)
  | _ + 1, [] => (([], .ended), [])
  | n + 1, .unit u :: xs => ((u :: (draw n xs).1.1, (draw n xs).1.2), (draw n xs).2)
  | _ + 1, .delay :: xs => (([], .wouldBlock), xs)
  | _ + 1, .failure e :: xs => (([], .failed e), xs)

/-- What is to come decides what a run for `n` units brings that takes nothing but them off its front,
and why it stops. -/
theorem Halt.Takes.draw_eq {n : Nat} {us : List α} {halt : Halt} {xs ys : Coming α}
    (h : halt.Takes Coming.Off us xs ys) (hful : Fulfils n (us, halt)) (hend : halt = .ended → ys = []) :
    Coming.draw n xs = ((us, halt), ys) := by
  induction us generalizing n xs with
  | nil =>
    cases halt with
    | served =>
      obtain rfl : 0 = n := hful.all_of_served rfl
      obtain rfl : xs = ys := h
      rfl
    | wouldBlock | failed | ended =>
      obtain ⟨k, rfl⟩ := Nat.exists_eq_succ_of_ne_zero (Nat.ne_of_gt (hful.short (by simp)))
      obtain rfl := h
      first
        | rfl
        | exact congrArg (Prod.mk ([], Halt.ended)) (hend rfl).symm
  | cons u us ih =>
    have hle := hful.length_le
    obtain ⟨k, rfl⟩ : ∃ k, n = k + 1 := Nat.exists_eq_add_of_le' (Nat.le_trans (Nat.succ_pos _) hle)
    obtain ⟨xs', rfl, hrest⟩ : ∃ xs', xs = .unit u :: xs' ∧ halt.Takes Coming.Off us xs' ys := by
      cases halt <;> exact ⟨_, h, rfl⟩
    have hless : Fulfils k (us, halt) :=
      ⟨fun hs => Nat.succ.inj (hful.all_of_served hs), fun hs => Nat.lt_of_succ_lt_succ (hful.short hs)⟩
    rw [Coming.draw, ih hrest hless]

section Bytes
variable [ByteSource σ] [ByteStream σ] [Settled σ]

/-- An answer as a run takes its bytes off the front, and an end is the end. -/
theorem ByteSource.run_takes {n : Nat} (hn : 0 < n) (s : σ) :
    ((ByteSource.run n s).1.2.Takes Coming.Off (ByteSource.run n s).1.1 (ByteStream.coming s)
        (ByteStream.coming (ByteSource.run n s).2) ∧
      ((ByteSource.run n s).1.2 = .ended → ByteStream.coming (ByteSource.run n s).2 = [])) ∧
      Fits n (ByteSource.run n s).1 := by
  obtain ⟨htakes, hfits⟩ := Fetch.run_takes hn (ByteStream.fetch_takes n s hn)
  refine ⟨⟨htakes, fun hend => Settled.coming_of_ended n s ?_⟩, hfits⟩
  simp only [ByteSource.run] at hend
  cases hf : (ByteSource.fetch n s).1 <;> simp_all [Fetch.run]

/-- Any number of bytes, in pieces. -/
theorem ByteSource.collect_takes {piece : Nat} (hp : 0 < piece) (n : Nat) (s : σ) :
    let r := collect piece ByteSource.run n s
    (r.1.2.Takes Coming.Off r.1.1 (ByteStream.coming s) (ByteStream.coming r.2) ∧
      (r.1.2 = .ended → ByteStream.coming r.2 = [])) ∧ Fulfils n r.1 :=
  collect_spec piece ByteSource.run
    (Q := fun us h s s' => h.Takes Coming.Off us (ByteStream.coming s) (ByteStream.coming s') ∧
      (h = .ended → ByteStream.coming s' = []))
    (fun _ => ⟨rfl, by simp⟩) (fun h h' => ⟨Halt.Takes.append Coming.Off.append h.1 h'.1, h'.2⟩) hp
    (fun _ s hn => ByteSource.run_takes hn s) n s

/-- Whatever the pieces, what is to come decides which bytes they are. -/
theorem ByteSource.collect_draw {piece : Nat} (hp : 0 < piece) (n : Nat) (s : σ) :
    Coming.draw n (ByteStream.coming s) =
      ((collect piece ByteSource.run n s).1,
        ByteStream.coming (collect piece ByteSource.run n s).2) := by
  obtain ⟨⟨htakes, hend⟩, hful⟩ := ByteSource.collect_takes hp n s
  exact htakes.draw_eq hful hend

/-- So it is with a single byte. -/
theorem ByteSource.fetch_draw (s : σ) :
    Coming.draw 1 (ByteStream.coming s) =
      ((ByteSource.fetch 1 s).1.run, ByteStream.coming (ByteSource.fetch 1 s).2) := by
  obtain ⟨⟨htakes, hend⟩, hfits⟩ := ByteSource.run_takes Nat.one_pos s
  refine htakes.draw_eq ⟨fun hs => ?_, hfits.short⟩ hend
  have hpos := List.length_pos_iff.2 (hfits.some_of_served hs)
  exact Nat.le_antisymm hfits.length_le hpos

end Bytes

section Requests
variable {κ : Type} (ask : κ → σ → List α × σ)

/-- Requests one after another: what they bring together, and where they lead. -/
def askAll : List κ → σ → List α × σ
  | [], s => ([], s)
  | k :: ks, s =>
    let r := ask k s
    let r' := askAll ks r.2
    (r.1 ++ r'.1, r'.2)

/-- If each of them takes what it brings off the front of what is left, then so do all of them. -/
theorem askAll_left (left : σ → List α) {P : σ → Prop} {V : κ → Prop}
    (step : ∀ k s, V k → P s → left s = (ask k s).1 ++ left (ask k s).2 ∧ P (ask k s).2)
    {ks : List κ} (hks : ∀ k ∈ ks, V k) {s : σ} (hs : P s) :
    let r := askAll ask ks s
    left s = r.1 ++ left r.2 ∧ P r.2 := by
  induction ks generalizing s with
  | nil => exact ⟨rfl, hs⟩
  | cons k ks ih =>
    obtain ⟨hleft, hnext⟩ := step k s (hks k (List.mem_cons_self ..)) hs
    obtain ⟨hrest, hlast⟩ := ih (fun k' hk' => hks k' (List.mem_cons_of_mem _ hk')) hnext
    exact ⟨by simp only [askAll, List.append_assoc, ← hrest, ← hleft], hlast⟩

end Requests

end ScriptChannel
