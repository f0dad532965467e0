import ScriptChannel.Proofs.Input.Cutoff
import ScriptChannel.Proofs.Input.ReadAhead
import ScriptChannel.Proofs.Input.Rewind
import ScriptChannel.Proofs.Transport.Rehearsed

/-!
# The bytes in stock

What is to come ends at a marker. The stock does not: it is all the bytes that a stage and those
below it have, wherever the end is seen. No fetch loses any of it, since a marker and what lies
behind it are held back. Between them the two tell how far a stream has been spent.
-/

namespace ScriptChannel

/-- The reading side of a device with an account of its bytes. -/
class RawStock (δ : Type) [RawReader δ] where
  stock : δ → List UInt8
  /-- The device goes on until it has said all its bytes, and does not fail. -/
  Lasting : δ → Prop
  read_stock (n : Nat) (d : δ) :
    stock d = (Fetch.plain (RawReader.read n d).1).units ++ stock (RawReader.read n d).2
  read_lasting (n : Nat) (d : δ) (h : Lasting d) : Lasting (RawReader.read n d).2

/-- A source with an account of its bytes. -/
class Stocked (σ : Type) [ByteSource σ] where
  stock : σ → List UInt8
  Lasting : σ → Prop
  fetch_stock (n : Nat) (s : σ) :
    stock s = (ByteSource.fetch n s).1.units ++ stock (ByteSource.fetch n s).2
  fetch_lasting (n : Nat) (s : σ) (h : Lasting s) : Lasting (ByteSource.fetch n s).2

namespace Fetch
variable {α : Type}

/-- Whatever a failure means, it brings nothing. -/
theorem units_ofRead (r : Except IoError (List α)) : (ofRead r).units = (plain r).units := by
  rcases r with e | us
  · simp only [ofRead]
    split <;> rfl
  · cases us <;> rfl

theorem units_plain_ok (us : List α) : (plain (.ok us)).units = us := by
  cases us <;> rfl

end Fetch

namespace RawReader
variable {δ : Type} [RawReader δ]

/-- From the one state of the device to the other it was read, and said these bytes. -/
inductive Said (d : δ) : List UInt8 → δ → Prop
  | start : Said d [] d
  | read {us : List UInt8} {d' : δ} (h : Said d us d') (n : Nat) :
      Said d (us ++ (Fetch.plain (RawReader.read n d').1).units) (RawReader.read n d').2

theorem Said.trans {d d' d'' : δ} {us vs : List UInt8} (h : Said d us d') (h' : Said d' vs d'') :
    Said d (us ++ vs) d'' := by
  induction h' with
  | start => rwa [List.append_nil]
  | read _ n ih =>
    rw [← List.append_assoc]
    exact ih.read n

variable [RawStock δ]

theorem Said.stock {d d' : δ} {us : List UInt8} (h : Said d us d') :
    RawStock.stock d = us ++ RawStock.stock d' := by
  induction h with
  | start => rfl
  | read _ n ih => rw [ih, RawStock.read_stock n, List.append_assoc]

theorem Said.lasting {d d' : δ} {us : List UInt8} (h : Said d us d') (hl : RawStock.Lasting d) :
    RawStock.Lasting d' := by
  induction h with
  | start => exact hl
  | read _ n ih => exact RawStock.read_lasting n _ ih

end RawReader

namespace Transport

namespace Step
variable {α : Type}

/-- The units of a script, whatever comes between them. -/
def payload : List (Step α) → List α
  | [] => []
  | units us :: rest => us ++ payload rest
  | _ :: rest => payload rest

theorem play_payload (n : Nat) (script : List (Step α)) :
    payload script = (Fetch.plain (play n script).1.toRead).units ++ payload (play n script).2 := by
  cases script with
  | nil => rfl
  | cons step rest =>
    cases step with
    | units us =>
      have happ := List.take_append_drop n us
      simp only [play, toRead, Fetch.units_plain_ok, payload]
      split
      · rename_i hall
        rw [List.isEmpty_iff.1 hall, List.append_nil] at happ
        rw [happ]
      · rw [payload, ← List.append_assoc, happ]
    | delay | interruption | theEnd | failure => rfl

/-- The device has more to say, now or later. -/
def Continues : Step α → Prop
  | units us => us ≠ []
  | theEnd => False
  | step => step.Harmless

instance : DecidablePred (Continues (α := α)) := fun step =>
  match step with
  | units us => inferInstanceAs (Decidable (us ≠ []))
  | theEnd => inferInstanceAs (Decidable False)
  | failure e => inferInstanceAs (Decidable (e.kind = .wouldBlock ∨ e.kind = .interrupted))
  | delay | interruption => inferInstanceAs (Decidable True)

/-- A script that goes on up to its end says all its units. -/
theorem contents_eq_payload {script : List (Step α)} (h : ∀ step ∈ script, step.Continues) :
    contents script = payload script := by
  induction script with
  | nil => rfl
  | cons step rest ih =>
    have hstep := h _ (List.mem_cons_self ..)
    have hrest := ih fun step hmem => h step (List.mem_cons_of_mem _ hmem)
    cases step with
    | units us =>
      cases us with
      | nil => exact absurd rfl hstep
      | cons u us => exact congrArg (u :: us ++ ·) hrest
    | theEnd => exact hstep.elim
    | delay | interruption | failure => exact hrest

theorem continues_play {script : List (Step α)} (h : ∀ step ∈ script, step.Continues) (n : Nat) :
    ∀ step ∈ (play n script).2, step.Continues := by
  cases script with
  | nil => exact h
  | cons step rest =>
    have hrest : ∀ step ∈ rest, step.Continues := fun step hmem => h step (List.mem_cons_of_mem _ hmem)
    cases step with
    | units us =>
      simp only [play]
      split
      · exact hrest
      · rename_i hmore
        intro step hmem
        rcases List.mem_cons.1 hmem with rfl | hmem
        · exact fun hnil => hmore (List.isEmpty_iff.2 hnil)
        · exact hrest step hmem
    | delay | interruption | theEnd | failure => exact hrest

end Step

instance : RawStock Rehearsed where
  stock d := Step.payload d.reads
  Lasting d := ∀ step ∈ d.reads, step.Continues
  read_stock n d := Step.play_payload n d.reads
  read_lasting n _ h := Step.continues_play h n

end Transport

namespace Input

namespace Cutoff
variable {δ : Type} [RawReader δ]

/-- The last read call of a row of interrupted ones brings what all of them bring. -/
theorem ask_said (n : Nat) (d : δ) :
    let r := persist interrupted RawReader.budget (RawReader.read n) d
    RawReader.Said d (Fetch.ofRead r.1).units r.2 := by
  obtain ⟨d', hd', he⟩ := persist_eq_attempt interrupted RawReader.budget (RawReader.read n)
    (P := fun d' : δ => RawReader.Said d [] d')
    (by
      intro d' hd' hi
      have hread := hd'.read n
      rcases hr : RawReader.read n d' with ⟨e | us, d''⟩
      · rwa [hr] at hread
      · rw [hr] at hi
        simp [interrupted] at hi)
    (.start)
  rw [he]
  dsimp only
  rw [Fetch.units_ofRead]
  exact hd'.read n

theorem take_said (n : Nat) (s : Cutoff × δ) :
    ∃ us, RawReader.Said s.2 us (take n s).2.2 ∧
      s.1.held ++ us = (take n s).1.units ++ (take n s).2.1.held := by
  obtain ⟨c, d⟩ := s
  simp only [take]
  split
  · rename_i hempty
    refine ⟨_, ask_said n d, ?_⟩
    simp [List.isEmpty_iff.1 hempty]
  · refine ⟨[], .start, ?_⟩
    simp [Fetch.units]

theorem screen_held (c : Cutoff) (bs : List UInt8) :
    bs ++ c.held = (c.screen bs).1.units ++ (c.screen bs).2.held := by
  unfold screen
  split
  · rfl
  · have hcut : bs.takeWhile (· != c.marker) ++
        (bs.drop (bs.takeWhile (· != c.marker)).length ++ c.held) = bs ++ c.held := by
      rw [← List.append_assoc, List.prefix_iff_eq_append.1 (List.takeWhile_prefix _)]
    dsimp only [unread]
    split
    · rename_i hfirst
      rw [List.isEmpty_iff.1 hfirst] at hcut ⊢
      exact hcut.symm
    · exact hcut.symm

/-- What was held and what the device says meanwhile is handed up or held. -/
theorem fetch_said (n : Nat) (s : Cutoff × δ) :
    ∃ us, RawReader.Said s.2 us (fetch n s).2.2 ∧
      s.1.held ++ us = (fetch n s).1.units ++ (fetch n s).2.1.held := by
  obtain ⟨c, d⟩ := s
  obtain ⟨us, hsaid, htake⟩ := take_said n (c, d)
  simp only [fetch]
  split
  · exact ⟨[], .start, List.append_nil _⟩
  split
  · exact ⟨[], .start, List.append_nil _⟩
  refine ⟨us, ?_⟩
  rcases hq : take n (c, d) with ⟨bs | _ | _ | e, c', d'⟩
  all_goals rw [hq] at hsaid htake
  · exact ⟨hsaid, htake.trans (screen_held c' bs)⟩
  all_goals exact ⟨hsaid, htake⟩

variable [RawStock δ]

def stock (s : Cutoff × δ) : List UInt8 := s.1.held ++ RawStock.stock s.2

theorem fetch_stock (n : Nat) (s : Cutoff × δ) :
    stock s = (fetch n s).1.units ++ stock (fetch n s).2 ∧
      (RawStock.Lasting s.2 → RawStock.Lasting (fetch n s).2.2) := by
  obtain ⟨us, hsaid, hall⟩ := fetch_said n s
  refine ⟨?_, hsaid.lasting⟩
  rw [stock, hsaid.stock, stock, ← List.append_assoc, hall, List.append_assoc]

instance : Stocked (Cutoff × δ) where
  stock := stock
  Lasting s := RawStock.Lasting s.2
  fetch_stock n s := (fetch_stock n s).1
  fetch_lasting n s := (fetch_stock n s).2

end Cutoff

namespace ReadAhead
variable {σ : Type} [ByteSource σ] [Stocked σ]

def stock (s : ReadAhead × σ) : List UInt8 := s.1.cache ++ Stocked.stock s.2

theorem ask_stock (n : Nat) (s : ReadAhead × σ) :
    Stocked.stock s.2 = (ask n s).1.units ++ Stocked.stock (ask n s).2.2 ∧
      (Stocked.Lasting s.2 → Stocked.Lasting (ask n s).2.2) ∧ (ask n s).2.1.cache = s.1.cache := by
  obtain ⟨b, s⟩ := s
  obtain ⟨s', ⟨hs', hl⟩, hanswer, hsource⟩ := ask_answers (n := n)
    (P := fun s' : σ => Stocked.stock s' = Stocked.stock s ∧
      (Stocked.Lasting s → Stocked.Lasting s'))
    (by
      rintro s' ⟨hs', hl⟩ hdelay
      have hf := Stocked.fetch_stock n s'
      rw [hdelay] at hf
      exact ⟨hf.symm.trans hs', fun h => Stocked.fetch_lasting n s' (hl h)⟩)
    b ⟨rfl, id⟩
  refine ⟨?_, fun h => ?_, (ask_notes n b s).1⟩
  · rw [hanswer, hsource, ← hs']
    exact Stocked.fetch_stock n s'
  · rw [hsource]
    exact Stocked.fetch_lasting n s' (hl h)

theorem serve_stock (b : ReadAhead) (n : Nat) : (b.serve n).1 ++ (b.serve n).2.cache = b.cache :=
  List.prefix_iff_eq_append.1 (b.share_prefix n)

theorem fetch_stock (n : Nat) (s : ReadAhead × σ) :
    stock s = (fetch n s).1.units ++ stock (fetch n s).2 ∧
      (Stocked.Lasting s.2 → Stocked.Lasting (fetch n s).2.2) := by
  obtain ⟨b, s⟩ := s
  simp only [fetch]
  split
  · exact ⟨rfl, id⟩
  split
  · have hserve := serve_stock b n
    refine ⟨?_, id⟩
    simp only [stock, Fetch.units]
    rw [← List.append_assoc, hserve]
  have hnil : b.cache = [] := by simpa using ‹¬ (!b.cache.isEmpty) = true›
  split
  · exact ⟨rfl, id⟩
  split
  · obtain ⟨hask, hlast, hcache⟩ := ask_stock n (b, s)
    refine ⟨?_, hlast⟩
    simp only [stock, hnil, hcache, List.nil_append]
    exact hask
  · obtain ⟨hask, hlast, hcache⟩ := ask_stock (max b.size 1) (b, s)
    rcases hq : ask (max b.size 1) (b, s) with ⟨us | _ | _ | e, b', s'⟩
    · rw [hq] at hask hlast
      have hserve := serve_stock { b' with cache := us } n
      refine ⟨?_, hlast⟩
      simp only [stock, hnil, List.nil_append, Fetch.units] at hask hserve ⊢
      rw [hask, ← List.append_assoc, hserve]
    all_goals
      rw [hq] at hask hlast hcache
      dsimp only at hcache
      refine ⟨?_, hlast⟩
      simp only [stock, hnil, hcache, List.nil_append]
      exact hask

instance : Stocked (ReadAhead × σ) where
  stock := stock
  Lasting s := Stocked.Lasting s.2
  fetch_stock n s := (fetch_stock n s).1
  fetch_lasting n s := (fetch_stock n s).2

end ReadAhead

namespace Rewind
variable {σ : Type} [ByteSource σ] [Stocked σ]

def stock (s : Rewind × σ) : List UInt8 := s.1.ahead ++ Stocked.stock s.2

theorem fetch_stock (n : Nat) (s : Rewind × σ) :
    stock s = (fetch n s).1.units ++ stock (fetch n s).2 ∧
      (Stocked.Lasting s.2 → Stocked.Lasting (fetch n s).2.2) := by
  obtain ⟨r, s⟩ := s
  simp only [fetch]
  split
  · exact ⟨rfl, id⟩
  split
  · refine ⟨?_, id⟩
    simp only [stock, replay, Fetch.units]
    rw [← List.append_assoc, List.take_append_drop]
  · have hnil : r.ahead = [] := by simpa using ‹¬ (!r.ahead.isEmpty) = true›
    have hthen : (if (ByteSource.fetch n s).1.isGot = true then
        r.record (ByteSource.fetch n s).1.units else r).ahead = [] := by
      split
      · exact record_ahead r hnil _
      · exact hnil
    have hf := Stocked.fetch_stock n s
    refine ⟨?_, Stocked.fetch_lasting n s⟩
    simp only [stock, hnil, hthen, List.nil_append]
    exact hf

instance : Stocked (Rewind × σ) where
  stock := stock
  Lasting s := Stocked.Lasting s.2
  fetch_stock n s := (fetch_stock n s).1
  fetch_lasting n s := (fetch_stock n s).2

end Rewind

end Input

section Spent
variable {σ : Type} [ByteSource σ] [ByteStream σ] [Stocked σ]

/-- So much of a stream has been spent: what is left of it is in stock, and what is left in front of
the marker is to come, without failures. -/
structure Spent (stream : List UInt8) (marker : UInt8) (used : List UInt8) (s : σ) : Prop where
  stock : stream = used ++ Stocked.stock s
  lasting : Stocked.Lasting s
  coming : upToMarker marker stream = used ++ (ByteStream.coming s).units
  sound : ∀ e, Signal.failure e ∉ ByteStream.coming s

/-- What comes off what is to come is what is spent meanwhile. -/
theorem Spent.units_coming {stream used us : List UInt8} {marker : UInt8} {s s' : σ}
    (h : Spent stream marker used s) (h' : Spent stream marker (used ++ us) s') :
    (ByteStream.coming s).units = us ++ (ByteStream.coming s').units := by
  have hall := h.coming.symm.trans h'.coming
  rw [List.append_assoc] at hall
  exact List.append_cancel_left hall

/-- A fetch spends what it brings. It does not fail, and it says that the stream has ended when all
in front of the marker is spent. -/
theorem Spent.fetch [Settled σ] {stream used : List UInt8} {marker : UInt8} {s : σ}
    (h : Spent stream marker used s) {n : Nat} (hn : 0 < n) :
    Spent stream marker (used ++ (ByteSource.fetch n s).1.units) (ByteSource.fetch n s).2 ∧
      ((ByteSource.fetch n s).1 = .ended → upToMarker marker stream = used) ∧
      ∀ e, (ByteSource.fetch n s).1 ≠ .failed e := by
  have ht := ByteStream.fetch_takes n s hn
  have hs := Stocked.fetch_stock n s
  have hlast := Stocked.fetch_lasting n s h.lasting
  have hsettled := Settled.coming_of_ended n s
  rcases hq : ByteSource.fetch n s with ⟨us | _ | _ | e, s'⟩
  all_goals rw [hq] at ht hs hlast hsettled
  · obtain ⟨-, -, hx⟩ := ht
    refine ⟨⟨?_, hlast, ?_, ?_⟩, by simp, by simp⟩
    · rw [h.stock, hs, ← List.append_assoc]
    · rw [h.coming, hx, Coming.units_append, Coming.units_ofUnits, ← List.append_assoc]
      rfl
    · intro e hmem
      apply h.sound e
      rw [hx]
      exact List.mem_append_right _ hmem
  · have hx : ByteStream.coming s = .delay :: ByteStream.coming s' := ht
    refine ⟨⟨?_, hlast, ?_, ?_⟩, by simp, by simp⟩
    · rw [h.stock, hs, ← List.append_assoc]
    · simp [h.coming, hx, Fetch.units]
    · intro e hmem
      apply h.sound e
      rw [hx]
      exact List.mem_cons_of_mem _ hmem
  · have hx : ByteStream.coming s = [] := ht
    have hy : ByteStream.coming s' = [] := hsettled rfl
    have hall : upToMarker marker stream = used := by simp [h.coming, hx]
    refine ⟨⟨?_, hlast, ?_, ?_⟩, fun _ => hall, by simp⟩
    · rw [h.stock, hs, ← List.append_assoc]
    · simp [hall, hy, Fetch.units]
    · simp [hy]
  · have hx : ByteStream.coming s = .failure e :: ByteStream.coming s' := ht
    exact absurd (by rw [hx]; exact List.mem_cons_self ..) (h.sound e)

/-- A run of fetches spends what it brings. -/
theorem Spent.collect [Settled σ] {stream used : List UInt8} {marker : UInt8} {s : σ}
    (h : Spent stream marker used s) {piece : Nat} (hp : 0 < piece) (wanted : Nat) :
    let r := ScriptChannel.collect piece ByteSource.run wanted s
    Spent stream marker (used ++ r.1.1) r.2 ∧
      (r.1.2 = .ended → upToMarker marker stream = used ++ r.1.1) ∧ ∀ e, r.1.2 ≠ .failed e := by
  obtain ⟨hrun, -⟩ := collect_spec piece (ByteSource.run (σ := σ))
    (Q := fun us halt s s' => ∀ used, Spent stream marker used s →
      Spent stream marker (used ++ us) s' ∧
        (halt = .ended → upToMarker marker stream = used ++ us) ∧ ∀ e, halt ≠ .failed e)
    (fun s used hs => ⟨by rwa [List.append_nil], by simp, by simp⟩)
    (by
      intro us vs halt s s' s'' hu hv used hs
      rw [← List.append_assoc]
      exact hv _ (hu used hs).1)
    hp
    (by
      intro n s hn
      refine ⟨?_, (Fetch.run_takes hn (ByteStream.fetch_takes n s hn)).2⟩
      intro used hs
      obtain ⟨hspent, hend, hsound⟩ := hs.fetch hn
      simp only [ByteSource.run]
      rcases hq : ByteSource.fetch n s with ⟨us | _ | _ | e, s'⟩
      all_goals rw [hq] at hspent hend hsound
      · exact ⟨hspent, by simp [Fetch.run], by simp [Fetch.run]⟩
      · exact ⟨hspent, by simp [Fetch.run], by simp [Fetch.run]⟩
      · refine ⟨hspent, fun _ => ?_, by simp [Fetch.run]⟩
        rw [hend rfl]
        exact (List.append_nil used).symm
      · exact absurd rfl (hsound e))
    wanted s
  exact hrun used h

end Spent

/-- Bytes that were handed back are spent no longer. -/
theorem Spent.handBack {σ : Type} [ByteSource σ] [ByteStream σ] [Stocked σ]
    {stream used us : List UInt8} {marker : UInt8} {r : Input.Rewind} {s : σ}
    (h : Spent stream marker (used ++ us) (r, s)) :
    Spent stream marker used ((⟨[], us ++ r.ahead, none⟩ : Input.Rewind), s) where
  stock := by
    rw [h.stock, List.append_assoc]
    simp [Stocked.stock, Input.Rewind.stock]
  lasting := h.lasting
  coming := by
    rw [h.coming, List.append_assoc]
    simp [ByteStream.coming, Input.Rewind.coming]
  sound := by
    intro e hmem
    apply h.sound e
    simpa [ByteStream.coming, Input.Rewind.coming, Coming.ofUnits] using hmem

end ScriptChannel
