import ScriptChannel.Input.Cutoff
import ScriptChannel.Proofs.Coming
import ScriptChannel.Proofs.Persist
import ScriptChannel.Stream

/-!
# The stream up to its end marker, signal by signal

What is to come from the first stage are the bytes held back and then what the device says, up to
the marker. Interrupted calls are made again and leave no trace.
-/

namespace ScriptChannel

namespace Coming
variable {α : Type}

/-- What is left of a device's failure for its reader. -/
def eased? : Signal α → Option (Signal α)
  | .failure e =>
    if e.kind = .interrupted then none
    else if e.kind = .wouldBlock then some .delay
    else some (.failure e)
  | x => some x

/-- What a device says to a reader who makes interrupted calls again. -/
def eased (xs : Coming α) : Coming α := xs.filterMap eased?

@[simp] theorem eased_nil : eased ([] : Coming α) = [] := rfl

@[simp] theorem eased_unit (u : α) (xs : Coming α) : eased (.unit u :: xs) = .unit u :: eased xs := rfl

@[simp] theorem eased_delay (xs : Coming α) : eased (.delay :: xs) = .delay :: eased xs := rfl

theorem eased_interrupted {e : IoError} (h : e.kind = .interrupted) (xs : Coming α) :
    eased (.failure e :: xs) = eased xs := by
  simp [eased, eased?, h]

theorem eased_wouldBlock {e : IoError} (h : e.kind = .wouldBlock) (xs : Coming α) :
    eased (.failure e :: xs) = .delay :: eased xs := by
  simp [eased, eased?, h]

theorem eased_failure {e : IoError} (hi : e.kind ≠ .interrupted) (hw : e.kind ≠ .wouldBlock)
    (xs : Coming α) : eased (.failure e :: xs) = .failure e :: eased xs := by
  simp [eased, eased?, hi, hw]

@[simp] theorem eased_append (xs ys : Coming α) : eased (xs ++ ys) = eased xs ++ eased ys :=
  List.filterMap_append

@[simp] theorem eased_ofUnits (us : List α) : eased (ofUnits us) = ofUnits us := by
  induction us with
  | nil => rfl
  | cons u us ih => simp [ih]

@[simp] theorem units_eased (xs : Coming α) : (eased xs).units = xs.units := by
  induction xs with
  | nil => rfl
  | cons x xs ih =>
    cases x with
    | unit u => simp [ih]
    | delay => simpa using ih
    | failure e =>
      by_cases hi : e.kind = .interrupted
      · simpa [eased_interrupted hi] using ih
      · by_cases hw : e.kind = .wouldBlock
        · simpa [eased_wouldBlock hw] using ih
        · simpa [eased_failure hi hw] using ih

theorem length_eased_le (xs : Coming α) : (eased xs).length ≤ xs.length :=
  List.length_filterMap_le _ _

/-- An interruption is no failure for that reader. -/
theorem uninterrupted_of_mem_eased {xs : Coming α} {e : IoError}
    (h : .failure e ∈ eased xs) : e.kind ≠ .interrupted := by
  obtain ⟨x, -, hx⟩ := List.mem_filterMap.1 h
  cases x with
  | failure e' =>
    simp only [eased?] at hx
    split at hx
    · cases hx
    split at hx
    · cases hx
    · cases hx
      assumption
  | unit | delay => cases hx

/-- The signals in front of the end marker. -/
def upTo (marker : UInt8) (xs : Coming UInt8) : Coming UInt8 :=
  if marker = 0 then xs else xs.takeWhile (· != .unit marker)

@[simp] theorem upTo_nil (m : UInt8) : upTo m [] = [] := by
  simp [upTo]

@[simp] theorem upTo_delay (m : UInt8) (xs : Coming UInt8) :
    upTo m (.delay :: xs) = .delay :: upTo m xs := by
  unfold upTo
  split <;> rfl

@[simp] theorem upTo_failure (m : UInt8) (e : IoError) (xs : Coming UInt8) :
    upTo m (.failure e :: xs) = .failure e :: upTo m xs := by
  unfold upTo
  split <;> rfl

theorem upTo_unit (m u : UInt8) (xs : Coming UInt8) :
    upTo m (.unit u :: xs) = if m ≠ 0 ∧ u = m then [] else .unit u :: upTo m xs := by
  unfold upTo
  by_cases hm : m = 0
  · simp [hm]
  · by_cases hu : u = m <;> simp [hm, hu]

theorem mem_of_mem_upTo {m : UInt8} {xs : Coming UInt8} {x : Signal UInt8} (h : x ∈ upTo m xs) :
    x ∈ xs := by
  unfold upTo at h
  split at h
  · exact h
  · exact (List.takeWhile_prefix _).mem h

theorem length_upTo_le (m : UInt8) (xs : Coming UInt8) : (upTo m xs).length ≤ xs.length := by
  unfold upTo
  split
  · exact Nat.le_refl _
  · exact (List.takeWhile_prefix _).length_le

/-- Bytes without the marker are in front of it. -/
theorem upTo_ofUnits_append {m : UInt8} {us : List UInt8} (h : m = 0 ∨ m ∉ us)
    (xs : Coming UInt8) : upTo m (ofUnits us ++ xs) = ofUnits us ++ upTo m xs := by
  induction us with
  | nil => rfl
  | cons u us ih =>
    have hu : ¬ (m ≠ 0 ∧ u = m) := by
      rintro ⟨hm, rfl⟩
      rcases h with h | h
      · exact hm h
      · exact h (List.mem_cons_self ..)
    rw [ofUnits_cons, List.cons_append, upTo_unit, if_neg hu,
      ih (h.imp_right fun h hmem => h (List.mem_cons_of_mem _ hmem)), List.cons_append]

/-- Of bytes with the marker among them those in front of it are left, whatever follows. -/
theorem upTo_ofUnits_of_mem {m : UInt8} {us : List UInt8} (hm : m ≠ 0) (h : m ∈ us)
    (xs : Coming UInt8) :
    upTo m (ofUnits us ++ xs) = ofUnits (us.takeWhile (· != m)) := by
  induction us with
  | nil => simp at h
  | cons u us ih =>
    rw [ofUnits_cons, List.cons_append, upTo_unit]
    by_cases hu : u = m
    · simp [hu, hm]
    · have hmem : m ∈ us := (List.mem_cons.1 h).resolve_left (Ne.symm hu)
      rw [if_neg (fun h => hu h.2), ih hmem]
      simp [hu]

theorem upTo_ofUnits (m : UInt8) (us : List UInt8) :
    upTo m (ofUnits us) = ofUnits (upToMarker m us) := by
  unfold upTo upToMarker
  by_cases hm : m = 0
  · rw [if_pos hm, if_pos hm]
  · rw [if_neg hm, if_neg hm, ofUnits, List.takeWhile_map, ofUnits]
    congr 2
    funext u
    rw [Bool.eq_iff_iff]
    simp only [Function.comp_apply, bne_iff_ne, ne_eq, Signal.unit.injEq]

/-- Whatever comes between the bytes, the same of them are in front of the marker. -/
@[simp] theorem units_upTo (m : UInt8) (xs : Coming UInt8) :
    (upTo m xs).units = upToMarker m xs.units := by
  induction xs with
  | nil => simp [upToMarker]
  | cons x xs ih =>
    cases x with
    | unit u =>
      rw [upTo_unit, units_unit]
      by_cases hm : m = 0
      · simp_all [upToMarker]
      · by_cases hu : u = m
        · simp [upToMarker, hm, hu]
        · simp [upToMarker, hm, hu, ih]
    | delay => simpa using ih
    | failure e => simpa using ih

end Coming

namespace Input.Cutoff
variable {δ : Type} [RawReader δ] [RawStream δ]

/-- What this stage and the device say between them, the marker apart. -/
def contents (s : Cutoff × δ) : Coming UInt8 :=
  Coming.ofUnits s.1.held ++ (RawStream.coming s.2).eased

/-- What is to come from this stage. -/
def coming (s : Cutoff × δ) : Coming UInt8 :=
  if s.1.reached then [] else (contents s).upTo s.1.marker

/-- The last read call of a row of interrupted ones answers for all of them. -/
theorem ask_takes {n : Nat} (hn : 0 < n) (d : δ) :
    let r := persist interrupted RawReader.budget (RawReader.read n) d
    (Fetch.ofRead r.1).Takes n (RawStream.coming d).eased (RawStream.coming r.2).eased := by
  obtain ⟨d', hd', he, hlast⟩ := persist_settles interrupted RawReader.budget
    (RawReader.read n)
    (μ := fun d => (RawStream.coming d).length)
    (P := fun d' : δ => (RawStream.coming d').eased = (RawStream.coming d).eased)
    (fun d' _ => RawStream.length_coming_le d')
    (by
      intro d' hd' hi
      have ht := RawStream.read_takes n d' hn
      rcases hr : RawReader.read n d' with ⟨e | us, d''⟩
      · rw [hr] at ht hi
        have hk : e.kind = .interrupted := by simpa [interrupted] using hi
        have hc : RawStream.coming d' = .failure e :: RawStream.coming d'' := ht
        rw [hc, Coming.eased_interrupted hk] at hd'
        exact ⟨hd', by simp [hc]⟩
      · rw [hr] at hi
        simp [interrupted] at hi)
    rfl
  rw [he, ← hd']
  have ht := RawStream.read_takes n d' hn
  rcases hr : RawReader.read n d' with ⟨e | us, d''⟩
  · rw [hr] at ht hlast
    have hi : e.kind ≠ .interrupted := by simpa [interrupted] using hlast
    have hc : RawStream.coming d' = .failure e :: RawStream.coming d'' := ht
    dsimp only [Fetch.ofRead]
    rw [hc]
    by_cases hw : e.kind = .wouldBlock
    · rw [if_pos hw]
      exact Coming.eased_wouldBlock hw _
    · rw [if_neg hw]
      exact Coming.eased_failure hi hw _
  · rw [hr] at ht
    cases us with
    | nil =>
      have hc : RawStream.coming d' = [] := ht
      simp [Fetch.ofRead, Fetch.Takes, hc]
    | cons u us =>
      obtain ⟨hus, hlen, hc⟩ := ht
      refine ⟨hus, hlen, ?_⟩
      rw [hc, Coming.eased_append, Coming.eased_ofUnits]

/-- Bytes for the next answer come off the front; the marker and its state are left alone. -/
theorem take_takes {n : Nat} (hn : 0 < n) (s : Cutoff × δ) :
    (take n s).1.Takes n (contents s) (contents (take n s).2) ∧
      (take n s).2.1.marker = s.1.marker ∧ (take n s).2.1.reached = s.1.reached := by
  obtain ⟨c, d⟩ := s
  simp only [take]
  cases hh : c.held with
  | nil =>
    refine ⟨?_, rfl, rfl⟩
    simpa [contents, hh] using ask_takes hn d
  | cons b bs =>
    refine ⟨⟨?_, List.length_take_le _ _, ?_⟩, rfl, rfl⟩
    · simp [List.take_eq_nil_iff, Nat.pos_iff_ne_zero.1 hn]
    · simp only [contents, hh, List.isEmpty_cons, Bool.false_eq_true, if_false]
      rw [← List.append_assoc, ← Coming.ofUnits_append, List.take_append_drop]

/-- From the marker on the bytes stay behind. -/
theorem screen_takes {n : Nat} {s : Cutoff × δ} (hr : s.1.reached = false) {bs : List UInt8}
    (hbs : bs ≠ []) (hlen : bs.length ≤ n) :
    (s.1.screen bs).1.Takes n ((Coming.ofUnits bs ++ contents s).upTo s.1.marker)
      (coming ((s.1.screen bs).2, s.2)) := by
  unfold screen
  by_cases hm : s.1.marker = 0 ∨ (!bs.contains s.1.marker) = true
  · rw [if_pos hm]
    have hfree : s.1.marker = 0 ∨ s.1.marker ∉ bs := by simpa using hm
    refine ⟨hbs, hlen, ?_⟩
    rw [Coming.upTo_ofUnits_append hfree]
    simp [coming, hr]
  · rw [if_neg hm]
    obtain ⟨hm0, hmem⟩ : s.1.marker ≠ 0 ∧ s.1.marker ∈ bs := by simpa using hm
    rw [Coming.upTo_ofUnits_of_mem hm0 hmem]
    have hle : (bs.takeWhile (· != s.1.marker)).length ≤ bs.length :=
      (List.takeWhile_prefix _).length_le
    by_cases hb : (bs.takeWhile (· != s.1.marker)) = []
    · simp [hb, Fetch.Takes]
    · have hb' : (bs.takeWhile (· != s.1.marker)).isEmpty = false := by simpa using hb
      simp only [hb', Bool.false_eq_true, if_false]
      exact ⟨hb, by omega, by simp [coming, unread]⟩

theorem fetch_takes {n : Nat} (hn : 0 < n) (s : Cutoff × δ) :
    (fetch n s).1.Takes n (coming s) (coming (fetch n s).2) := by
  obtain ⟨c, d⟩ := s
  have ht := take_takes hn (c, d)
  simp only [fetch]
  by_cases hr : c.reached = true
  · simp [hr, Fetch.Takes, coming]
  · have hr' : c.reached = false := Bool.eq_false_iff.2 hr
    rw [if_neg hr, if_neg (Nat.pos_iff_ne_zero.1 hn)]
    have hnow : coming (c, d) = (contents (c, d)).upTo c.marker := by simp [coming, hr']
    rw [hnow]
    rcases hf : take n (c, d) with ⟨f, c', d'⟩
    rw [hf] at ht
    obtain ⟨htakes, hmarker, hreached⟩ := ht
    dsimp only at htakes hmarker hreached
    have hthen : coming (c', d') = (contents (c', d')).upTo c.marker := by
      simp [coming, hreached, hr', hmarker]
    cases f with
    | got bs =>
      obtain ⟨hbs, hlen, hc⟩ := htakes
      rw [hc, ← hmarker]
      exact screen_takes (s := (c', d')) (hreached.trans hr') hbs hlen
    | wouldBlock =>
      have hc : contents (c, d) = .delay :: contents (c', d') := htakes
      simp [Fetch.Takes, hc, hthen]
    | ended =>
      have hc : contents (c, d) = [] := htakes
      simp [Fetch.Takes, hc]
    | failed e =>
      have hc : contents (c, d) = .failure e :: contents (c', d') := htakes
      simp [Fetch.Takes, hc, hthen]

instance : ByteStream (Cutoff × δ) where
  coming := coming
  fetch_takes _ s hn := fetch_takes hn s
  length_coming_le s := by
    have hd := RawStream.length_coming_le s.2
    have he := Coming.length_eased_le (RawStream.coming s.2)
    unfold coming
    split
    · exact Nat.zero_le _
    · apply Nat.le_trans (Coming.length_upTo_le _ _)
      simp only [contents, List.length_append, Coming.length_ofUnits, ByteSource.budget]
      omega

end Input.Cutoff

end ScriptChannel
