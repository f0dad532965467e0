import ScriptChannel.Source

/-!
# What is still to come

What a source will say is a list of signals: units, and between them delays and failures. A fetch
takes some of it off the front, and what it answers tells how much. The pieces in which the units
come are not part of it, so two sources with the same list cannot be told apart by their text.

The law of a source is that every fetch takes what it answers, and that its budget covers all that
is to come. The stages of the input side satisfy it if what they are put upon does.
-/

namespace ScriptChannel

inductive Signal (α : Type)
  | unit (a : α)
  /-- Nothing is there yet. -/
  | delay
  | failure (error : IoError)
  deriving DecidableEq, Repr

abbrev Coming (α : Type) := List (Signal α)

namespace Signal
variable {α : Type}

def unit? : Signal α → Option α
  | unit a => some a
  | _ => none

def isDelay : Signal α → Bool
  | delay => true
  | _ => false

end Signal

namespace Coming
variable {α : Type}

/-- Units with nothing in between. -/
def ofUnits (us : List α) : Coming α := us.map .unit

/-- The units among the signals. -/
def units (xs : Coming α) : List α := xs.filterMap Signal.unit?

/-- The signals without the delays, as a reader that waits gets them. -/
def patient (xs : Coming α) : Coming α := xs.filter (!·.isDelay)

@[simp] theorem ofUnits_nil : ofUnits ([] : List α) = [] := rfl

@[simp] theorem ofUnits_cons (u : α) (us : List α) : ofUnits (u :: us) = .unit u :: ofUnits us := rfl

@[simp] theorem ofUnits_append (us vs : List α) : ofUnits (us ++ vs) = ofUnits us ++ ofUnits vs :=
  List.map_append

@[simp] theorem length_ofUnits (us : List α) : (ofUnits us).length = us.length := List.length_map _

@[simp] theorem ofUnits_eq_nil {us : List α} : ofUnits us = [] ↔ us = [] := List.map_eq_nil_iff

theorem ofUnits_injective : Function.Injective (ofUnits (α := α)) := fun _ _ h =>
  (List.map_inj_right fun _ _ hab => Signal.unit.inj hab).1 h

@[simp] theorem units_nil : units ([] : Coming α) = [] := rfl

@[simp] theorem units_unit (u : α) (xs : Coming α) : units (.unit u :: xs) = u :: units xs := rfl

@[simp] theorem units_delay (xs : Coming α) : units (.delay :: xs) = units xs := rfl

@[simp] theorem units_failure (e : IoError) (xs : Coming α) :
    units (.failure e :: xs) = units xs := rfl

@[simp] theorem units_append (xs ys : Coming α) : units (xs ++ ys) = units xs ++ units ys :=
  List.filterMap_append

@[simp] theorem units_ofUnits (us : List α) : units (ofUnits us) = us := by
  induction us with
  | nil => rfl
  | cons u us ih => simp [ih]

@[simp] theorem patient_nil : patient ([] : Coming α) = [] := rfl

@[simp] theorem patient_unit (u : α) (xs : Coming α) :
    patient (.unit u :: xs) = .unit u :: patient xs := rfl

@[simp] theorem patient_delay (xs : Coming α) : patient (.delay :: xs) = patient xs := rfl

@[simp] theorem patient_failure (e : IoError) (xs : Coming α) :
    patient (.failure e :: xs) = .failure e :: patient xs := rfl

@[simp] theorem patient_append (xs ys : Coming α) :
    patient (xs ++ ys) = patient xs ++ patient ys := List.filter_append ..

@[simp] theorem patient_ofUnits (us : List α) : patient (ofUnits us) = ofUnits us := by
  simp [patient, ofUnits, Signal.isDelay]

theorem length_patient_le (xs : Coming α) : (patient xs).length ≤ xs.length :=
  List.length_filter_le _ _

@[simp] theorem units_patient (xs : Coming α) : units (patient xs) = units xs := by
  induction xs with
  | nil => rfl
  | cons x xs ih => cases x <;> simp [ih]

end Coming

namespace Fetch
variable {α : Type}

/-- The answer to a fetch of at most `n` units takes it from what was to come to what is. -/
def Takes (n : Nat) : Fetch α → Coming α → Coming α → Prop
  | got us, xs, ys => us ≠ [] ∧ us.length ≤ n ∧ xs = Coming.ofUnits us ++ ys
  | wouldBlock, xs, ys => xs = .delay :: ys
  | ended, xs, _ => xs = []
  | failed e, xs, ys => xs = .failure e :: ys

/-- A read call as a fetch, each of its failures as what it is. -/
def plain : Except IoError (List α) → Fetch α
  | .ok [] => ended
  | .ok us => got us
  | .error e => failed e

/-- A fetch that does not end takes something. -/
theorem Takes.length_lt {n : Nat} {f : Fetch α} {xs ys : Coming α} (h : f.Takes n xs ys)
    (hf : f ≠ ended) : ys.length < xs.length := by
  cases f with
  | got us =>
    obtain ⟨hus, -, rfl⟩ := h
    have hpos := List.length_pos_iff.2 hus
    simp only [List.length_append, Coming.length_ofUnits]
    omega
  | wouldBlock =>
    rw [show xs = _ from h]
    exact Nat.lt_succ_self _
  | ended => exact absurd rfl hf
  | failed e =>
    rw [show xs = _ from h]
    exact Nat.lt_succ_self _

end Fetch

/-- The reading side of a device with an account of what it will say. -/
class RawStream (δ : Type) [RawReader δ] where
  coming : δ → Coming UInt8
  read_takes (n : Nat) (d : δ) (h : 0 < n) :
    (Fetch.plain (RawReader.read n d).1).Takes n (coming d) (coming (RawReader.read n d).2)
  length_coming_le (d : δ) : (coming d).length ≤ RawReader.budget d

/-- A source of bytes with an account of what it will say. -/
class ByteStream (σ : Type) [ByteSource σ] where
  coming : σ → Coming UInt8
  fetch_takes (n : Nat) (s : σ) (h : 0 < n) :
    (ByteSource.fetch n s).1.Takes n (coming s) (coming (ByteSource.fetch n s).2)
  length_coming_le (s : σ) : (coming s).length ≤ ByteSource.budget s

/-- A source of bytes whose end is for good. -/
class Settled (σ : Type) [ByteSource σ] [ByteStream σ] : Prop where
  coming_of_ended (n : Nat) (s : σ) (h : (ByteSource.fetch n s).1 = .ended) :
    ByteStream.coming (ByteSource.fetch n s).2 = []

/-- A source of characters with an account of what it will say. -/
class CharStream (σ : Type) [CharSource σ] where
  coming : σ → Coming Char
  fetch_takes (n : Nat) (s : σ) (h : 0 < n) :
    (CharSource.fetch n s).1.Takes n (coming s) (coming (CharSource.fetch n s).2)
  length_coming_le (s : σ) : (coming s).length ≤ CharSource.budget s

end ScriptChannel
