import ScriptChannel.Proofs.Coming
import ScriptChannel.Transport.Rehearsed

/-!
# What a script says

A rehearsed device says what its script does, up to the first end in it. Units of which there are
none are an end.
-/

namespace ScriptChannel.Transport

namespace Step
variable {α : Type}

/-- What a script says to single read calls. -/
def coming : List (Step α) → Coming α
  | [] => []
  | units [] :: _ => []
  | units us :: rest => Coming.ofUnits us ++ coming rest
  | delay :: rest => .failure .wouldBlock :: coming rest
  | interruption :: rest => .failure .interrupted :: coming rest
  | theEnd :: _ => []
  | failure e :: rest => .failure e :: coming rest

@[simp] theorem coming_cons_units (u : α) (us : List α) (rest : List (Step α)) :
    coming (units (u :: us) :: rest) = Coming.ofUnits (u :: us) ++ coming rest := rfl

/-- The units of a script, up to the first end in it. -/
def contents : List (Step α) → List α
  | [] => []
  | units [] :: _ => []
  | units us :: rest => us ++ contents rest
  | theEnd :: _ => []
  | _ :: rest => contents rest

@[simp] theorem contents_cons_units (u : α) (us : List α) (rest : List (Step α)) :
    contents (units (u :: us) :: rest) = u :: us ++ contents rest := rfl

/-- No failure but those that only say that the call is to be made again. -/
def Harmless : Step α → Prop
  | failure e => e.kind = .wouldBlock ∨ e.kind = .interrupted
  | _ => True

instance : DecidablePred (Harmless (α := α)) := fun step =>
  match step with
  | failure e => inferInstanceAs (Decidable (e.kind = .wouldBlock ∨ e.kind = .interrupted))
  | units _ | delay | interruption | theEnd => inferInstanceAs (Decidable True)

/-- The call is answered with an error. -/
def isError : Step α → Bool
  | delay | interruption | failure _ => true
  | units _ | theEnd => false

/-- A script without the errors in it. -/
def steady (script : List (Step α)) : List (Step α) := script.filter (!·.isError)

theorem harmless_steady (script : List (Step α)) : ∀ step ∈ steady script, step.Harmless := by
  intro step hstep
  have hgood := (List.mem_filter.1 hstep).2
  cases step with
  | failure e => simp [isError] at hgood
  | units | delay | interruption | theEnd => trivial

/-- Errors are no units. -/
theorem contents_steady (script : List (Step α)) : contents (steady script) = contents script := by
  induction script with
  | nil => rfl
  | cons step rest ih =>
    cases step with
    | units us =>
      cases us with
      | nil => rfl
      | cons u us => exact congrArg (u :: us ++ ·) ih
    | theEnd => rfl
    | delay | interruption | failure => exact ih

theorem units_coming (script : List (Step α)) : (coming script).units = contents script := by
  induction script with
  | nil => rfl
  | cons step rest ih =>
    cases step with
    | units us =>
      cases us with
      | nil => rfl
      | cons u us => simp [ih]
    | theEnd => rfl
    | delay | interruption | failure => simpa [coming, contents] using ih

/-- A call takes its answer from what the script says. -/
theorem play_takes {n : Nat} (hn : 0 < n) (script : List (Step α)) :
    (Fetch.plain (play n script).1.toRead).Takes n (coming script) (coming (play n script).2) := by
  cases script with
  | nil => rfl
  | cons step rest =>
    cases step with
    | units us =>
      cases us with
      | nil => simp [play, toRead, Fetch.plain, Fetch.Takes, coming]
      | cons u us =>
        obtain ⟨k, rfl⟩ : ∃ k, n = k + 1 := ⟨n - 1, by omega⟩
        simp only [play, List.take_succ_cons, List.drop_succ_cons, toRead, Fetch.plain]
        have hlen : (u :: us.take k).length ≤ k + 1 := Nat.succ_le_succ (List.length_take_le k us)
        refine ⟨List.cons_ne_nil _ _, hlen, ?_⟩
        rcases hd : us.drop k with _ | ⟨v, vs⟩
        · have hall : us.take k = us := by
            have := List.take_append_drop k us
            rwa [hd, List.append_nil] at this
          simp [hall]
        · rw [coming_cons_units]
          simp only [List.isEmpty_cons, Bool.false_eq_true, if_false, coming_cons_units]
          rw [← List.append_assoc, ← Coming.ofUnits_append, ← hd, List.cons_append,
            List.take_append_drop]
    | delay => rfl
    | interruption => rfl
    | theEnd => rfl
    | failure e => rfl

/-- A script answers at least as many calls as it has things to say. -/
theorem length_coming_le (script : List (Step α)) : (coming script).length ≤ budget script := by
  induction script with
  | nil => exact Nat.le_refl 0
  | cons step rest ih =>
    cases step with
    | units us =>
      cases us with
      | nil => exact Nat.zero_le _
      | cons u us =>
        simp only [coming_cons_units, List.length_append, Coming.length_ofUnits, budget]
        omega
    | theEnd => exact Nat.zero_le _
    | delay | interruption | failure =>
      simp only [coming, List.length_cons, budget]
      omega

end Step

instance : RawStream Rehearsed where
  coming d := Step.coming d.reads
  read_takes _ d hn := Step.play_takes hn d.reads
  length_coming_le d := Step.length_coming_le d.reads

end ScriptChannel.Transport
