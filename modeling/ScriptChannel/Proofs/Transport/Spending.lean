import ScriptChannel.Transport.Rehearsed

/-!
# How a script is used up

A read call for something takes a whole step off its script, or some units of the first step, as long as
there is a script. So the length of a script bounds how often a device can be read before it answers that
the stream has ended.
-/

namespace ScriptChannel.Transport

namespace Step
variable {α : Type}

/-- The answer says that the stream has ended. -/
def isEnd : Step α → Bool
  | units us => us.isEmpty
  | theEnd => true
  | delay | interruption | failure _ => false

theorem isEnd_iff (step : Step α) : step.isEnd = true ↔ step.toRead = .ok [] := by
  cases step <;> simp [isEnd, toRead]

/-- The one script is the other without its first step, or without the first units of that. -/
inductive Advances : List (Step α) → List (Step α) → Prop
  | step (first : Step α) (rest : List (Step α)) : Advances (first :: rest) rest
  | units {us vs : List α} (h : us ≠ []) (rest : List (Step α)) :
    Advances (units (us ++ vs) :: rest) (units vs :: rest)

theorem advances_play {n : Nat} (hn : n ≠ 0) {script : List (Step α)} (h : script ≠ []) :
    Advances script (play n script).2 := by
  cases script with
  | nil => exact absurd rfl h
  | cons first rest =>
    cases first with
    | delay | interruption | theEnd | failure => exact .step _ rest
    | units us =>
      simp only [play]
      split
      · exact .step _ rest
      · rename_i hmore
        have htaken : us.take n ≠ [] := by
          rintro hnone
          obtain hzero | rfl := List.take_eq_nil_iff.1 hnone
          · exact hn hzero
          · simp at hmore
        have hadvance : Advances (units (us.take n ++ us.drop n) :: rest) (units (us.drop n) :: rest) :=
          .units htaken rest
        rwa [List.take_append_drop] at hadvance

theorem Advances.budget_lt {script script' : List (Step α)} (h : Advances script script') :
    budget script' < budget script := by
  cases h with
  | step first =>
    cases first with
    | units us =>
      simp only [budget]
      omega
    | delay | interruption | theEnd | failure =>
      simp only [budget]
      omega
  | units h =>
    have hpos := List.length_pos_iff.2 h
    simp only [budget, List.length_append]
    omega

/-- Read calls, each with its answer, that lead from the one script to the other. Each is for something,
and takes something off the script as long as there is one, and none is made once the end was answered. -/
inductive Played : List (Step α) → List (Nat × Step α) → List (Step α) → Prop
  | none (script : List (Step α)) : Played script [] script
  | call {script script' : List (Step α)} {calls : List (Nat × Step α)} (h : Played script calls script')
    (going : ∀ c ∈ calls, c.2.isEnd = false) {n : Nat} (hn : n ≠ 0)
    (takes : script' = [] ∨ Advances script' (play n script').2) :
    Played script (calls ++ [(n, (play n script').1)]) (play n script').2

/-- So a call that does not find the script used up is paid for by it, and there is one other at most. -/
theorem Played.length_le {script script' : List (Step α)} {calls : List (Nat × Step α)}
    (h : Played script calls script') : calls.length + budget script' ≤ budget script + 1 ∧
      ((∀ c ∈ calls, c.2.isEnd = false) → calls.length + budget script' ≤ budget script) := by
  induction h with
  | none => exact ⟨by simp, fun _ => by simp⟩
  | @call script' calls h going n hn takes ih =>
    have hbefore := ih.2 going
    rw [List.length_append, List.length_singleton]
    rcases takes with rfl | hadvance
    · refine ⟨?_, fun hall => ?_⟩
      · simp only [play]
        omega
      · exact absurd (hall (n, theEnd) (by simp [play])) (by simp [isEnd])
    · have hless := hadvance.budget_lt
      exact ⟨by omega, fun _ => by omega⟩

end Step

/-- The size and the answer, if the call is a read call. -/
def Call.read? : Call → Option (Nat × Step UInt8)
  | read n answer => some (n, answer)
  | _ => none

namespace Rehearsed

/-- The read calls so far, in order. -/
def readCalls (d : Rehearsed) : List (Nat × Step UInt8) := d.calls.filterMap Call.read?

/-- Any other call is none. -/
theorem readCalls_cons {d d' : Rehearsed} {call : Call} (hcall : call.read? = none)
    (hlog : d'.log = call :: d.log := by rfl) : d'.readCalls = d.readCalls := by
  simp [readCalls, calls, hlog, hcall]

theorem readCalls_read (n : Nat) (d : Rehearsed) :
    (RawReader.read n d).2.readCalls = d.readCalls ++ [(n, (Step.play n d.reads).1)] := by
  simp [RawReader.read, read, play, readCalls, calls, Call.read?]

theorem read_fst (n : Nat) (d : Rehearsed) :
    (RawReader.read n d).1 = (Step.play n d.reads).1.toRead := rfl

/-- The last read call was answered that nothing is there yet. -/
def Delayed (d : Rehearsed) : Prop :=
  ∃ n answer, d.readCalls.getLast? = some (n, answer) ∧ (Fetch.ofRead answer.toRead).isWouldBlock = true

/-- The device is at the second state by read calls, and if one of them was answered that the stream has
ended, this holds. -/
def Drawn (start : Rehearsed) (E : Prop) (d : Rehearsed) : Prop :=
  ∃ calls, d.readCalls = start.readCalls ++ calls ∧ Step.Played start.reads calls d.reads ∧
    ((∃ c ∈ calls, c.2.isEnd = true) → E)

variable {start d d' : Rehearsed} {E E' : Prop}

theorem drawn_refl (E : Prop) (d : Rehearsed) : Drawn d E d := ⟨[], by simp, .none _, by simp⟩

theorem Drawn.imp (h : Drawn start E d) (hi : E → E') : Drawn start E' d := by
  obtain ⟨calls, hcalls, hplayed, hend⟩ := h
  exact ⟨calls, hcalls, hplayed, hi ∘ hend⟩

/-- What is not about reading makes no difference. -/
theorem Drawn.congr (h : Drawn start E d) (hcalls : d'.readCalls = d.readCalls)
    (hreads : d'.reads = d.reads) : Drawn start E d' := by
  unfold Drawn at h ⊢
  rwa [hcalls, hreads]

/-- One more call, where the end was not answered yet. -/
theorem Drawn.read (h : Drawn start False d) {n : Nat} (hn : n ≠ 0) :
    Drawn start ((RawReader.read n d).1 = .ok []) (RawReader.read n d).2 := by
  obtain ⟨calls, hcalls, hplayed, hend⟩ := h
  have hgoing : ∀ c ∈ calls, c.2.isEnd = false := fun c hc =>
    Bool.eq_false_iff.2 fun he => hend ⟨c, hc, he⟩
  have htakes : d.reads = [] ∨ Step.Advances d.reads (Step.play n d.reads).2 :=
    (Classical.em (d.reads = [])).imp_right fun hsome => Step.advances_play hn hsome
  refine ⟨calls ++ [(n, (Step.play n d.reads).1)], ?_, hplayed.call hgoing hn htakes, ?_⟩
  · rw [readCalls_read, hcalls, List.append_assoc]
  · rintro ⟨c, hc, he⟩
    rcases List.mem_append.1 hc with hc | hc
    · exact absurd he (by simp [hgoing c hc])
    · obtain rfl := List.mem_singleton.1 hc
      exact (Step.isEnd_iff _).1 he

end Rehearsed

end ScriptChannel.Transport
