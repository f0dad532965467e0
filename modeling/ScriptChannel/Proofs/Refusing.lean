import ScriptChannel.Proofs.Persist
import ScriptChannel.Proofs.Runs

/-!
# Steps that may be refused

What must not be done is refused in a machine of its own: there a step has an answer only if it may be
taken, and a run has one only if each of its steps may. If an invariant grants every step, then such a
machine runs as the one that refuses nothing.
-/

namespace ScriptChannel
variable {α σ κ : Type}

/-- Repeats an attempt that may be refused, while the answer calls for it. -/
def retried? (again : α → Bool) (attempt? : σ → Option (α × σ)) : Nat → α × σ → Option (α × σ)
  | 0, r => some r
  | n + 1, r => if again r.1 then (attempt? r.2).bind (retried? again attempt? n) else some r

/-- A few attempts at first, and if they were not enough as many as the budget allows. -/
def persist? (again : α → Bool) (budget : σ → Nat) (attempt? : σ → Option (α × σ)) (s : σ) :
    Option (α × σ) := do
  let r ← retried? again attempt? quickAttempts (← attempt? s)
  if again r.1 then retried? again attempt? (budget r.2 + 1) r else some r

/-- Requests one after another, none of them refused. -/
def askAll? (ask? : κ → σ → Option (List α × σ)) : List κ → σ → Option (List α × σ)
  | [], s => some ([], s)
  | k :: ks, s => do
    let r ← ask? k s
    let r' ← askAll? ask? ks r.2
    some (r.1 ++ r'.1, r'.2)

section Persist
variable (again : α → Bool) (budget : σ → Nat) {attempt : σ → α × σ}
  {attempt? : σ → Option (α × σ)} {P : σ → Prop}

/-- With each attempt that it allows for, the invariant allows for the next one. -/
theorem retried?_granted (grant : ∀ s, P s → attempt? s = some (attempt s))
    (next : ∀ s, P s → again (attempt s).1 = true → P (attempt s).2) (n : Nat) {r : α × σ}
    (h : again r.1 = true → P r.2) :
    retried? again attempt? n r = some (retry again attempt n r) ∧
      (again (retry again attempt n r).1 = true → P (retry again attempt n r).2) := by
  induction n generalizing r with
  | zero => exact ⟨rfl, h⟩
  | succ n ih =>
    simp only [retried?, retry]
    by_cases ha : again r.1 = true
    · rw [if_pos ha, if_pos ha, grant r.2 (h ha)]
      exact ih (next r.2 (h ha))
    · rw [if_neg ha, if_neg ha]
      exact ⟨rfl, h⟩

theorem persist?_granted (grant : ∀ s, P s → attempt? s = some (attempt s))
    (next : ∀ s, P s → again (attempt s).1 = true → P (attempt s).2) {s : σ} (h : P s) :
    persist? again budget attempt? s = some (persist again budget attempt s) := by
  obtain ⟨hquick, hleft⟩ := retried?_granted again grant next quickAttempts (next s h)
  obtain ⟨hlong, -⟩ := retried?_granted again grant next
    (budget (retry again attempt quickAttempts (attempt s)).2 + 1) hleft
  simp only [persist?, persist, grant s h, Option.bind_eq_bind, Option.bind_some, hquick, hlong]
  split <;> rfl

end Persist

/-- A run in a machine that refuses, step by step the one in the machine that does not. -/
theorem askAll?_granted {ask : κ → σ → List α × σ} {ask? : κ → σ → Option (List α × σ)}
    {P : σ → Prop} (step : ∀ k s, P s → ask? k s = some (ask k s) ∧ P (ask k s).2)
    (ks : List κ) {s : σ} (h : P s) :
    askAll? ask? ks s = some (askAll ask ks s) ∧ P (askAll ask ks s).2 := by
  induction ks generalizing s with
  | nil => exact ⟨rfl, h⟩
  | cons k ks ih =>
    obtain ⟨hgranted, hnext⟩ := step k s h
    obtain ⟨hrest, hlast⟩ := ih hnext
    refine ⟨?_, hlast⟩
    simp only [askAll?, askAll, hgranted, Option.bind_eq_bind, Option.bind_some, hrest]

end ScriptChannel
