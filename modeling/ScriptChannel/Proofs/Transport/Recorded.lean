import ScriptChannel.Proofs.Output.Delivery
import ScriptChannel.Transport.Memory

/-!
# A device under observation

Any device with a record of the calls made to it, each with its answer. From the record of some calls
follows what they come to: the first failure among them, if there is one. A write call that was
interrupted is no failure, since it is made again; one that takes nothing is.
-/

namespace ScriptChannel

/-- A sink that is not interrupted for ever: an interruption takes something from its patience, and no
write call adds to it. -/
class Tireless (δ : Type) [RawWriter δ] : Prop where
  patience_write (bs : List UInt8) (d : δ) :
    RawWriter.patience (RawWriter.write bs d).2 ≤ RawWriter.patience d
  patience_interrupted (bs : List UInt8) (d : δ) (e : IoError)
    (h : (RawWriter.write bs d).1 = .error e) (hi : e.kind = .interrupted) :
    RawWriter.patience (RawWriter.write bs d).2 < RawWriter.patience d

namespace Transport

instance : Tireless Memory where
  patience_write _ _ := Nat.le_refl _
  patience_interrupted _ _ _ h _ := by cases h

instance : Tireless Rehearsed where
  patience_write bs d := by
    change d.writes.tail.length ≤ d.writes.length
    simp
  patience_interrupted bs d e h _ := by
    change d.writes.tail.length < d.writes.length
    cases hw : d.writes with
    | nil =>
      rw [show (RawWriter.write bs d).1 = .ok bs.length by
        simp [RawWriter.write, Rehearsed.write, hw]] at h
      cases h
    | cons a rest => simp

/-- A call of a device and its answer. -/
inductive Entry
  | openInput (answer : Except IoError Unit)
  | openOutput (answer : Except IoError Unit)
  | read (size : Nat) (answer : Except IoError (List UInt8))
  | write (offered : List UInt8) (answer : Except IoError Nat)
  | flush (answer : Except IoError Unit)
  | sync (answer : Except IoError Unit)
  | seek (place : Place) (answer : Except IoError Nat)
  | close (answer : Except IoError Unit)

namespace Entry

/-- The reading side was opened. -/
def opensInput : Entry → Bool
  | openInput (.ok _) => true
  | _ => false

/-- The writing side was opened. -/
def opensOutput : Entry → Bool
  | openOutput (.ok _) => true
  | _ => false

def isClose : Entry → Bool
  | close _ => true
  | _ => false

/-- A call of the writing side once it is open. -/
def isSink : Entry → Bool
  | write _ _ | flush _ | sync _ => true
  | _ => false

/-- A call other than those that open a side or close the device. -/
def isPlain : Entry → Bool
  | openInput _ | openOutput _ | close _ => false
  | _ => true

/-- The bytes that a call handed over. -/
def accepted : Entry → List UInt8
  | write bs (.ok n) => bs.take n
  | _ => []

/-- The failure that a call comes to. -/
def failure? : Entry → Option IoError
  | openInput (.error e) | openOutput (.error e) | flush (.error e) | sync (.error e)
  | close (.error e) | read _ (.error e) | seek _ (.error e) => some e
  | write _ (.error e) => if e.kind = .interrupted then none else some e
  | write _ (.ok 0) => some .writeZero
  | _ => none

theorem isPlain_of_isSink {e : Entry} (h : e.isSink = true) : e.isPlain = true := by
  cases e <;> simp_all [isSink, isPlain]

end Entry

/-- What some calls come to: the first failure among them. -/
def outcome (calls : List Entry) : Except IoError Unit :=
  match calls.findSome? Entry.failure? with
  | some e => .error e
  | none => .ok ()

/-- The bytes that some calls handed over. -/
def received (calls : List Entry) : List UInt8 := calls.flatMap Entry.accepted

@[simp] theorem outcome_nil : outcome [] = .ok () := rfl

@[simp] theorem received_nil : received [] = [] := rfl

@[simp] theorem received_append (as bs : List Entry) :
    received (as ++ bs) = received as ++ received bs := List.flatMap_append

/-- The earlier calls decide, unless they all went well. -/
theorem outcome_append (as bs : List Entry) : outcome (as ++ bs) = (outcome as *> outcome bs) := by
  simp only [outcome, List.findSome?_append]
  cases as.findSome? Entry.failure? <;> rfl

/-- A device and the calls made to it so far, in order. -/
structure Recorded (δ : Type) where
  device : δ
  log : List Entry

namespace Recorded
variable {δ : Type}

/-- A device that nothing was asked of yet. -/
def fresh (d : δ) : Recorded δ := ⟨d, []⟩

/-- Makes a call and takes its answer down. -/
def record {α : Type} (entry : α → Entry) (call : δ → α × δ) (d : Recorded δ) : α × Recorded δ :=
  let r := call d.device
  (r.1, ⟨r.2, d.log ++ [entry r.1]⟩)

instance [Transport δ] : Transport (Recorded δ) where
  read n := record (.read n) (RawReader.read n)
  budget d := RawReader.budget d.device
  write bs := record (.write bs) (RawWriter.write bs)
  flush := record .flush RawWriter.flush
  sync := record .sync RawWriter.sync
  patience d := RawWriter.patience d.device
  kind d := kind d.device
  openInput := record .openInput openInput
  openOutput := record .openOutput openOutput
  seek p := record (.seek p) (seek p)
  tell d := tell d.device
  close := record .close close

instance [Transport δ] [Tireless δ] : Tireless (Recorded δ) where
  patience_write bs d := Tireless.patience_write bs d.device
  patience_interrupted bs d := Tireless.patience_interrupted bs d.device

/-- The second device is the first after calls of this sort. -/
def Called (A : Entry → Prop) (d d' : Recorded δ) : Prop :=
  ∃ calls, d'.log = d.log ++ calls ∧ ∀ e ∈ calls, A e

namespace Called
variable {A B : Entry → Prop} {d d' d'' : Recorded δ}

theorem refl (A : Entry → Prop) (d : Recorded δ) : Called A d d := ⟨[], by simp, by simp⟩

theorem trans (h : Called A d d') (h' : Called A d' d'') : Called A d d'' := by
  obtain ⟨calls, hlog, hall⟩ := h
  obtain ⟨calls', hlog', hall'⟩ := h'
  refine ⟨calls ++ calls', by rw [hlog', hlog, List.append_assoc], ?_⟩
  simpa [or_imp, forall_and] using ⟨hall, hall'⟩

theorem imp (h : Called A d d') (hi : ∀ e, A e → B e) : Called B d d' := by
  obtain ⟨calls, hlog, hall⟩ := h
  exact ⟨calls, hlog, fun e he => hi e (hall e he)⟩

theorem record {α : Type} {entry : α → Entry} (call : δ → α × δ) (d : Recorded δ)
    (h : ∀ a, A (entry a)) : Called A d (d.record entry call).2 :=
  ⟨[entry (call d.device).1], rfl, by simpa using h _⟩

end Called

end Recorded

end Transport

end ScriptChannel
