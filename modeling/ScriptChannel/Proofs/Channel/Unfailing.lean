import ScriptChannel.Proofs.Channel.Fresh
import ScriptChannel.Proofs.Input.Losses

/-!
# Streams without failures

No stage makes a failure up: what comes in without any goes out without any. Then there is nothing
that the machine for line endings could lose.
-/

namespace ScriptChannel

namespace Coming
variable {α β : Type}

/-- No failure is to come. -/
def Unfailing (xs : Coming α) : Prop := ∀ e, .failure e ∉ xs

@[simp] theorem unfailing_nil : Unfailing ([] : Coming α) := fun _ => List.not_mem_nil

@[simp] theorem unfailing_unit {u : α} {xs : Coming α} :
    Unfailing (.unit u :: xs) ↔ Unfailing xs := by
  simp [Unfailing]

@[simp] theorem unfailing_delay {xs : Coming α} : Unfailing (.delay :: xs) ↔ Unfailing xs := by
  simp [Unfailing]

@[simp] theorem not_unfailing {e : IoError} {xs : Coming α} : ¬ Unfailing (.failure e :: xs) :=
  fun h => h e (List.mem_cons_self ..)

@[simp] theorem unfailing_append {xs ys : Coming α} :
    Unfailing (xs ++ ys) ↔ Unfailing xs ∧ Unfailing ys := by
  simp [Unfailing, forall_and]

@[simp] theorem unfailing_ofUnits (us : List α) : Unfailing (ofUnits us) := by
  simp [Unfailing, ofUnits]

theorem Unfailing.sublist {xs ys : Coming α} (h : Unfailing ys) (hs : xs.Sublist ys) : Unfailing xs :=
  fun e he => h e (hs.subset he)

@[simp] theorem unfailing_silence {xs : Coming α} :
    Unfailing (silence xs : Coming β) ↔ Unfailing xs := by
  simp [Unfailing]

theorem unfailing_patient {xs : Coming α} : Unfailing xs.patient ↔ Unfailing xs := by
  simp [Unfailing, patient, Signal.isDelay]

theorem Unfailing.upTo {xs : Coming UInt8} (h : Unfailing xs) (m : UInt8) :
    Unfailing (xs.upTo m) := by
  unfold Coming.upTo
  split
  · exact h
  · exact h.sublist (List.takeWhile_sublist _)

/-- Past units and delays there is what was behind them. -/
theorem Unfailing.past {us : List α} {xs ys : Coming α} (h : Unfailing xs) (hp : Past us xs ys) :
    Unfailing ys := by
  obtain ⟨p, -, rfl⟩ := hp
  exact (unfailing_append.1 h).2

end Coming

namespace Endings

theorem unfailing_coming {xs : Coming Char} (h : xs.Unfailing) (s : Endings) :
    (s.coming xs).Unfailing := by
  induction xs generalizing s with
  | nil => simp [coming]
  | cons x xs ih => cases x <;> simp_all [coming]

/-- Without failures there are none to cost anything. -/
theorem spared_of_unfailing {xs : Coming Char} (h : xs.Unfailing) (s : Endings) : s.Spared xs := by
  induction xs generalizing s with
  | nil => trivial
  | cons x xs ih => cases x <;> simp_all [Spared]

end Endings

namespace Input

theorem Decoding.unfailing_reading {xs : Coming UInt8} (h : xs.Unfailing) (d : Decoding) :
    (d.reading xs).Unfailing := by
  rw [← Coming.unfailing_silence (β := Char), d.silence_reading]
  exact Coming.unfailing_silence.2 h

theorem Decoding.unfailing_entering {xs : Coming UInt8} (h : xs.Unfailing) (d : Decoding) :
    (d.entering xs).Unfailing := by
  rw [← Coming.unfailing_silence (β := UInt8)]
  exact (Coming.unfailing_silence.2 h).sublist (d.silence_entering xs)

end Input

namespace Channel
variable {δ : Type} [Transport δ] [InputDevice δ]

/-- The characters a fresh channel has to come on a device that does not fail. -/
theorem unfailing_spelled {xs : Coming UInt8} (h : xs.eased.Unfailing) (s : Settings) :
    ((newInput s).spelled xs).Unfailing := by
  rw [spelled_newInput]
  refine Input.Decoding.unfailing_reading (Input.Decoding.unfailing_entering ?_ _) _
  split
  · exact Coming.unfailing_patient.2 (h.upTo _)
  · exact h.upTo _

theorem unfailing_coming_opened {d : δ} (h : (RawStream.coming d).eased.Unfailing) (m : OpenMode)
    (s : Settings) : (opened d m s).coming.Unfailing := by
  rw [opened_coming]
  exact Endings.unfailing_coming (unfailing_spelled h s) _

/-- What is to come from a fresh channel on a device that does not fail is, but for delays, the text
of the whole stream. -/
theorem units_coming_opened {d : δ} (h : (RawStream.coming d).eased.Unfailing) (m : OpenMode)
    (s : Settings) :
    (opened d m s).coming.units =
      s.encoding.textOf s.inputMarker s.inputTranslation (RawStream.coming d).units := by
  have hspared := Endings.spared_of_unfailing (unfailing_spelled h s)
    ⟨(Input.Lines.init s.inputTranslation).mode, false⟩
  rw [opened_coming, (Endings.units_coming_eq_text_iff (Endings.sound_of_free rfl) _).2 hspared,
    units_spelled_newInput, Input.Lines.text_init]
  rfl

end Channel

end ScriptChannel
