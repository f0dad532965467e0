import Mathlib.Data.List.Basic
import ScriptChannel.Proofs.Channel.Reading

/-!
# A channel just opened

What is to come from a fresh channel is what its stages make of all that the device will say. For a
reader who waits a script without failures is its bytes and nothing else, and what is to come from
those is the text of the whole stream.
-/

namespace ScriptChannel

namespace Coming

/-- The marker is met at the same place whether one waits or not. -/
theorem patient_upTo (m : UInt8) (xs : Coming UInt8) : (xs.upTo m).patient = xs.patient.upTo m := by
  induction xs with
  | nil => simp
  | cons x xs ih =>
    cases x with
    | unit u =>
      rw [upTo_unit, patient_unit, upTo_unit]
      split
      · rfl
      · rw [patient_unit, ih]
    | delay => simpa using ih
    | failure e => simpa using ih

end Coming

theorem Transport.Step.patient_coming {script : List (Step UInt8)}
    (h : ∀ step ∈ script, step.Harmless) :
    (coming script).eased.patient = Coming.ofUnits (contents script) := by
  induction script with
  | nil => rfl
  | cons step rest ih =>
    have hrest := ih fun step hstep => h step (List.mem_cons_of_mem _ hstep)
    cases step with
    | units us =>
      cases us with
      | nil => rfl
      | cons u us => simp [hrest]
    | theEnd => rfl
    | delay =>
      rw [coming, Coming.eased_wouldBlock rfl]
      exact hrest
    | interruption =>
      rw [coming, Coming.eased_interrupted rfl]
      exact hrest
    | failure e =>
      rw [coming]
      rcases h _ (List.mem_cons_self ..) with hw | hi
      · rw [Coming.eased_wouldBlock hw]
        exact hrest
      · rw [Coming.eased_interrupted hi]
        exact hrest

namespace Encoding

/-- Skipping the mark of an encoding is leaving out the mark of its set. -/
theorem skipMark_eq (e : Encoding) (bs : List UInt8) :
    e.skipMark bs = match e.markedCharset? with
      | some c => c.withoutMark bs
      | none => bs := by
  unfold skipMark
  cases hc : e.markedCharset? with
  | none => rfl
  | some c =>
    cases hm : c.mark? with
    | none => simp [Charset.withoutMark, hm]
    | some mark =>
      simp only [Option.bind_some, hm]
      by_cases hp : mark <+: bs
      · obtain ⟨rest, rfl⟩ := hp
        rw [Charset.withoutMark_of_marked hm (List.prefix_append mark rest), List.drop_left,
          List.isPrefixOf?_eq_some_iff_append_eq.2 rfl, Option.getD_some]
      · have hnone : mark.isPrefixOf? bs = none := by
          rw [← Option.not_isSome_iff_eq_none, List.isSome_isPrefixOf?_eq_isPrefixOf,
            List.isPrefixOf_iff_prefix]
          exact hp
        rw [Charset.withoutMark_of_unmarked hm hp, hnone, Option.getD_none]

end Encoding

namespace Input.Decoding

/-- A stream that is all there comes in without its mark. -/
theorem entering_ofUnits (e : Encoding) (bs : List UInt8) :
    (init e).entering (Coming.ofUnits bs) = Coming.ofUnits (e.skipMark bs) := by
  rw [Encoding.skipMark_eq]
  cases hc : e.markedCharset? with
  | none => simp [entering, init, hc]
  | some c =>
    obtain ⟨mark, hm⟩ := Encoding.mark_of_markedCharset hc
    simp only [entering, init, hc]
    exact Charset.opening_ofUnits hm bs

theorem units_entering (e : Encoding) (xs : Coming UInt8) :
    ((init e).entering xs).units = e.skipMark xs.units := by
  rw [Encoding.skipMark_eq]
  cases hc : e.markedCharset? with
  | none => simp [entering, init, hc]
  | some c =>
    obtain ⟨mark, hm⟩ := Encoding.mark_of_markedCharset hc
    simp only [entering, init, hc]
    exact Charset.units_opening hm (by simp) xs

theorem reading_ofUnits (e : Encoding) (bs : List UInt8) :
    (init e).reading (Coming.ofUnits bs) = Coming.ofUnits (e.decode bs) := by
  cases e with
  | charset c =>
    have hfeed := c.decoder.coming_ofUnits_append bs []
    rw [reading_of_some (c := c) rfl rfl, ← List.append_nil (Coming.ofUnits bs), hfeed]
    simp [Charset.Decoder.coming, Encoding.decode, Charset.decode]
  | binary | latin1 =>
    rw [reading_of_bytes (by simp [init]), ← List.append_nil (Coming.ofUnits bs),
      Coming.map_ofUnits_append]
    simp [Coming.map, Encoding.decode]

theorem units_reading (e : Encoding) (xs : Coming UInt8) :
    ((init e).reading xs).units = e.decode xs.units := by
  cases e with
  | charset c =>
    rw [reading_of_some (c := c) rfl rfl]
    exact c.decoder.units_coming xs
  | binary | latin1 =>
    rw [reading_of_bytes (by simp [init])]
    exact Coming.units_map Encoding.charOfByte xs

end Input.Decoding

/-- The mode that a translation begins in makes of a text what the translation makes of it. -/
theorem Input.Lines.text_init (t : Translation) (cs : List Char) :
    Endings.text ⟨(init t).mode, false⟩ cs = t.read cs := by
  cases t <;> exact Endings.text_eq_read _ cs

namespace Channel

section Opened
variable {δ : Type}

/-- A channel just opened on a device, with its settings made. -/
def opened (d : δ) (m : OpenMode) (s : Settings) : Channel δ := { init d m with settings := s }

variable [Transport δ]

theorem opened_readable {d : δ} {m : OpenMode} (hopen : (Transport.openInput d).1 = .ok ())
    (hm : m.isReadable = true) (s : Settings) : (opened d m s).Readable where
  opened := rfl
  mode := hm
  quiet := rfl
  opens _ := hopen

variable [InputDevice δ]

/-- The characters a fresh input side makes of what a device says, in front of the line endings. -/
theorem spelled_newInput (s : Settings) (xs : Coming UInt8) :
    (newInput s).spelled xs =
      (Input.Decoding.init s.encoding).reading ((Input.Decoding.init s.encoding).entering
        (if s.blocking then (xs.eased.upTo s.inputMarker).patient
        else xs.eased.upTo s.inputMarker)) := rfl

/-- Whatever comes between the bytes, the same characters stand in front of the line endings. -/
theorem units_spelled_newInput (s : Settings) (xs : Coming UInt8) :
    ((newInput s).spelled xs).units =
      s.encoding.decode (s.encoding.skipMark (upToMarker s.inputMarker xs.units)) := by
  rw [spelled_newInput, Input.Decoding.units_reading, Input.Decoding.units_entering]
  split <;> simp

theorem opened_coming (d : δ) (m : OpenMode) (s : Settings) :
    (opened d m s).coming =
      Endings.coming ⟨(Input.Lines.init s.inputTranslation).mode, false⟩
        ((newInput s).spelled (RawStream.coming d)) := rfl

/-- If a reader who waits hears nothing but bytes, the text of the whole stream is to come. -/
theorem opened_coming_ofUnits {d : δ} {s : Settings} {bs : List UInt8}
    (hd : (RawStream.coming d).eased.patient = Coming.ofUnits bs) (hb : s.blocking = true)
    (m : OpenMode) :
    (opened d m s).coming =
      Coming.ofUnits (s.encoding.textOf s.inputMarker s.inputTranslation bs) := by
  rw [opened_coming, spelled_newInput, if_pos hb, Coming.patient_upTo, hd, Coming.upTo_ofUnits,
    Input.Decoding.entering_ofUnits, Input.Decoding.reading_ofUnits, Endings.coming_ofUnits,
    Input.Lines.text_init]
  rfl

end Opened

end Channel

end ScriptChannel
