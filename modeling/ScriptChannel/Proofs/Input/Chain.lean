import ScriptChannel.Input.Chain
import ScriptChannel.Proofs.Input.Cutoff
import ScriptChannel.Proofs.Input.Decoding
import ScriptChannel.Proofs.Input.Lines
import ScriptChannel.Proofs.Input.ReadAhead

/-!
# The input side, signal by signal

Each stage takes what it answers from what is to come, so all of them together do. What is to come
from the input side is worked out from the device up.
-/

namespace ScriptChannel.Input.Chain
variable {δ : Type} [RawReader δ] [RawStream δ]

/-- What is to come from the input side, as text. -/
def coming (c : Chain) (d : δ) : Coming Char := Lines.coming (c.whole d)

/-- A run of text takes it from what is to come, and brings all that was wanted or says why not. -/
theorem readText_run (n : Nat) (c : Chain) (d : δ) :
    let r := c.readText n d
    Lines.Run r.1.1 r.1.2 (c.coming d) (r.2.1.coming r.2.2) ∧
      r.2.1.lines.partialLine <:+ c.lines.partialLine ∧ Fulfils n r.1 := by
  obtain ⟨⟨hrun, hsuffix⟩, hful⟩ := Lines.collect_run (show 0 < piece by decide) n (c.whole d)
  exact ⟨hrun, hsuffix, hful⟩

/-- So does a run of bytes, together with the characters that go in front of it. -/
theorem readBytes_fulfils (n : Nat) (c : Chain) (d : δ) : Fulfils n (c.readBytes n d).1 := by
  obtain ⟨-, hall, hshort⟩ := ByteSource.collect_takes (show 0 < piece by decide)
    (n - ((c.lines.takePending n).1.map Encoding.lowByte).length) (c.lower d)
  have hfront : ((c.lines.takePending n).1.map Encoding.lowByte).length ≤ n := by
    rw [List.length_map]
    exact List.length_take_le _ _
  constructor
  · intro hs
    have hlength := hall hs
    simp only [readBytes, List.length_append]
    omega
  · intro hs
    have hlength := hshort hs
    simp only [readBytes, List.length_append]
    omega

/-- Why the reading of a line stops. -/
def lineStop (blocking : Bool) (c : Chain) (d : δ) : Lines.Stop := Lines.lineStop blocking (c.whole d)

/-- A line is taken from what is to come. -/
theorem readLine_delivers (blocking : Bool) (c : Chain) (d : δ) :
    let r := c.readLine blocking d
    Lines.Delivers r.1 (c.lineStop blocking d) (c.coming d) (r.2.1.coming r.2.2) ∧
      (c.lineStop blocking d = .wouldBlock → blocking = false) :=
  Lines.readLine_delivers blocking (c.whole d)

theorem readLine_free (blocking : Bool) {c : Chain} (h : '\n' ∉ c.lines.partialLine) (d : δ) :
    '\n' ∉ (c.readLine blocking d).2.1.lines.partialLine ∧
      ∀ text, (c.readLine blocking d).1 = .line text → '\n' ∉ text :=
  Lines.readLine_free blocking (s := c.whole d) h

/-- Nothing is to come once the line endings are at the end. -/
theorem coming_of_isEnded {c : Chain} (h : c.lines.isEnded = true) (d : δ) : c.coming d = [] := by
  simp only [Lines.isEnded, Bool.and_eq_true, List.isEmpty_iff] at h
  obtain ⟨⟨hend, hahead⟩, hpartial⟩ := h
  have hraw : Lines.raw (c.whole d) = [] := by simp [Lines.raw, whole, hend, hahead]
  have hview : Lines.view (c.whole d) = [] := by
    rw [Lines.view, hraw]
    rfl
  rw [coming, Lines.coming, hview]
  simp [whole, hpartial]

/-- The bytes to come below the decoding, from what the device will say. -/
def arriving (c : Chain) (xs : Coming UInt8) : Coming UInt8 :=
  Coming.ofUnits c.rewind.ahead ++
    (Coming.ofUnits c.readAhead.cache ++
      if c.readAhead.ended then []
      else c.readAhead.heard
        (if c.cutoff.reached then []
        else (Coming.ofUnits c.cutoff.held ++ xs.eased).upTo c.cutoff.marker))

/-- The characters to come below the line endings. -/
def spelled (c : Chain) (xs : Coming UInt8) : Coming Char :=
  Coming.ofUnits c.decoding.surplus ++
    if c.decoding.finished then [] else c.decoding.reading (c.decoding.entering (c.arriving xs))

/-- Of the device it only matters what it will say. -/
theorem coming_eq (c : Chain) (d : δ) :
    c.coming d = Coming.ofUnits c.lines.partialLine ++
      Endings.coming ⟨c.lines.mode, false⟩ (Coming.ofUnits c.lines.ahead ++
        if c.lines.ended then [] else c.spelled (RawStream.coming d)) := rfl

theorem coming_congr {d d' : δ} (h : RawStream.coming d = RawStream.coming d') (c : Chain) :
    c.coming d = c.coming d' := by
  rw [coming_eq, coming_eq, h]

end ScriptChannel.Input.Chain
