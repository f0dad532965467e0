import ScriptChannel.Proofs.Newlines
import ScriptChannel.Proofs.Output.Obliging

/-!
# A text written, and the same text put back into bytes

The two ways to put text into bytes share everything but what takes the place of a character without
bytes. A character reference is longer than a question mark, and nothing behind it makes up for that:
the bytes are the same just if the text has no such character.
-/

namespace ScriptChannel

namespace Charset

/-- The set has bytes for the character. -/
def Has : Charset → Char → Prop
  | iso2022Jp, c => (Iso2022Jp.encode .ascii c).1.2 = none
  | s, c => (s.encode? c).isSome = true

instance (s : Charset) : DecidablePred s.Has := fun c => by
  cases s <;> exact inferInstanceAs (Decidable (_ = _))

/-- Whether a character is reported does not depend on the set in force. -/
theorem Iso2022Jp.encode_reports (m m' : Iso2022Jp.Mode) (c : Char) :
    (Iso2022Jp.encode m c).1.2 = (Iso2022Jp.encode m' c).1.2 := by
  unfold Iso2022Jp.encode
  dsimp only
  split
  · split <;> rfl
  split
  · rfl
  split
  · rfl
  split <;> rfl

theorem has_iff {s : Charset} (hs : s ≠ iso2022Jp) (c : Char) :
    s.Has c ↔ (s.encode? c).isSome = true := by
  cases s with
  | iso2022Jp => exact absurd rfl hs
  | _ => exact Iff.rfl

namespace Encoder
variable {σ τ : Char → List UInt8}

theorem step_of_ne {s : Charset} (hs : s ≠ .iso2022Jp) (σ : Char → List UInt8)
    (m : Iso2022Jp.Mode) (spent : Bool) (c : Char) :
    step σ ⟨s, m, spent⟩ c = ((s.encode? c).getD (σ c), ⟨s, m, spent⟩) := by
  cases s with
  | iso2022Jp => exact absurd rfl hs
  | _ => rfl

/-- A step writes the same whatever stands in for a character, but for what does. -/
theorem step_cases (e : Encoder) (c : Char) :
    ∃ front x e', e'.charset = e.charset ∧ e'.spent = e.spent ∧
      ∀ σ, e.step σ c = (front ++ if e.charset.Has c then [] else σ x, e') := by
  obtain ⟨s, m, spent⟩ := e
  by_cases hs : s = .iso2022Jp
  · subst hs
    have hhas : Charset.iso2022Jp.Has c ↔ (Iso2022Jp.encode m c).1.2 = none := by
      rw [Iso2022Jp.encode_reports m .ascii]
      rfl
    refine ⟨(Iso2022Jp.encode m c).1.1, (Iso2022Jp.encode m c).1.2.getD c,
      ⟨.iso2022Jp, (Iso2022Jp.encode m c).2, spent⟩, rfl, rfl, fun σ => ?_⟩
    simp only [step, hhas]
    cases (Iso2022Jp.encode m c).1.2 <;> simp
  · refine ⟨(s.encode? c).getD [], c, ⟨s, m, spent⟩, rfl, rfl, fun σ => ?_⟩
    simp only [step_of_ne hs, has_iff hs]
    cases s.encode? c <;> simp

/-- Of two substitutes the longer one makes a longer text, if any character lacks bytes, and the same
if none does. -/
theorem feed_cases (h : ∀ x, (σ x).length < (τ x).length) {e : Encoder} (hnew : e.spent = false)
    (cs : List Char) :
    (e.feed σ cs).2 = (e.feed τ cs).2 ∧
      ((∀ c ∈ cs, e.charset.Has c) ∧ (e.feed σ cs).1 = (e.feed τ cs).1 ∨
        (∃ c ∈ cs, ¬ e.charset.Has c) ∧ (e.feed σ cs).1.length < (e.feed τ cs).1.length) := by
  induction cs generalizing e with
  | nil => exact ⟨rfl, .inl ⟨by simp, rfl⟩⟩
  | cons c cs ih =>
    obtain ⟨front, x, e', he', hspent, hstep⟩ := e.step_cases c
    obtain ⟨hstate, hrest⟩ := ih (hspent.trans hnew)
    rw [he'] at hrest
    simp only [feed_cons hnew, hstep]
    refine ⟨hstate, ?_⟩
    have hx := h x
    by_cases hc : e.charset.Has c
    · rw [if_pos hc, if_pos hc, List.append_nil]
      rcases hrest with ⟨hall, heq⟩ | ⟨⟨y, hy, hlacks⟩, hlt⟩
      · exact .inl ⟨List.forall_mem_cons.2 ⟨hc, hall⟩, by rw [heq]⟩
      · exact .inr ⟨⟨y, List.mem_cons_of_mem _ hy, hlacks⟩, by simpa using hlt⟩
    · refine .inr ⟨⟨c, List.mem_cons_self .., hc⟩, ?_⟩
      have hle : (e'.feed σ cs).1.length ≤ (e'.feed τ cs).1.length := by
        rcases hrest with ⟨-, heq⟩ | ⟨-, hlt⟩
        · exact heq ▸ Nat.le_refl _
        · exact Nat.le_of_lt hlt
      simp only [if_neg hc, List.length_append]
      omega

end Encoder
end Charset

namespace Encoding

/-- The bytes that a text is written as, and those that the encoding ends with. -/
def inscribed (e : Encoding) (cs : List Char) : List UInt8 :=
  let r := e.encoder.feed questionMark cs
  r.1 ++ r.2.finish.1

/-- What is written for the character does not depend on what it is written for: it has bytes, or a
question mark stands for it in any case. -/
def Settled : Encoding → Char → Prop
  | charset s, c => s.Has c
  | _, _ => True

instance (e : Encoding) : DecidablePred e.Settled := fun c => by
  cases e with
  | charset s => exact inferInstanceAs (Decidable (s.Has c))
  | _ => exact inferInstanceAs (Decidable True)

theorem length_questionMark_lt (c : Char) : (questionMark c).length < (reference c).length := by
  simp [questionMark, reference]

theorem inscribed_eq_unread_iff (e : Encoding) (cs : List Char) :
    e.inscribed cs = e.unread cs ↔ ∀ c ∈ cs, e.Settled c := by
  cases e with
  | binary | latin1 => exact ⟨fun _ _ _ => trivial, fun _ => rfl⟩
  | charset s =>
    obtain ⟨hstate, hall | hsome⟩ := Charset.Encoder.feed_cases length_questionMark_lt (e := s.encoder) rfl cs
    · have heq : (Encoding.charset s).inscribed cs = (Encoding.charset s).unread cs := by
        simp only [inscribed, unread, encoder, substitute, Encoder.feed, hstate, hall.2]
      exact ⟨fun _ => hall.1, fun _ => heq⟩
    · have hne : (Encoding.charset s).inscribed cs ≠ (Encoding.charset s).unread cs := by
        intro heq
        have hlength := congrArg List.length heq
        simp only [inscribed, unread, encoder, substitute, Encoder.feed, hstate,
          List.length_append] at hlength
        exact absurd hsome.2 (by omega)
      obtain ⟨⟨c, hc, hlacks⟩, -⟩ := hsome
      exact ⟨fun heq => absurd heq hne, fun h => absurd (h c hc) hlacks⟩

end Encoding

namespace Output

/-- The device after a text was written to it with its newlines as they are, and the side closed. -/
def emit {δ : Type} [RawWriter δ] (e : Encoding) (b : Buffering) (size : Nat) (cs : List Char)
    (d : δ) : δ :=
  let s := ((init e .lf b size).write (.text cs) d).2
  (s.1.close s.2).2.2

section Obliging
variable {δ : Type} [RawWriter δ] {G : δ → Prop} (h : Obliging G) [Sink δ]
include h

/-- What the sink has of a text that is written. -/
theorem accepted_emit {d : δ} (hd : G d) (e : Encoding) (b : Buffering) (size : Nat)
    (cs : List Char) : Sink.accepted (emit e b size cs d) = Sink.accepted d ++ e.inscribed cs := by
  have htrace : trace ((init e .lf b size).write (.text cs) d).2 = _ :=
    h.trace_perform (.write (.text cs)) (s := (init e .lf b size, d)) hd
  have hpen : ((init e .lf b size).write (.text cs) d).2.1.pen = _ :=
    perform_pen (.write (.text cs)) (init e .lf b size, d)
  have hsink : G ((init e .lf b size).write (.text cs) d).2.2 := h.write_keeps _ _ hd
  have hstate : ((init e .lf b size).write (.text cs) d).2.1.marker = 0 ∧
      ((init e .lf b size).write (.text cs) d).2.1.closed = false := by
    rcases (init e .lf b size).write_cases (.text cs) d with hw | hw
    all_goals
      rw [hw]
      exact ⟨rfl, rfl⟩
  unfold emit
  generalize ((init e .lf b size).write (.text cs) d).2 = s at htrace hpen hsink hstate ⊢
  have hending : s.1.ending = (e.encoder.feed Encoding.questionMark cs).2.finish.1 := by
    rw [Output.ending, if_pos hstate.1, List.append_nil, show s.1.encoder = s.1.pen.encoder from rfl,
      hpen]
    exact congrArg (fun cs => (e.encoder.feed Encoding.questionMark cs).2.finish.1)
      (translate_of_feed rfl cs)
  have hink : ((Op.write (.text cs)).ink (init e .lf b size).pen).1 =
      (e.encoder.feed Encoding.questionMark cs).1 :=
    congrArg (fun cs => (e.encoder.feed Encoding.questionMark cs).1) (translate_of_feed rfl cs)
  have hempty : trace (init e .lf b size, d) = Sink.accepted d := List.append_nil _
  rw [h.accepted_close hstate.2 hsink, htrace, hending, hink, hempty, List.append_assoc]
  rfl

/-- What a text is written as is what it is put back as, just if every character of it has bytes or
gets a question mark either way. -/
theorem emits_unread_iff {d : δ} (hd : G d) (e : Encoding) (b : Buffering) (size : Nat)
    (cs : List Char) :
    Sink.accepted (emit e b size cs d) = Sink.accepted d ++ e.unread cs ↔
      ∀ c ∈ cs, e.Settled c := by
  rw [accepted_emit h hd e b size cs, List.append_cancel_left_eq, e.inscribed_eq_unread_iff]

end Obliging

/-- Greek letters, to a sink that takes one byte at first. -/
theorem emits_unread_greek :
    Sink.accepted (emit (.charset (.page .windows1253)) .none 16 ['\u03B1', 'a', '\u03B2']
        { Transport.Rehearsed.quiet with writes := [.atMost 1] }) =
      (Encoding.charset (.page .windows1253)).unread ['\u03B1', 'a', '\u03B2'] :=
  (emits_unread_iff Transport.Rehearsed.obliging (by decide) (.charset (.page .windows1253)) .none 16
    ['\u03B1', 'a', '\u03B2']).2 (by
      simp only [List.forall_mem_cons]
      exact ⟨by decide, by decide, by decide, by simp⟩)

/-- The character that stands for a byte without a character has no bytes of its own. It is written
as a question mark and put back as a reference. -/
theorem unread_replacement_ne_emitted :
    Sink.accepted (emit (.charset (.page .windows1253)) .full 4096 ['\uFFFD']
        Transport.Rehearsed.quiet) = [0x3F] ∧
      (Encoding.charset (.page .windows1253)).unread ['\uFFFD'] =
        [0x26, 0x23, 0x36, 0x35, 0x35, 0x33, 0x33, 0x3B] := by
  decide

end Output

end ScriptChannel
