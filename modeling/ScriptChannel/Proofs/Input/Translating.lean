import ScriptChannel.Proofs.Channel.Waiting
import ScriptChannel.Proofs.Input.Piecewise

/-!
# Line endings piece by piece

Characters and lines are asked for in any order, and the characters from below come in any pieces, with
delays between them: a carriage return may be the last of a piece, of a request or of all. What has been
handed up, the newlines of the lines among it, is a beginning of what the translation makes of the whole
text. The end is answered when that is complete.
-/

namespace ScriptChannel.Input.Lines

/-- A request for translated characters. -/
inductive Ask
  /-- At most so many. -/
  | chars (n : Nat)
  /-- Those of a line. -/
  | line (blocking : Bool)

namespace Ask

/-- It asks for something. -/
def Proper : Ask → Prop
  | chars n => 0 < n
  | line _ => True

instance : DecidablePred Proper := fun a =>
  match a with
  | chars n => inferInstanceAs (Decidable (0 < n))
  | line _ => inferInstanceAs (Decidable True)

section Source
variable {σ : Type} [CharSource σ]

/-- The characters handed up, and with those of a line the newline that ended it. -/
def brings (s : Lines × σ) : Ask → List Char
  | chars n => (read n s).1.1
  | line blocking =>
    match (readLine blocking s).1 with
    | .line text => if lineStop blocking s = .newline then text ++ ['\n'] else text
    | _ => []

def leads (s : Lines × σ) : Ask → Lines × σ
  | chars n => (read n s).2
  | line blocking => (readLine blocking s).2

/-- It is answered that the stream has ended. -/
def Ends (s : Lines × σ) : Ask → Prop
  | chars n => (read n s).1.2 = .ended
  | line blocking => (readLine blocking s).1 = .ended

def answer (a : Ask) (s : Lines × σ) : List Char × Lines × σ := (a.brings s, a.leads s)

end Source

end Ask

section Stream
variable {σ : Type} [CharSource σ] [CharStream σ]

/-- News comes alone, unless it is a failure. -/
theorem gather_alone (n : Nat) (s : Lines × σ) (hserved : (gather n false s).1.2 ≠ .served)
    (hfailed : ∀ e, (gather n false s).1.2 ≠ .failed e) : (gather n false s).1.1 = [] := by
  cases n with
  | zero => exact absurd rfl hserved
  | succ n =>
    simp only [gather, Bool.false_and, Bool.false_eq_true, if_false] at hserved hfailed ⊢
    rcases hq : next (n + 1) s with ⟨c | _ | _ | e, s'⟩
    · rw [hq] at hserved hfailed
      -- behind the first character there is no news but a failure
      rcases (gather_run n true s').2.1.waits rfl with h | ⟨e, h⟩
      · exact absurd h hserved
      · exact absurd h (hfailed e)
    · rfl
    · rfl
    · rfl

theorem read_alone (n : Nat) (s : Lines × σ) (hserved : (read n s).1.2 ≠ .served)
    (hfailed : ∀ e, (read n s).1.2 ≠ .failed e) : (read n s).1.1 = [] := by
  obtain ⟨l, s⟩ := s
  simp only [read] at hserved hfailed ⊢
  by_cases hfront : l.partialLine.take n = []
  · simp only [hfront, List.isEmpty_nil, Bool.not_true, List.nil_append] at hserved hfailed ⊢
    exact gather_alone _ _ hserved hfailed
  · have hsome : (!(l.partialLine.take n).isEmpty) = true := by simpa using hfront
    rw [hsome] at hserved hfailed
    have hwaits := (gather_run (n - (l.partialLine.take n).length) true
      (({ l with partialLine := l.partialLine.drop n } : Lines), s)).2.1.waits rfl
    rcases hwaits with h | ⟨e, h⟩
    · exact absurd h hserved
    · exact absurd h (hfailed e)

/-- A run brings no failure where none is to come. -/
theorem Run.not_failed {us : List Char} {halt : Halt} {xs ys : Coming Char} (h : Run us halt xs ys)
    (hx : xs.Unfailing) (e : IoError) : halt ≠ .failed e := by
  rintro rfl
  exact Coming.not_unfailing (hx.past h.1)

/-- Where no failure is to come, a request takes what it brings off the front of what is. -/
theorem Ask.takes {a : Ask} (ha : a.Proper) {s : Lines × σ} (hs : (coming s).Unfailing) :
    (coming s).units = a.brings s ++ (coming (a.leads s)).units ∧ (coming (a.leads s)).Unfailing := by
  cases a with
  | chars n =>
    obtain ⟨hrun, -, -⟩ := read_run (show 0 < n from ha) s
    exact ⟨Channel.units_of_run hrun, hrun.unfailing hs⟩
  | line blocking =>
    obtain ⟨hdel, -⟩ := readLine_delivers blocking s
    obtain ⟨hthen, hfailed⟩ := hdel.unfailing hs
    refine ⟨?_, hthen⟩
    simp only [brings, leads]
    cases hstop : lineStop blocking s with
    | newline =>
      rw [hstop] at hdel
      obtain ⟨text, hline, hpast⟩ := hdel
      simp only [hline, if_true]
      rw [hpast.units, Coming.units_unit, List.append_assoc, List.singleton_append]
    | ended =>
      rw [hstop] at hdel
      obtain ⟨hnil, ⟨text, hline, -, hpast⟩ | ⟨hend, hpast⟩⟩ := hdel
      · simpa [hline, hnil] using hpast.units
      · simpa [hend, hnil] using hpast.units
    | wouldBlock =>
      rw [hstop] at hdel
      obtain ⟨hblocked, hpatient⟩ := hdel
      simp only [hblocked, List.nil_append]
      rw [← Coming.units_patient, hpatient, Coming.units_patient]
    | failed e => exact absurd hstop (hfailed e)

/-- Where the end is answered nothing is to come. -/
theorem Ask.units_of_ends {a : Ask} (ha : a.Proper) {s : Lines × σ} (hend : a.Ends s) :
    (coming s).units = [] := by
  cases a with
  | chars n =>
    have hend : (read n s).1.2 = .ended := hend
    obtain ⟨⟨htakes, -⟩, -, -⟩ := read_run (show 0 < n from ha) s
    have hnone := read_alone n s (by simp [hend]) (by simp [hend])
    rw [hend, hnone] at htakes
    exact htakes.units
  | line blocking =>
    have hend : (readLine blocking s).1 = .ended := hend
    obtain ⟨hdel, -⟩ := readLine_delivers blocking s
    rw [hend] at hdel
    cases hstop : lineStop blocking s with
    | ended =>
      rw [hstop] at hdel
      obtain ⟨-, ⟨text, hline, -⟩ | ⟨-, hpast⟩⟩ := hdel
      · cases hline
      · exact hpast.units
    | newline =>
      rw [hstop] at hdel
      obtain ⟨text, hline, -⟩ := hdel
      cases hline
    | wouldBlock =>
      rw [hstop] at hdel
      cases hdel.1
    | failed e =>
      rw [hstop] at hdel
      cases hdel.1

/-- What is to come from a fresh stage is, but for delays, the text translated as a whole. -/
theorem units_init (t : Translation) {s : σ} (hs : (CharStream.coming s).Unfailing) :
    (coming (init t, s)).units = t.read (CharStream.coming s).units ∧
      (coming (init t, s)).Unfailing := by
  have hview : coming (init t, s) = Endings.coming ⟨(init t).mode, false⟩ (CharStream.coming s) := rfl
  rw [hview]
  refine ⟨?_, Endings.unfailing_coming hs _⟩
  rw [(Endings.units_coming_eq_text_iff (Endings.sound_of_free rfl) _).2
    (Endings.spared_of_unfailing hs _), text_init]

/-- However the characters come in, as long as no failure comes, and however they are asked for: those
handed up are at every moment a beginning of the translated text, and all of it once the end is
answered. A request for characters brings some, as many as asked for at the most, or else news and
none. -/
theorem translates (t : Translation) {s : σ} (hs : (CharStream.coming s).Unfailing) {asks : List Ask}
    (hasks : ∀ a ∈ asks, a.Proper) :
    let text := t.read (CharStream.coming s).units
    let r := askAll Ask.answer asks (init t, s)
    r.1 <+: text ∧ (∀ a : Ask, a.Proper → a.Ends r.2 → r.1 = text) ∧
      ∀ n, 0 < n →
        let q := (read n r.2).1
        q.1.length ≤ n ∧
          (q.2 = .served ∧ q.1 ≠ [] ∨ q.1 = [] ∧ (q.2 = .wouldBlock ∨ q.2 = .ended)) := by
  intro text r
  obtain ⟨htext, hflow⟩ := units_init t hs
  obtain ⟨hall, hthen⟩ := askAll_left Ask.answer (fun s => (coming s).units)
    (fun a s ha hs => Ask.takes ha hs) hasks hflow
  have hall : text = r.1 ++ (coming r.2).units := htext.symm.trans hall
  refine ⟨⟨_, hall.symm⟩, fun a ha hend => ?_, fun n hn => ?_⟩
  · rw [hall, Ask.units_of_ends ha hend, List.append_nil]
  · intro q
    obtain ⟨hrun, -, hfits⟩ := read_run hn r.2
    have hfailed : ∀ e, q.2 ≠ .failed e := hrun.not_failed hthen
    refine ⟨hfits.length_le, ?_⟩
    cases hq : q.2 with
    | served => exact .inl ⟨rfl, hfits.some_of_served hq⟩
    | wouldBlock =>
      refine .inr ⟨read_alone n r.2 (fun h => ?_) hfailed, .inl rfl⟩
      cases hq.symm.trans h
    | ended =>
      refine .inr ⟨read_alone n r.2 (fun h => ?_) hfailed, .inr rfl⟩
      cases hq.symm.trans h
    | failed e => exact absurd hq (hfailed e)

end Stream

/-- A script that cuts pairs, and ends with a carriage return. -/
def cutPairs : Transport.Rehearsed :=
  { Transport.Rehearsed.quiet with reads :=
      [.units [0x61, 0x0D], .delay, .units [0x0A, 0x62, 0x0D], .units [0x0A, 0x63], .delay,
        .units [0x0D]] }

theorem translates_cutPairs :
    let s := Decoding.fresh .latin1 2 .full false (Cutoff.init 0, cutPairs)
    let asks : List Ask := [.line false, .line false, .chars 1, .line true, .chars 9, .line true]
    let r := askAll Ask.answer asks (init .auto, s)
    (CharStream.coming s).Unfailing ∧ (∀ a ∈ asks, a.Proper) ∧ (read 1 r.2).1.2 = .ended ∧
      r.1 = ['a', '\n', 'b', '\n', 'c', '\r'] ∧
      r.1 = Translation.auto.read (CharStream.coming s).units := by
  intro s asks r
  have hcoming : CharStream.coming s = [.unit 'a', .unit '\r', .delay, .unit '\n', .unit 'b',
    .unit '\r', .unit '\n', .unit 'c', .delay, .unit '\r'] := by decide
  have hs : (CharStream.coming s).Unfailing := by simp [hcoming]
  have hasks : ∀ a ∈ asks, a.Proper := by decide
  have hends : (read 1 r.2).1.2 = .ended := by decide
  have hchars : r.1 = ['a', '\n', 'b', '\n', 'c', '\r'] := by decide
  have hlast : (Ask.chars 1).Ends r.2 := hends
  have hall : r.1 = Translation.auto.read (CharStream.coming s).units :=
    (translates .auto hs hasks).2.1 (.chars 1) Nat.one_pos hlast
  exact ⟨hs, hasks, hends, hchars, hall⟩

end ScriptChannel.Input.Lines
