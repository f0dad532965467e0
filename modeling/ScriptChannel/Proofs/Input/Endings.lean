import ScriptChannel.Proofs.Coming
import ScriptChannel.Stream

/-!
# Line endings character by character

A translation as a machine that takes one character at a time. A carriage return whose meaning hangs
on what follows is held, and comes out with the next character or at the end. Taken one by one or
read as a whole, a text comes out the same. A failure right behind a held carriage return makes the
machine forget it; a delay does not.
-/

namespace ScriptChannel

structure Endings where
  mode : Translation
  /-- A carriage return waits for what follows. -/
  held : Bool
  deriving DecidableEq, Repr

namespace Endings

/-- What a carriage return with no newline behind it becomes, and the mode from there on. -/
def lone : Translation → Char × Translation
  | .auto => ('\n', .cr)
  | m => ('\r', m)

/-- The mode behind a pair. -/
def paired : Translation → Translation
  | .auto => .crlf
  | m => m

/-- A character in front of which no carriage return is held. -/
def single (m : Translation) (c : Char) : List Char × Endings :=
  match m, c with
  | .cr, '\r' => (['\n'], ⟨.cr, false⟩)
  | .crlf, '\r' => ([], ⟨.crlf, true⟩)
  | .auto, '\r' => ([], ⟨.auto, true⟩)
  | .auto, '\n' => (['\n'], ⟨.lf, false⟩)
  | m, c => ([c], ⟨m, false⟩)

def take (s : Endings) (c : Char) : List Char × Endings :=
  if s.held then
    if c = '\n' then (['\n'], ⟨paired s.mode, false⟩)
    else ((lone s.mode).1 :: (single (lone s.mode).2 c).1, (single (lone s.mode).2 c).2)
  else single s.mode c

/-- What is left at the end. -/
def rest (s : Endings) : List Char := if s.held then [(lone s.mode).1] else []

/-- What the machine makes of what comes to it, and of its end. -/
def coming : Endings → Coming Char → Coming Char
  | s, [] => Coming.ofUnits s.rest
  | s, .unit c :: xs => Coming.ofUnits (s.take c).1 ++ coming (s.take c).2 xs
  | s, .delay :: xs => .delay :: coming s xs
  | s, .failure e :: xs => .failure e :: coming { s with held := false } xs

/-- A held carriage return and a newline are one newline. -/
theorem coming_pair (m : Translation) (xs : Coming Char) :
    coming ⟨m, true⟩ (.unit '\n' :: xs) = .unit '\n' :: coming ⟨paired m, false⟩ xs := by
  simp [coming, take]

/-- A held carriage return with anything else behind it stands for itself. -/
theorem coming_lone (m : Translation) {c : Char} (hc : c ≠ '\n') (xs : Coming Char) :
    coming ⟨m, true⟩ (.unit c :: xs) =
      .unit (lone m).1 :: coming ⟨(lone m).2, false⟩ (.unit c :: xs) := by
  simp [coming, take, hc]

/-- What it makes of a text that is all there. -/
def text : Endings → List Char → List Char
  | s, [] => s.rest
  | s, c :: cs => (s.take c).1 ++ text (s.take c).2 cs

theorem coming_ofUnits (s : Endings) (cs : List Char) :
    s.coming (Coming.ofUnits cs) = Coming.ofUnits (s.text cs) := by
  induction cs generalizing s with
  | nil => rfl
  | cons c cs ih => simp [coming, text, ih]

/-- One for a held carriage return. -/
def weight (s : Endings) : Nat := if s.held then 1 else 0

theorem length_single_le (m : Translation) (c : Char) :
    (single m c).1.length + (single m c).2.weight ≤ 1 := by
  unfold single
  split <;> simp [weight]

theorem length_take_le (s : Endings) (c : Char) :
    (s.take c).1.length + (s.take c).2.weight ≤ s.weight + 1 := by
  unfold take
  by_cases hh : s.held = true
  · have hsingle := length_single_le (lone s.mode).2 c
    rw [if_pos hh]
    by_cases hc : c = '\n'
    · simp [hc, weight]
    · rw [if_neg hc]
      simp only [List.length_cons, weight, hh, if_true] at hsingle ⊢
      omega
  · rw [if_neg hh]
    have hsingle := length_single_le s.mode c
    omega

theorem length_coming_le (s : Endings) (xs : Coming Char) :
    (s.coming xs).length ≤ s.weight + xs.length := by
  induction xs generalizing s with
  | nil =>
    simp only [coming, rest, weight]
    split <;> simp
  | cons x xs ih =>
    cases x with
    | unit c =>
      have htake := s.length_take_le c
      have hrest := ih (s.take c).2
      simp only [coming, List.length_append, Coming.length_ofUnits, List.length_cons]
      omega
    | delay =>
      have hrest := ih s
      simp only [coming, List.length_cons]
      omega
    | failure e =>
      have hrest := ih { s with held := false }
      simp only [weight, Bool.false_eq_true, if_false] at hrest
      simp only [coming, List.length_cons]
      omega

/-- A mode that knows no carriage return leaves a text as it is. -/
theorem text_of_single {m : Translation} (h : ∀ c, single m c = ([c], ⟨m, false⟩)) (cs : List Char) :
    text ⟨m, false⟩ cs = cs := by
  induction cs with
  | nil => rfl
  | cons c cs ih => simpa [text, take, h] using ih

theorem text_lf (cs : List Char) : text ⟨.lf, false⟩ cs = cs := text_of_single (fun _ => rfl) cs

theorem text_cr (cs : List Char) : text ⟨.cr, false⟩ cs = Translation.readCr cs := by
  induction cs with
  | nil => rfl
  | cons c cs ih =>
    by_cases hc : c = '\r'
    · subst hc
      simpa [text, take, single, Translation.readCr] using ih
    · have hs : single .cr c = ([c], ⟨.cr, false⟩) := by simp [single, hc]
      simpa [text, take, hs, Translation.readCr, hc] using ih

theorem single_of_other {m : Translation} {c : Char} (hcr : m = .cr → c = '\r' → False)
    (hcrlf : m = .crlf → c = '\r' → False) (hn : m = .auto → c = '\n' → False)
    (hr : m = .auto → c = '\r' → False) : single m c = ([c], ⟨m, false⟩) := by
  unfold single
  split
  · exact (hcr rfl rfl).elim
  · exact (hcrlf rfl rfl).elim
  · exact (hr rfl rfl).elim
  · exact (hn rfl rfl).elim
  · rfl

theorem single_crlf {c : Char} (hc : c ≠ '\r') : single .crlf c = ([c], ⟨.crlf, false⟩) := by
  simp [single, hc]

theorem single_auto {c : Char} (hr : c ≠ '\r') (hn : c ≠ '\n') :
    single .auto c = ([c], ⟨.auto, false⟩) := by
  simp [single, hr, hn]

theorem text_crlf (cs : List Char) :
    text ⟨.crlf, false⟩ cs = Translation.readCrlf cs ∧
      text ⟨.crlf, true⟩ cs = Translation.readCrlf ('\r' :: cs) := by
  induction cs with
  | nil => exact ⟨rfl, by simp [text, rest, lone, Translation.readCrlf]⟩
  | cons c cs ih =>
    obtain ⟨ihf, iht⟩ := ih
    have hfree : text ⟨.crlf, false⟩ (c :: cs) = Translation.readCrlf (c :: cs) := by
      by_cases hr : c = '\r'
      · subst hr
        simpa [text, take, single] using iht
      · simpa [text, take, single_crlf hr, Translation.readCrlf, hr] using ihf
    refine ⟨hfree, ?_⟩
    by_cases hn : c = '\n'
    · subst hn
      simpa [text, take, paired, Translation.readCrlf] using ihf
    · have hheld : text ⟨.crlf, true⟩ (c :: cs) = '\r' :: text ⟨.crlf, false⟩ (c :: cs) := by
        simp [text, take, hn, lone]
      rw [hheld, hfree]
      simp [Translation.readCrlf, hn]

theorem text_auto (cs : List Char) :
    text ⟨.auto, false⟩ cs = Translation.readAuto cs ∧
      text ⟨.auto, true⟩ cs = Translation.readAuto ('\r' :: cs) := by
  induction cs with
  | nil => exact ⟨rfl, rfl⟩
  | cons c cs ih =>
    obtain ⟨ihf, iht⟩ := ih
    refine ⟨?_, ?_⟩
    · by_cases hr : c = '\r'
      · subst hr
        simpa [text, take, single] using iht
      · by_cases hn : c = '\n'
        · subst hn
          simpa [text, take, single, Translation.readAuto] using text_lf cs
        · simpa [text, take, single_auto hr hn, Translation.readAuto, hr, hn] using ihf
    · by_cases hn : c = '\n'
      · subst hn
        simpa [text, take, paired, Translation.readAuto] using (text_crlf cs).1
      · have hheld : text ⟨.auto, true⟩ (c :: cs) = '\n' :: text ⟨.cr, false⟩ (c :: cs) := by
          simp [text, take, hn, lone]
        rw [hheld, text_cr]
        simp [Translation.readAuto, hn]

/-- Taken one by one or read as a whole, a text comes out the same. -/
theorem text_eq_read (t : Translation) (cs : List Char) : text ⟨t, false⟩ cs = t.read cs := by
  cases t with
  | auto => exact (text_auto cs).1
  | lf => exact text_lf cs
  | cr => exact text_cr cs
  | crlf => exact (text_crlf cs).1
  | binary => exact text_of_single (fun _ => rfl) cs
  | platform => exact text_of_single (fun _ => rfl) cs

end Endings

end ScriptChannel
