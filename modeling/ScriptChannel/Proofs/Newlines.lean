import ScriptChannel.Output
import ScriptChannel.Stream

/-!
# Newlines there and back

What a newline becomes on output is read as a newline again, if both sides agree. A carriage return
that was written as such comes back as one where only the feed, or only the pair, is an ending.
-/

namespace ScriptChannel

namespace Output

@[simp] theorem translate_nil (t : Translation) : translate t [] = [] := rfl

@[simp] theorem translate_newline (t : Translation) (cs : List Char) :
    translate t ('\n' :: cs) = t.ending ++ translate t cs := rfl

theorem translate_cons {c : Char} (hc : c ≠ '\n') (t : Translation) (cs : List Char) :
    translate t (c :: cs) = c :: translate t cs := by
  simp [translate, hc]

/-- The line feed is no translation at all. -/
theorem translate_of_feed {t : Translation} (h : t.ending = ['\n']) (cs : List Char) :
    translate t cs = cs := by
  induction cs with
  | nil => rfl
  | cons c cs ih =>
    by_cases hc : c = '\n'
    · rw [hc, translate_newline, h, ih]
      rfl
    · rw [translate_cons hc, ih]

/-- Any other ending begins with a carriage return, so no line feed is in front. -/
theorem head_translate {t : Translation} (h : t.ending ≠ ['\n']) (cs : List Char) :
    (translate t cs).head? ≠ some '\n' := by
  cases cs with
  | nil => simp
  | cons c cs =>
    by_cases hc : c = '\n'
    · rw [hc, translate_newline]
      cases t <;> simp_all [Translation.ending]
    · rw [translate_cons hc]
      simpa using hc

end Output

namespace Translation
open Output

theorem readCr_translate {cs : List Char} (h : '\r' ∉ cs) : readCr (translate .cr cs) = cs := by
  induction cs with
  | nil => rfl
  | cons c cs ih =>
    obtain ⟨hc, hcs⟩ := not_or.1 (mt List.mem_cons.2 h)
    have hrest := ih hcs
    rw [readCr] at hrest
    by_cases hn : c = '\n'
    · subst hn
      simp [readCr, ending, hrest]
    · rw [translate_cons hn, readCr, List.map_cons, hrest, if_neg (Ne.symm hc)]

theorem readCrlf_cons {c : Char} {cs : List Char} (h : c ≠ '\r' ∨ cs.head? ≠ some '\n') :
    readCrlf (c :: cs) = c :: readCrlf cs := by
  rcases cs with _ | ⟨c', cs⟩
  · simp [readCrlf]
  · rcases h with h | h
    · simp [readCrlf, h]
    · simp only [List.head?_cons, ne_eq, Option.some.injEq] at h
      simp [readCrlf, h]

theorem readCrlf_translate (cs : List Char) : readCrlf (translate .crlf cs) = cs := by
  induction cs with
  | nil => simp [readCrlf]
  | cons c cs ih =>
    by_cases hn : c = '\n'
    · subst hn
      simp [ending, readCrlf, ih]
    · rw [translate_cons hn, readCrlf_cons (.inr (head_translate (by decide) cs)), ih]

theorem readAuto_cons {c : Char} {cs : List Char} (hr : c ≠ '\r') (hn : c ≠ '\n') :
    readAuto (c :: cs) = c :: readAuto cs := by
  simp [readAuto, hr]

theorem readAuto_return {cs : List Char} (h : cs.head? ≠ some '\n') :
    readAuto ('\r' :: cs) = '\n' :: readCr cs := by
  rcases cs with _ | ⟨c, cs⟩
  · simp [readAuto]
  · simp only [List.head?_cons, ne_eq, Option.some.injEq] at h
    simp [readAuto, h]

/-- Up to the first ending nothing is decided, and behind it that ending is in force. -/
theorem readAuto_translate {cs : List Char} (h : '\r' ∉ cs) (t : Translation) :
    readAuto (translate t cs) = cs := by
  induction cs with
  | nil => simp [readAuto]
  | cons c cs ih =>
    obtain ⟨hc, hcs⟩ := not_or.1 (mt List.mem_cons.2 h)
    by_cases hn : c = '\n'
    · subst hn
      rw [translate_newline]
      cases t with
      | cr =>
        have hhead := head_translate (t := .cr) (by decide) cs
        rw [ending, List.singleton_append, readAuto_return hhead, readCr_translate hcs]
      | crlf =>
        rw [ending, List.cons_append, List.singleton_append, readAuto, readCrlf_translate]
      | auto | lf | binary | platform =>
        rw [ending, List.singleton_append, readAuto, translate_of_feed rfl]
    · rw [translate_cons hn, readAuto_cons (Ne.symm hc) hn, ih hcs]

/-- What is written with the one setting is read with the other as it was. -/
inductive Matches : Translation → Translation → List Char → Prop
  | feed {out inp : Translation} (cs : List Char) (hout : out.ending = ['\n'])
      (hinp : inp = .lf ∨ inp = .binary ∨ inp = .platform) : Matches out inp cs
  | pair (cs : List Char) : Matches .crlf .crlf cs
  | single {cs : List Char} (h : '\r' ∉ cs) : Matches .cr .cr cs
  | either {cs : List Char} (out : Translation) (h : '\r' ∉ cs) : Matches out .auto cs

theorem Matches.read_translate {out inp : Translation} {cs : List Char} (h : Matches out inp cs) :
    inp.read (translate out cs) = cs := by
  cases h with
  | feed _ hout hinp =>
    rw [translate_of_feed hout]
    rcases hinp with rfl | rfl | rfl <;> rfl
  | pair => exact readCrlf_translate cs
  | single h => exact readCr_translate h
  | either _ h => exact readAuto_translate h out

end Translation

end ScriptChannel
