import ScriptChannel.Charset.Basic

/-!
# Writing text piece by piece

An encoder turns characters into bytes one at a time. A character that the set has no bytes for is
reported, and whoever writes puts something in its place. Only ISO-2022-JP remembers anything from
one character to the next, and only it has bytes to write at the end. An encoder that was told the
end is spent and writes nothing more.
-/

namespace ScriptChannel.Charset

/-- A single-byte set: ASCII below, `upper` above. -/
def encodeByte? (upper : Char → Option Nat) (c : Char) : Option (List UInt8) :=
  if c.toNat < 0x80 then some [.ofNat c.toNat] else (upper c).map fun n => [.ofNat n]

def userDefinedByte? (c : Char) : Option Nat :=
  if 0xF780 ≤ c.toNat ∧ c.toNat ≤ 0xF7FF then some (c.toNat - 0xF700) else none

/-- The bytes of a character in a set that remembers nothing. -/
def encode? : Charset → Char → Option (List UInt8)
  | .utf8, c => some (Utf8.encode c)
  | .replaced, c => some (Utf8.encode c)
  | .utf16 order, c => some (Utf16.encode order c)
  | .page p, c => encodeByte? p.index.code? c
  | .userDefined, c => encodeByte? userDefinedByte? c
  | .shiftJis, c => ShiftJis.encode? c
  | .eucJp, c => EucJp.encode? c
  | .iso2022Jp, _ => none
  | .gbk, c => Gb.encodeNarrow? c
  | .gb18030, c => Gb.encodeWide? c
  | .big5, c => Big5.encode? c
  | .eucKr, c => EucKr.encode? c

structure Encoder where
  charset : Charset
  mode : Iso2022Jp.Mode
  spent : Bool
  deriving DecidableEq, Repr

def encoder (c : Charset) : Encoder := ⟨c, .ascii, false⟩

namespace Encoder

/-- The bytes for a character, with `substitute` for one that has none. -/
def step (substitute : Char → List UInt8) (e : Encoder) (c : Char) : List UInt8 × Encoder :=
  match e.charset with
  | .iso2022Jp =>
    let r := Iso2022Jp.encode e.mode c
    (r.1.1 ++ (r.1.2.map substitute).getD [], { e with mode := r.2 })
  | charset => ((charset.encode? c).getD (substitute c), e)

def feed (substitute : Char → List UInt8) (e : Encoder) : List Char → List UInt8 × Encoder
  | [] => ([], e)
  | c :: cs =>
    if e.spent then ([], e) else
      let r := e.step substitute c
      let r' := feed substitute r.2 cs
      (r.1 ++ r'.1, r'.2)

theorem feed_of_spent {e : Encoder} (h : e.spent = true) (substitute : Char → List UInt8)
    (cs : List Char) : e.feed substitute cs = ([], e) := by
  cases cs <;> simp [feed, h]

theorem feed_cons {e : Encoder} (h : e.spent = false) (substitute : Char → List UInt8) (c : Char)
    (cs : List Char) :
    e.feed substitute (c :: cs) =
      ((e.step substitute c).1 ++ ((e.step substitute c).2.feed substitute cs).1,
        ((e.step substitute c).2.feed substitute cs).2) := by
  simp [feed, h]

/-- What no character changes, no text does. -/
theorem feed_unchanged {β : Type} (f : Encoder → β) {substitute : Char → List UInt8}
    (hstep : ∀ e c, f (e.step substitute c).2 = f e) (e : Encoder) (cs : List Char) :
    f (e.feed substitute cs).2 = f e := by
  induction cs generalizing e with
  | nil => rfl
  | cons c cs ih => by_cases h : e.spent <;> simp [feed, h, ih, hstep]

theorem step_kept (substitute : Char → List UInt8) (e : Encoder) (c : Char) :
    (e.step substitute c).2.charset = e.charset ∧ (e.step substitute c).2.spent = e.spent := by
  unfold step
  split <;> exact ⟨rfl, rfl⟩

theorem charset_feed (substitute : Char → List UInt8) (e : Encoder) (cs : List Char) :
    (e.feed substitute cs).2.charset = e.charset :=
  feed_unchanged (·.charset) (fun e c => (e.step_kept substitute c).1) e cs

/-- A text does not end the encoding. -/
theorem spent_feed (substitute : Char → List UInt8) (e : Encoder) (cs : List Char) :
    (e.feed substitute cs).2.spent = e.spent :=
  feed_unchanged (·.spent) (fun e c => (e.step_kept substitute c).2) e cs

/-- Where nothing is remembered a text is written character by character. -/
theorem feed_eq_flatMap {e : Encoder} (h : e.spent = false)
    {substitute spell : Char → List UInt8} (hstep : ∀ c, e.step substitute c = (spell c, e))
    (cs : List Char) : e.feed substitute cs = (cs.flatMap spell, e) := by
  induction cs with
  | nil => rfl
  | cons c cs ih => rw [feed_cons h, hstep, ih, List.flatMap_cons]

/-- How a text is cut into pieces makes no difference. -/
theorem feed_append (substitute : Char → List UInt8) (e : Encoder) (as bs : List Char) :
    e.feed substitute (as ++ bs) =
      ((e.feed substitute as).1 ++ ((e.feed substitute as).2.feed substitute bs).1,
        ((e.feed substitute as).2.feed substitute bs).2) := by
  induction as generalizing e with
  | nil => simp [feed]
  | cons a as ih => by_cases h : e.spent <;> simp [feed, feed_of_spent, h, ih]

/-- Ends the text; what is left to write goes back to ASCII. -/
def finish (e : Encoder) : List UInt8 × Encoder :=
  (if e.spent then [] else Iso2022Jp.shift e.mode .ascii, { e with mode := .ascii, spent := true })

end Encoder

end ScriptChannel.Charset
