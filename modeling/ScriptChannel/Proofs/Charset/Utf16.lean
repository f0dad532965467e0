import ScriptChannel.Charset.Decoder
import ScriptChannel.Charset.Encoder

/-!
# Text in UTF-16

A character is read back from its two or four bytes as soon as the last of them is there, and not
before: nothing is said about a high surrogate until the whole unit behind it has come.
-/

namespace ScriptChannel.Charset

namespace Decoder
variable {d : Decoder}

/-- Bytes that tell nothing yet are kept. -/
theorem step_of_incomplete {b : UInt8}
    (h : (d.charset.scan d.shift (d.pending ++ [b])).1 = .incomplete) :
    d.step b = ([], { d with pending := d.pending ++ [b] }) := by
  rcases hs : d.charset.scan d.shift (d.pending ++ [b]) with ⟨r, s⟩
  rw [hs] at h
  dsimp only at h
  subst h
  cases hbs : d.pending ++ [b] with
  | nil => simp at hbs
  | cons x xs =>
    rw [hbs] at hs
    simp [step, drain, hbs, drainIn, hs]

/-- Bytes that are taken as a whole leave none behind. -/
theorem step_of_whole {b : UInt8} {text : List Char}
    (h : d.charset.scan d.shift (d.pending ++ [b]) =
      (.taken (d.pending ++ [b]).length text, d.shift)) :
    d.step b = (text, { d with pending := [] }) := by
  have hnil : ∀ fuel, drainIn d.charset.scan fuel d.shift [] = ([], d.shift, []) := by
    intro fuel
    cases fuel <;> rfl
  cases hbs : d.pending ++ [b] with
  | nil => simp at hbs
  | cons x xs =>
    rw [hbs] at h
    simp [step, drain, hbs, drainIn, h, hnil]

/-- Bytes that say nothing until the last of them is there come out with that one. -/
theorem feed_of_whole (hs : d.spent = false) {bs : List UInt8} (hne : bs ≠ []) {text : List Char}
    (hproper : ∀ p q, bs = p ++ q → q ≠ [] →
      (d.charset.scan d.shift (d.pending ++ p)).1 = .incomplete)
    (hwhole : d.charset.scan d.shift (d.pending ++ bs) =
      (.taken (d.pending ++ bs).length text, d.shift)) :
    d.feed bs = (text, { d with pending := [] }) := by
  induction bs generalizing d with
  | nil => exact absurd rfl hne
  | cons b bs ih =>
    rw [feed, if_neg (by simp [hs])]
    by_cases hlast : bs = []
    · subst hlast
      rw [step_of_whole hwhole]
      simp [feed]
    · have hstep := step_of_incomplete (hproper [b] bs rfl hlast)
      rw [hstep]
      dsimp only
      rw [ih (d := { d with pending := d.pending ++ [b] }) hs hlast]
      · rfl
      · intro p q hpq hq
        have hp := hproper (b :: p) q (by rw [hpq, List.cons_append]) hq
        rwa [List.append_assoc]
      · rwa [List.append_assoc]

end Decoder

namespace Utf16
variable (order : ByteOrder)

/-- Two bytes stand for a unit, whichever comes first. -/
theorem exists_bytes {u : Nat} (h : u < 0x10000) :
    ∃ a b, order.bytes u = [a, b] ∧ order.unit a b = u := by
  have hlow : (UInt8.ofNat (u % 256)).toNat = u % 256 := by
    rw [UInt8.toNat_ofNat']
    omega
  have hhigh : (UInt8.ofNat (u / 256)).toNat = u / 256 := by
    rw [UInt8.toNat_ofNat']
    omega
  cases order with
  | little =>
    refine ⟨_, _, rfl, ?_⟩
    rw [ByteOrder.unit, hlow, hhigh]
    omega
  | big =>
    refine ⟨_, _, rfl, ?_⟩
    rw [ByteOrder.unit, hlow, hhigh]
    omega

/-- A pair stands for the code point it was made of. -/
theorem pair_split {n : Nat} (h : 0x10000 ≤ n) :
    pair (0xD800 + (n - 0x10000) / 0x400) (0xDC00 + (n - 0x10000) % 0x400) = n := by
  unfold pair
  omega

/-- What a character of two or four bytes looks like to a reader. -/
inductive Spelled (c : Char) : List UInt8 → Prop
  | unit (a b : UInt8) (hlow : isLow (order.unit a b) = false)
      (hhigh : isHigh (order.unit a b) = false) (hc : order.unit a b = c.toNat) : Spelled c [a, b]
  | pair (a b a' b' : UInt8) (hlow : isLow (order.unit a b) = false)
      (hhigh : isHigh (order.unit a b) = true) (hlow' : isLow (order.unit a' b') = true)
      (hc : Utf16.pair (order.unit a b) (order.unit a' b') = c.toNat) : Spelled c [a, b, a', b']

theorem spelled_encode (c : Char) : Spelled order c (encode order c) := by
  have hvalid : c.toNat < 0xD800 ∨ 0xDFFF < c.toNat ∧ c.toNat < 0x110000 := c.valid
  unfold encode units
  generalize hn : c.toNat = n at hvalid
  -- Code points are no surrogates, so a unit that stands alone is not taken for half a pair.
  by_cases hplane : n < 0x10000
  · obtain ⟨a, b, hbytes, hunit⟩ := exists_bytes order hplane
    simp only [if_pos hplane, List.flatMap_singleton, hbytes]
    refine .unit a b ?_ ?_ (hunit.trans hn.symm)
    · simp only [isLow, hunit, Bool.and_eq_false_iff, decide_eq_false_iff_not]
      omega
    · simp only [isHigh, hunit, Bool.and_eq_false_iff, decide_eq_false_iff_not]
      omega
  · obtain ⟨a, b, hbytes, hunit⟩ :=
      exists_bytes order (u := 0xD800 + (n - 0x10000) / 0x400) (by omega)
    obtain ⟨a', b', hbytes', hunit'⟩ :=
      exists_bytes order (u := 0xDC00 + (n - 0x10000) % 0x400) (by omega)
    simp only [if_neg hplane, List.flatMap_cons, List.flatMap_nil, hbytes, hbytes']
    refine .pair a b a' b' ?_ ?_ ?_ ?_
    · simp only [isLow, hunit, Bool.and_eq_false_iff, decide_eq_false_iff_not]
      omega
    · simp only [isHigh, hunit, Bool.and_eq_true, decide_eq_true_eq]
      omega
    · simp only [isLow, hunit', Bool.and_eq_true, decide_eq_true_eq]
      omega
    · rw [hunit, hunit', hn]
      exact pair_split (Nat.not_lt.1 hplane)

variable {order}

theorem Spelled.scan {c : Char} {bs : List UInt8} (h : Spelled order c bs) :
    scan order bs = .taken bs.length [c] := by
  cases h with
  | unit a b hlow hhigh hc =>
    have hread : Char.ofNat (order.unit a b) = c := by rw [hc, Char.ofNat_toNat]
    simp [Utf16.scan, hlow, hhigh, hread]
  | pair a b a' b' hlow hhigh hlow' hc => simp [Utf16.scan, hlow, hhigh, hlow', hc]

/-- Less than all of its bytes do not tell which character it is. -/
theorem Spelled.scan_proper {c : Char} {bs : List UInt8} (h : Spelled order c bs)
    {p q : List UInt8} (hbs : bs = p ++ q) (hq : q ≠ []) : Utf16.scan order p = .incomplete := by
  cases h with
  | unit a b =>
    rcases p with _ | ⟨x, _ | ⟨y, p⟩⟩
    · rfl
    · rfl
    · simp_all
  | pair a b a' b' hlow hhigh =>
    rcases p with _ | ⟨x, _ | ⟨y, _ | ⟨z, _ | ⟨w, p⟩⟩⟩⟩
    · rfl
    · rfl
    · simp_all [Utf16.scan]
    · simp_all [Utf16.scan]
    · simp_all

theorem Spelled.ne_nil {c : Char} {bs : List UInt8} (h : Spelled order c bs) : bs ≠ [] := by
  cases h <;> simp

/-- The bytes of a text. -/
def bytes (order : ByteOrder) (cs : List Char) : List UInt8 := cs.flatMap (encode order)

/-- A text is read back from its bytes. -/
theorem feed_bytes (order : ByteOrder) (cs : List Char) :
    (Charset.utf16 order).decoder.feed (bytes order cs) = (cs, (Charset.utf16 order).decoder) := by
  induction cs with
  | nil => rfl
  | cons c cs ih =>
    have hspelled := spelled_encode order c
    have hfirst : (Charset.utf16 order).decoder.feed (encode order c) =
        ([c], (Charset.utf16 order).decoder) := by
      refine Decoder.feed_of_whole rfl hspelled.ne_nil (fun p q hpq hq => ?_) ?_
      · exact hspelled.scan_proper hpq hq
      · exact congrArg (·, Shift.plain) hspelled.scan
    rw [bytes, List.flatMap_cons, Decoder.feed_append, hfirst]
    dsimp only
    rw [show cs.flatMap (encode order) = bytes order cs from rfl, ih]
    rfl

theorem decode_bytes (order : ByteOrder) (cs : List Char) :
    (Charset.utf16 order).decode (bytes order cs) = cs := by
  rw [decode, feed_bytes]
  exact List.append_nil cs

/-- A text whose bytes begin with the mark begins with the character that the mark is. -/
theorem head_of_mark {cs : List Char} {mark : List UInt8}
    (hm : (Charset.utf16 order).mark? = some mark) (h : mark <+: bytes order cs) :
    cs.head? = some '\uFEFF' := by
  have hmark : mark = bytes order ['\uFEFF'] := by
    cases order with
    | little => exact (Option.some.inj hm).symm
    | big => exact (Option.some.inj hm).symm
  obtain ⟨rest, hrest⟩ := h
  have hread := decode_bytes order cs
  rw [← hrest, hmark, decode, Decoder.feed_append, feed_bytes] at hread
  rw [← hread]
  rfl

end Utf16

end ScriptChannel.Charset
