import ScriptChannel.Proofs.Charset.Utf16
import ScriptChannel.Proofs.Charset.Utf8

/-!
# Sets that spell each character by itself

In UTF-8 and in UTF-16 every character has bytes of its own, and a decoder says it when the last of
them is there and not before. Fed a text up to any byte, it has said the characters that are whole
and keeps the beginning of the next one.
-/

namespace ScriptChannel.Charset

namespace Decoder

/-- Bytes none of which tells anything yet are all kept. -/
theorem feed_of_proper {d : Decoder} (hs : d.spent = false) {bs : List UInt8}
    (h : ∀ p q, bs = p ++ q → p ≠ [] → (d.charset.scan d.shift (d.pending ++ p)).1 = .incomplete) :
    d.feed bs = ([], { d with pending := d.pending ++ bs }) := by
  induction bs generalizing d with
  | nil => simp [feed]
  | cons b bs ih =>
    have hstep := step_of_incomplete (h [b] bs rfl (List.cons_ne_nil b []))
    rw [feed, if_neg (by simp [hs]), hstep]
    dsimp only
    rw [ih (d := { d with pending := d.pending ++ [b] }) hs]
    · simp
    · intro p q hpq hp
      have hlonger := h (b :: p) q (by rw [hpq, List.cons_append]) (List.cons_ne_nil b p)
      rwa [List.append_assoc]

end Decoder

/-- A decoder of the set that keeps these bytes. -/
def keeping (c : Charset) (half : List UInt8) : Decoder := { c.decoder with pending := half }

/-- Every character has bytes of its own: the beginning of them is kept, and with the rest of them
the character is said. -/
structure SpellsBy (c : Charset) (spell : Char → List UInt8) : Prop where
  ne_nil (x : Char) : spell x ≠ []
  begun {x : Char} {p r q : List UInt8} (h : spell x = p ++ r ++ q) (hq : q ≠ []) :
    (c.keeping p).feed r = ([], c.keeping (p ++ r))
  whole {x : Char} {p q : List UInt8} (h : spell x = p ++ q) (hq : q ≠ []) :
    (c.keeping p).feed q = ([x], c.keeping [])
  finish : (c.keeping []).finish = ([], { c.keeping [] with spent := true })

theorem spellsBy_utf8 : Charset.utf8.SpellsBy Utf8.encode where
  ne_nil := Utf8.encode_ne_nil
  begun h hq := Utf8.feed_proper h hq
  whole h hq := Utf8.feed_rest h hq
  finish := rfl

theorem spellsBy_utf16 (order : Utf16.ByteOrder) :
    (Charset.utf16 order).SpellsBy (Utf16.encode order) where
  ne_nil x := (Utf16.spelled_encode order x).ne_nil
  begun {x p r q} h hq := by
    refine Decoder.feed_of_proper rfl fun p' q' hr _ => ?_
    refine (Utf16.spelled_encode order x).scan_proper (p := p ++ p') (q := q' ++ q) ?_ (by simp [hq])
    rw [h, hr]
    simp only [List.append_assoc]
  whole {x p q} h hq := by
    have hspelled := Utf16.spelled_encode order x
    refine Decoder.feed_of_whole rfl hq (fun p' q' hr hq' => ?_) ?_
    · refine hspelled.scan_proper (p := p ++ p') ?_ hq'
      rw [h, hr, List.append_assoc]
    · have hscan := hspelled.scan
      rw [h] at hscan
      exact congrArg (·, Shift.plain) hscan
  finish := rfl

/-- How the bytes of a text are cut: the characters before the cut, and of the next one its
beginning at most. -/
structure Parts (spell : Char → List UInt8) (text : List Char) (bs more : List UInt8)
    (before behind : List Char) (half : List UInt8) : Prop where
  all : text = before ++ behind
  used : bs = before.flatMap spell ++ half
  left : half ++ more = behind.flatMap spell
  proper : half ≠ [] → ∃ x xs q, behind = x :: xs ∧ spell x = half ++ q ∧ q ≠ []

section Parts
variable {spell : Char → List UInt8}

/-- Any cut cuts one character at most. -/
theorem exists_parts {text : List Char} {bs more : List UInt8} (h : text.flatMap spell = bs ++ more) :
    ∃ before behind half, Parts spell text bs more before behind half := by
  induction text generalizing bs with
  | nil =>
    obtain ⟨rfl, rfl⟩ := List.append_eq_nil_iff.1 h.symm
    exact ⟨[], [], [], rfl, rfl, rfl, fun hne => absurd rfl hne⟩
  | cons x xs ih =>
    rw [List.flatMap_cons] at h
    rcases List.append_eq_append_iff.1 h with ⟨rest, rfl, hrest⟩ | ⟨q, hx, rfl⟩
    · obtain ⟨before, behind, half, htext, hbefore, hbehind, hproper⟩ := ih hrest
      refine ⟨x :: before, behind, half, ?_, ?_, hbehind, hproper⟩
      · rw [htext, List.cons_append]
      · rw [hbefore, List.flatMap_cons, List.append_assoc]
    · by_cases hq : q = []
      · rw [hq, List.append_nil] at hx
        refine ⟨[x], xs, [], rfl, ?_, ?_, fun hne => absurd rfl hne⟩
        · simp [hx]
        · rw [hq, List.nil_append, List.nil_append]
      · refine ⟨[], x :: xs, bs, rfl, rfl, ?_, fun _ => ⟨x, xs, q, rfl, hx, hq⟩⟩
        rw [List.flatMap_cons, hx, List.append_assoc]

variable {text : List Char} {bs more : List UInt8} {before behind : List Char} {half : List UInt8}

/-- Up to the end of the text no character is cut. -/
theorem Parts.half_of_end (h : Parts spell text bs [] before behind half) : half = [] := by
  by_cases hne : half = []
  · exact hne
  · obtain ⟨x, xs, q, rfl, hx, hq⟩ := h.proper hne
    have hall := h.left
    rw [List.append_nil, List.flatMap_cons, hx, List.append_assoc] at hall
    exact absurd (List.append_eq_nil_iff.1 (List.self_eq_append_right.1 hall)).1 hq

/-- A text has no more characters than bytes. -/
theorem SpellsBy.length_le {c : Charset} (hc : c.SpellsBy spell) (xs : List Char) :
    xs.length ≤ (xs.flatMap spell).length := by
  induction xs with
  | nil => exact Nat.le_refl 0
  | cons x xs ih =>
    have hx := List.length_pos_iff.2 (hc.ne_nil x)
    rw [List.flatMap_cons, List.length_append, List.length_cons]
    omega

/-- Nor are there more of them behind the cut than there are bytes left. -/
theorem Parts.length_le_left {c : Charset} (hc : c.SpellsBy spell)
    (h : Parts spell text bs more before behind half) : behind.length ≤ more.length := by
  have hleft := h.left
  by_cases hne : half = []
  · rw [hne, List.nil_append] at hleft
    rw [hleft]
    exact hc.length_le behind
  · obtain ⟨x, xs, q, rfl, hx, hq⟩ := h.proper hne
    rw [List.flatMap_cons, hx, List.append_assoc] at hleft
    have hxs := hc.length_le xs
    have hq := List.length_pos_iff.2 hq
    rw [List.append_cancel_left hleft, List.length_append, List.length_cons]
    omega

/-- More bytes than characters come to the cut next, and as many if that cuts none. -/
theorem Parts.length_le {c : Charset} (hc : c.SpellsBy spell)
    (h : Parts spell text bs more before behind half) {us more' : List UInt8} {new behind' : List Char}
    {half' : List UInt8} (h' : Parts spell text (bs ++ us) more' (before ++ new) behind' half')
    (hnew : new ≠ []) : new.length + half'.length ≤ us.length := by
  have hbytes : half ++ us = new.flatMap spell ++ half' := by
    have hall := h'.used
    rw [h.used, List.flatMap_append, List.append_assoc, List.append_assoc] at hall
    exact List.append_cancel_left hall
  have hbehind : behind = new ++ behind' := by
    have hall := h'.all
    rw [h.all, List.append_assoc] at hall
    exact List.append_cancel_left hall
  have hlen := congrArg List.length hbytes
  simp only [List.length_append] at hlen
  cases new with
  | nil => exact absurd rfl hnew
  | cons x xs =>
    have hxs := hc.length_le xs
    -- the first of the new characters takes all that was kept and a byte more
    have hx : half.length < (spell x).length := by
      by_cases hne : half = []
      · rw [hne]
        exact List.length_pos_iff.2 (hc.ne_nil x)
      · obtain ⟨y, ys, q, hy, hspell, hq⟩ := h.proper hne
        rw [hbehind, List.cons_append] at hy
        rw [(List.cons.inj hy).1, hspell, List.length_append]
        have hq := List.length_pos_iff.2 hq
        omega
    rw [List.flatMap_cons, List.length_append] at hlen
    rw [List.length_cons]
    omega

end Parts

section Feed
variable {c : Charset} {spell : Char → List UInt8} (hc : c.SpellsBy spell)
include hc

theorem SpellsBy.feed_text (text : List Char) :
    (c.keeping []).feed (text.flatMap spell) = (text, c.keeping []) := by
  induction text with
  | nil => rfl
  | cons x xs ih =>
    have hx := hc.whole (p := []) (x := x) (List.nil_append _).symm (hc.ne_nil x)
    rw [List.flatMap_cons, Decoder.feed_append, hx, ih]
    rfl

/-- Up to a cut the characters before it have been said, and what is cut off is kept. -/
theorem SpellsBy.feed {text : List Char} {bs more : List UInt8} {before behind : List Char}
    {half : List UInt8} (h : Parts spell text bs more before behind half) :
    (c.keeping []).feed bs = (before, c.keeping half) := by
  rw [h.used, Decoder.feed_append, hc.feed_text]
  by_cases hne : half = []
  · simp [hne, Decoder.feed]
  · obtain ⟨x, xs, q, -, hx, hq⟩ := h.proper hne
    have hbegun := hc.begun (p := []) (r := half) (q := q) (x := x) hx hq
    rw [hbegun, List.append_nil]
    rfl

/-- From one cut to the next the characters between them are said. -/
theorem SpellsBy.feed_between {text : List Char} {bs us more more' : List UInt8}
    {before behind behind' new : List Char} {half half' : List UInt8}
    (h : Parts spell text bs more before behind half)
    (h' : Parts spell text (bs ++ us) more' (before ++ new) behind' half') :
    (c.keeping half).feed us = (new, c.keeping half') := by
  have hall := hc.feed h'
  rw [Decoder.feed_append, hc.feed h] at hall
  obtain ⟨hsaid, hkept⟩ := Prod.mk.inj hall
  exact Prod.ext (List.append_cancel_left hsaid) hkept

end Feed

/-- Seen from a cut, the text begins with the character that it cuts. -/
theorem Parts.behind_cut {spell : Char → List UInt8} {text before behind : List Char}
    {bs more half : List UInt8} (h : Parts spell text bs more before behind half) :
    Parts spell behind half more [] behind half :=
  ⟨rfl, rfl, h.left, h.proper⟩

end ScriptChannel.Charset
