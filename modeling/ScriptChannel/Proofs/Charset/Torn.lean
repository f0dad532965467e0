import ScriptChannel.Proofs.Charset.Utf8
import ScriptChannel.Stream

/-!
# Text between the halves of a character

An end marker that is ASCII never cuts a character. Bytes that come between the first half of a
character and the second tear it: the first half is one replacement character, and every byte of the
second is one.
-/

namespace ScriptChannel

section Marker
variable {m : UInt8} {us : List UInt8}

/-- Bytes without the marker are in front of it. -/
theorem upToMarker_append_of_free (h : m = 0 ∨ m ∉ us) (xs : List UInt8) :
    upToMarker m (us ++ xs) = us ++ upToMarker m xs := by
  by_cases hm : m = 0
  · simp [upToMarker, hm]
  · simp only [upToMarker, if_neg hm]
    apply List.takeWhile_append_of_pos
    intro u hu
    rw [bne_iff_ne]
    rintro rfl
    exact h.elim hm (· hu)

theorem upToMarker_begins (m : UInt8) (bs : List UInt8) : upToMarker m bs <+: bs := by
  unfold upToMarker
  split
  · exact List.prefix_refl bs
  · exact List.takeWhile_prefix _

/-- Of bytes with the marker in front none are in front of it. -/
theorem upToMarker_marker (hm : m ≠ 0) (xs : List UInt8) : upToMarker m (m :: xs) = [] := by
  simp [upToMarker, hm]

end Marker

namespace Charset.Utf8

section Marker
variable {m : UInt8} (hm : m.toNat < 0x80)
include hm

/-- No byte of a character is the marker, unless that is all it is. -/
theorem encode_free (c : Char) : m ∉ encode c ∨ encode c = [m] := by
  by_cases hc : c.toNat < 0x80
  · rw [encode_ascii hc]
    by_cases h : m = .ofNat c.toNat
    · exact .inr (by rw [h])
    · exact .inl (by simpa using h)
  · left
    obtain ⟨b, l, bs, he, hl, hlow, hhigh, ht⟩ := encode_shape (Nat.not_lt.1 hc)
    rw [he]
    intro hmem
    rcases List.mem_cons.1 hmem with rfl | hmem
    · exact (not_isTrail_of_lead hl).1 hm
    · have htrail := ht.isTrail hlow hhigh m hmem
      exact absurd htrail.1 (Nat.not_le.2 hm)

/-- The marker is behind a text or in front of one of its characters, whatever follows. -/
theorem upToMarker_bytes (cs : List Char) :
    (∀ rest, upToMarker m (bytes cs ++ rest) = bytes cs ++ upToMarker m rest) ∨
      ∃ as, as <+: cs ∧ ∀ rest, upToMarker m (bytes cs ++ rest) = bytes as := by
  induction cs with
  | nil => exact .inl fun rest => rfl
  | cons c cs ih =>
    by_cases hfree : m = 0 ∨ m ∉ encode c
    · have hpass : ∀ rest, upToMarker m (bytes (c :: cs) ++ rest) =
          encode c ++ upToMarker m (bytes cs ++ rest) := by
        intro rest
        rw [bytes_cons, List.append_assoc]
        exact upToMarker_append_of_free hfree _
      rcases ih with ih | ⟨as, has, ih⟩
      · left
        intro rest
        rw [hpass, ih, bytes_cons, List.append_assoc]
      · right
        refine ⟨c :: as, (List.cons_prefix_cons).2 ⟨rfl, has⟩, ?_⟩
        intro rest
        rw [hpass, ih, bytes_cons]
    · right
      have hm0 : m ≠ 0 := fun h0 => hfree (.inl h0)
      have hone : encode c = [m] := (encode_free hm c).resolve_left fun h => hfree (.inr h)
      refine ⟨[], List.nil_prefix, ?_⟩
      intro rest
      rw [bytes_cons, hone]
      exact upToMarker_marker hm0 _

/-- What is in front of the marker in a text is a text. -/
theorem exists_upToMarker (cs : List Char) : ∃ as, as <+: cs ∧ upToMarker m (bytes cs) = bytes as := by
  rcases upToMarker_bytes hm cs with h | ⟨as, has, h⟩
  · refine ⟨cs, List.prefix_refl cs, ?_⟩
    have hall := h []
    simpa [upToMarker] using hall
  · refine ⟨as, has, ?_⟩
    have hall := h []
    rwa [List.append_nil] at hall

/-- Neither half of a character has the marker in it. -/
theorem free_of_cut {c : Char} {p q : List UInt8} (h : encode c = p ++ q) (hp : p ≠ [])
    (hq : q ≠ []) : m ∉ p ∧ m ∉ q := by
  have hall := not_ascii_of_cut h hp hq
  constructor
  · intro hmem
    exact absurd (hall m (List.mem_append_left q hmem)) (Nat.not_le.2 hm)
  · intro hmem
    exact absurd (hall m (List.mem_append_right p hmem)) (Nat.not_le.2 hm)

end Marker

/-- The text that a decoder makes of all that follows what it keeps. -/
def readFrom (p bs : List UInt8) : List Char :=
  ((holding p).feed bs).1 ++ ((holding p).feed bs).2.finish.1

theorem readFrom_feed {p half used : List UInt8} {cs : List Char}
    (h : (holding p).feed used = (cs, holding half)) (rest : List UInt8) :
    readFrom p (used ++ rest) = cs ++ readFrom half rest := by
  unfold readFrom
  rw [Decoder.feed_append, h, List.append_assoc]

theorem readFrom_bytes_append (cs : List Char) (rest : List UInt8) :
    readFrom [] (bytes cs ++ rest) = cs ++ readFrom [] rest := by
  have hfeed := feed_bytes cs []
  rw [List.append_nil] at hfeed
  exact readFrom_feed (by simpa [Decoder.feed] using hfeed) rest

theorem readFrom_bytes (cs : List Char) : readFrom [] (bytes cs) = cs := by
  have hall := readFrom_bytes_append cs []
  rw [List.append_nil] at hall
  rw [hall]
  exact List.append_nil cs

section Torn
variable {c : Char} {p q : List UInt8} (h : encode c = p ++ q) (hp : p ≠ []) (hq : q ≠ [])
include h hp hq

/-- The first half of a character in front of a text is one replacement character. -/
theorem readFrom_broken {cs : List Char} (hcs : cs ≠ []) (rest : List UInt8) :
    readFrom p (bytes cs ++ rest) = replacement :: cs ++ readFrom [] rest := by
  cases cs with
  | nil => exact absurd rfl hcs
  | cons d ds =>
    obtain ⟨b, bs, hd, hb⟩ := encode_head d
    have hbroken := feed_broken h hp hq hb (bs ++ bytes ds ++ rest)
    have hbytes : bytes (d :: ds) ++ rest = b :: (bs ++ bytes ds ++ rest) := by
      rw [bytes_cons, hd]
      simp
    have hrest := readFrom_bytes_append (d :: ds) rest
    unfold readFrom at hrest ⊢
    rw [hbytes] at hrest ⊢
    rw [hbroken, List.cons_append, hrest]
    rfl

theorem readFrom_half (cs : List Char) : readFrom p (bytes cs) = replacement :: cs := by
  cases cs with
  | nil =>
    have hpend : (holding p).finish.1 = [replacement] := by
      rw [finish_holding, if_neg hp]
    unfold readFrom
    simpa [Decoder.feed] using hpend
  | cons d ds =>
    have hall := readFrom_broken h hp hq (List.cons_ne_nil d ds) []
    rw [List.append_nil] at hall
    rw [hall]
    exact List.append_nil _

/-- A character with a text between its halves. -/
theorem readFrom_torn {cs : List Char} (hcs : cs ≠ []) (ds : List Char) :
    readFrom p (bytes cs ++ (q ++ bytes ds)) =
      replacement :: cs ++ (List.replicate q.length replacement ++ ds) := by
  have htrails := feed_trails (isTrail_of_cut h hp) []
  rw [readFrom_broken h hp hq hcs]
  congr 1
  rw [readFrom_feed (by simpa [Decoder.feed] using htrails), readFrom_bytes]

omit hp hq in
theorem readFrom_whole (cs ds : List Char) :
    readFrom [] (bytes cs ++ (p ++ (q ++ bytes ds))) = cs ++ c :: ds := by
  have hc : bytes cs ++ (p ++ (q ++ bytes ds)) = bytes (cs ++ c :: ds) := by
    rw [bytes_append, bytes_cons, h, List.append_assoc]
  rw [hc, readFrom_bytes]

end Torn

section Rest
variable {rest : List Char} {half left : List UInt8} (hcut : Cut [] rest half half left)
include hcut

/-- What the decoder keeps need not be handed back if nothing comes in front of it. -/
theorem readFrom_kept {m : UInt8} (hm : m.toNat < 0x80) :
    readFrom half (upToMarker m left) = readFrom [] (upToMarker m (half ++ left)) := by
  have hfeed := readFrom_feed hcut.feed (upToMarker m left)
  have hfree : m ∉ half := by
    cases hcut with
    | between => exact List.not_mem_nil
    | inside c cs _ q hp hq hc => exact (free_of_cut hm hc hp hq).1
  rw [upToMarker_append_of_free (.inr hfree), hfeed]
  rfl

/-- A text that comes in front of it tears the character, in front of the marker or not. -/
theorem readFrom_moved {m : UInt8} (hm : m.toNat < 0x80) {cs : List Char} (hcs : cs ≠ [])
    (hhalf : half ≠ []) :
    (∃ as, readFrom half (upToMarker m (bytes cs ++ left)) = replacement :: as ∧
      readFrom [] (upToMarker m (bytes cs ++ (half ++ left))) = as) ∨
    ∃ n c ds, 0x80 ≤ c.toNat ∧
      readFrom half (upToMarker m (bytes cs ++ left)) =
        replacement :: cs ++ (List.replicate (n + 1) replacement ++ ds) ∧
      readFrom [] (upToMarker m (bytes cs ++ (half ++ left))) = cs ++ c :: ds := by
  cases hcut with
  | between => exact absurd rfl hhalf
  | inside c ds _ q hp hq hc =>
    rcases upToMarker_bytes hm cs with hpass | ⟨as, -, hstop⟩
    · right
      obtain ⟨hfree, hfree'⟩ := free_of_cut hm hc hp hq
      obtain ⟨es, -, hes⟩ := exists_upToMarker hm ds
      obtain ⟨n, hn⟩ : ∃ n, q.length = n + 1 :=
        ⟨q.length - 1, (Nat.succ_pred_eq_of_pos (List.length_pos_iff.2 hq)).symm⟩
      have hhigh : 0x80 ≤ c.toNat := by
        apply Nat.not_lt.1
        intro hlow
        have hlength := congrArg List.length (hc.symm.trans (encode_ascii hlow))
        have hleft := List.length_pos_iff.2 hp
        have hright := List.length_pos_iff.2 hq
        simp only [List.length_append, List.length_singleton] at hlength
        omega
      refine ⟨n, c, es, hhigh, ?_, ?_⟩
      · rw [hpass, upToMarker_append_of_free (.inr hfree'), hes, ← hn]
        exact readFrom_torn hc hp hq hcs es
      · rw [hpass, upToMarker_append_of_free (.inr hfree), upToMarker_append_of_free (.inr hfree'),
          hes]
        exact readFrom_whole hc cs es
    · left
      refine ⟨as, ?_, ?_⟩
      · rw [hstop]
        exact readFrom_half hc hp hq as
      · rw [hstop]
        exact readFrom_bytes as

end Rest

/-- A text is told by its bytes. -/
theorem exists_of_append {cs : List Char} {rest : List UInt8} {ds : List Char}
    (h : bytes cs = bytes ds ++ rest) : ∃ es, cs = ds ++ es ∧ rest = bytes es := by
  have hread := readFrom_bytes_append ds rest
  rw [← h, readFrom_bytes] at hread
  refine ⟨_, hread, ?_⟩
  rw [hread, bytes_append] at h
  exact (List.append_cancel_left h).symm

end Charset.Utf8

end ScriptChannel
