import ScriptChannel.Encoding
import ScriptChannel.Proofs.Charset.Length
import ScriptChannel.Proofs.Coming

/-!
# Decoding signal by signal

A decoder turns the bytes among the signals into characters and lets the others through. In front of
it stands the search for a byte order mark, which has to see up to three bytes before it knows: what
comes between them comes out first.
-/

namespace ScriptChannel

namespace Coming
variable {α β : Type}

/-- Each unit changed. -/
def map (f : α → β) : Coming α → Coming β
  | [] => []
  | .unit a :: xs => .unit (f a) :: map f xs
  | .delay :: xs => .delay :: map f xs
  | .failure e :: xs => .failure e :: map f xs

@[simp] theorem map_ofUnits_append (f : α → β) (us : List α) (xs : Coming α) :
    map f (ofUnits us ++ xs) = ofUnits (us.map f) ++ map f xs := by
  induction us with
  | nil => rfl
  | cons u us ih => simp [map, ih]

@[simp] theorem units_map (f : α → β) (xs : Coming α) : (map f xs).units = xs.units.map f := by
  induction xs with
  | nil => rfl
  | cons x xs ih => cases x <;> simp [map, ih]

@[simp] theorem length_map (f : α → β) (xs : Coming α) : (map f xs).length = xs.length := by
  induction xs with
  | nil => rfl
  | cons x xs ih => cases x <;> simp [map, ih]

/-- The signals with every unit lost. -/
def silence : Coming α → Coming β
  | [] => []
  | .unit _ :: xs => silence xs
  | .delay :: xs => .delay :: silence xs
  | .failure e :: xs => .failure e :: silence xs

theorem silence_ofUnits_append (us : List α) (xs : Coming α) :
    (silence (ofUnits us ++ xs) : Coming β) = silence xs := by
  induction us with
  | nil => rfl
  | cons u us ih => simpa [silence] using ih

theorem length_silence_le (xs : Coming α) : (silence xs : Coming β).length ≤ xs.length := by
  induction xs with
  | nil => exact Nat.le_refl _
  | cons x xs ih =>
    cases x with
    | unit a =>
      simp only [silence, List.length_cons]
      omega
    | delay | failure => simpa [silence] using ih

variable {γ : Type}

@[simp] theorem silence_silence (xs : Coming α) :
    ((silence xs : Coming β).silence : Coming γ) = silence xs := by
  induction xs with
  | nil => rfl
  | cons x xs ih => cases x <;> simp [silence, ih]

@[simp] theorem silence_map (f : α → β) (xs : Coming α) :
    ((map f xs).silence : Coming γ) = silence xs := by
  induction xs with
  | nil => rfl
  | cons x xs ih => cases x <;> simp [map, silence, ih]

/-- No delay is lost with the units, and none comes of them. -/
@[simp] theorem delay_mem_silence {xs : Coming α} : .delay ∈ (silence xs : Coming β) ↔ .delay ∈ xs := by
  induction xs with
  | nil => simp [silence]
  | cons x xs ih => cases x <;> simp [silence, ih]

@[simp] theorem failure_mem_silence {e : IoError} {xs : Coming α} :
    .failure e ∈ (silence xs : Coming β) ↔ .failure e ∈ xs := by
  induction xs with
  | nil => simp [silence]
  | cons x xs ih => cases x <;> simp [silence, ih]

end Coming

namespace Charset

/-- What a decoder makes of what comes to it, and of its end. -/
def Decoder.coming (d : Decoder) : Coming UInt8 → Coming Char
  | [] => Coming.ofUnits d.finish.1
  | .unit b :: xs => Coming.ofUnits (d.feed [b]).1 ++ coming (d.feed [b]).2 xs
  | .delay :: xs => .delay :: coming d xs
  | .failure e :: xs => .failure e :: coming d xs

theorem Decoder.coming_ofUnits_append (d : Decoder) (bs : List UInt8) (xs : Coming UInt8) :
    d.coming (Coming.ofUnits bs ++ xs) =
      Coming.ofUnits (d.feed bs).1 ++ (d.feed bs).2.coming xs := by
  induction bs generalizing d with
  | nil => rfl
  | cons b bs ih =>
    have happ := d.feed_append [b] bs
    rw [Coming.ofUnits_cons, List.cons_append, coming, ih, ← List.append_assoc,
      ← Coming.ofUnits_append]
    rw [List.cons_append, List.nil_append] at happ
    rw [happ]

/-- Whatever comes between the bytes, they make the same characters. -/
theorem Decoder.units_coming (d : Decoder) (xs : Coming UInt8) :
    (d.coming xs).units = (d.feed xs.units).1 ++ (d.feed xs.units).2.finish.1 := by
  induction xs generalizing d with
  | nil => simp [coming, feed]
  | cons x xs ih =>
    cases x with
    | unit b =>
      have happ := d.feed_append [b] (Coming.units xs)
      rw [List.singleton_append] at happ
      simp [coming, ih, happ]
    | delay | failure => simpa [coming] using ih d

/-- A decoder lets everything but bytes through, and adds nothing of the kind. -/
theorem Decoder.silence_coming {β : Type} (d : Decoder) (xs : Coming UInt8) :
    ((d.coming xs).silence : Coming β) = xs.silence := by
  have hunits : ∀ us : List Char, ((Coming.ofUnits us).silence : Coming β) = [] := fun us => by
    simpa [Coming.silence] using Coming.silence_ofUnits_append us []
  induction xs generalizing d with
  | nil => exact hunits _
  | cons x xs ih =>
    cases x with
    | unit b => simpa [coming, Coming.silence, Coming.silence_ofUnits_append] using ih _
    | delay | failure => simp [coming, Coming.silence, ih]

theorem Decoder.length_coming_le (d : Decoder) (xs : Coming UInt8) :
    (d.coming xs).length ≤ d.pending.length + xs.length := by
  induction xs generalizing d with
  | nil => simpa [coming] using d.length_finish_le
  | cons x xs ih =>
    cases x with
    | unit b =>
      have hfeed := d.length_feed_le [b]
      have hrest := ih (d.feed [b]).2
      simp only [List.length_cons, List.length_nil] at hfeed
      simp only [coming, List.length_append, Coming.length_ofUnits, List.length_cons]
      omega
    | delay | failure =>
      have hrest := ih d
      simp only [coming, List.length_cons]
      omega

/-- Bytes that begin with the mark of a set begin with some bytes that are its mark. -/
theorem ofMark?_eq_some {bs : List UInt8} {c : Charset} (h : ofMark? bs = some c) :
    ∃ mark, c.mark? = some mark ∧ mark ≠ [] ∧ mark <+: bs := by
  have hmem := List.mem_of_find?_eq_some h
  have hpre := List.find?_some h
  simp only [marked, List.mem_cons, List.not_mem_nil, or_false] at hmem
  rcases hmem with rfl | rfl | rfl
  all_goals exact ⟨_, rfl, by simp, List.isPrefixOf_iff_prefix.1 hpre⟩

/-- No mark begins as another does. -/
theorem eq_of_marks {c c' : Charset} {mark mark' bs : List UInt8} (h : c.mark? = some mark)
    (h' : c'.mark? = some mark') (hp : mark <+: bs) (hp' : mark' <+: bs) : c = c' := by
  obtain ⟨r, rfl⟩ := hp
  obtain ⟨r', hr'⟩ := hp'
  cases c with
  | utf8 =>
    obtain rfl := Option.some.inj h
    cases c' with
    | utf8 => rfl
    | utf16 e' => cases e' <;> obtain rfl := Option.some.inj h' <;> simp at hr'
    | _ => simp [mark?] at h'
  | utf16 e =>
    cases c' with
    | utf8 =>
      obtain rfl := Option.some.inj h'
      cases e <;> obtain rfl := Option.some.inj h <;> simp at hr'
    | utf16 e' =>
      cases e <;> cases e' <;> obtain rfl := Option.some.inj h <;>
        obtain rfl := Option.some.inj h' <;> simp_all
    | _ => simp [mark?] at h'
  | _ => simp [mark?] at h

theorem mem_marked {c : Charset} {mark : List UInt8} (h : c.mark? = some mark) : c ∈ marked := by
  cases c with
  | utf8 => simp [marked]
  | utf16 e => cases e <;> simp [marked]
  | _ => simp [mark?] at h

/-- Bytes begin with the mark of one set at most. -/
theorem ofMark?_eq_some_iff {c : Charset} {mark : List UInt8} (h : c.mark? = some mark)
    (bs : List UInt8) : ofMark? bs = some c ↔ mark <+: bs := by
  constructor
  · intro hc
    obtain ⟨mark', hmark', -, hpre⟩ := ofMark?_eq_some hc
    rw [h] at hmark'
    rwa [Option.some.inj hmark']
  · intro hpre
    cases hf : ofMark? bs with
    | some c' =>
      obtain ⟨mark', hmark', -, hpre'⟩ := ofMark?_eq_some hf
      rw [eq_of_marks h hmark' hpre hpre']
    | none =>
      have hnot := List.find?_eq_none.1 hf c (mem_marked h)
      rw [h, Option.getD_some, List.isPrefixOf_iff_prefix] at hnot
      exact absurd hpre hnot

/-- Bytes from the start of a stream without the mark of a set, if they begin with it. -/
def withoutMark (c : Charset) (bs : List UInt8) : List UInt8 :=
  if ofMark? bs = some c then bs.drop (c.mark?.getD []).length else bs

/-- More bytes are awaited that could make these a mark. -/
def awaitsMark (bs : List UInt8) : Bool := (ofMark? bs).isNone && couldBecomeMark bs

/-- The signals after the search for the mark of a set, which has seen some bytes already. -/
def opening (c : Charset) : List UInt8 → Coming UInt8 → Coming UInt8
  | seen, [] => Coming.ofUnits (c.withoutMark seen)
  | seen, .unit b :: xs =>
    if seen.length + 1 < 3 then opening c (seen ++ [b]) xs
    else Coming.ofUnits (c.withoutMark (seen ++ [b])) ++ xs
  | seen, .delay :: xs =>
    if awaitsMark seen then .delay :: opening c seen xs
    else Coming.ofUnits (c.withoutMark seen) ++ xs
  | seen, .failure e :: xs => .failure e :: opening c seen xs

/-- Fewer than three bytes decide nothing. -/
theorem opening_ofUnits_append (c : Charset) {seen bs : List UInt8}
    (h : seen.length + bs.length < 3) (xs : Coming UInt8) :
    c.opening seen (Coming.ofUnits bs ++ xs) = c.opening (seen ++ bs) xs := by
  induction bs generalizing seen with
  | nil => simp
  | cons b bs ih =>
    simp only [List.length_cons] at h
    rw [Coming.ofUnits_cons, List.cons_append, opening, if_pos (by omega),
      ih (by simp only [List.length_append, List.length_singleton]; omega), List.append_assoc]
    rfl

/-- Three bytes decide. -/
theorem opening_of_three (c : Charset) {bs : List UInt8} (h : bs.length = 3) (xs : Coming UInt8) :
    c.opening [] (Coming.ofUnits bs ++ xs) = Coming.ofUnits (c.withoutMark bs) ++ xs := by
  match bs, h with
  | [a, b, d], _ =>
    have hshort : ([] : List UInt8).length + [a, b].length < 3 := by simp
    have htwo := c.opening_ofUnits_append hshort (.unit d :: xs)
    simp only [Coming.ofUnits_cons, Coming.ofUnits_nil, List.cons_append, List.nil_append] at htwo ⊢
    rw [htwo]
    rfl

theorem withoutMark_of_marked {c : Charset} {mark bs : List UInt8} (h : c.mark? = some mark)
    (hp : mark <+: bs) : c.withoutMark bs = bs.drop mark.length := by
  rw [withoutMark, if_pos ((ofMark?_eq_some_iff h bs).2 hp), h, Option.getD_some]

theorem withoutMark_of_unmarked {c : Charset} {mark bs : List UInt8} (h : c.mark? = some mark)
    (hp : ¬ mark <+: bs) : c.withoutMark bs = bs :=
  if_neg fun hc => hp ((ofMark?_eq_some_iff h bs).1 hc)

theorem length_mark_le {c : Charset} {mark : List UInt8} (h : c.mark? = some mark) :
    mark.length ≤ 3 := by
  cases c with
  | utf8 =>
    obtain rfl := Option.some.inj h
    exact Nat.le_refl 3
  | utf16 e => cases e <;> obtain rfl := Option.some.inj h <;> decide
  | _ => simp [mark?] at h

/-- What stands behind three bytes has no part in a mark. -/
theorem withoutMark_append {c : Charset} {mark bs : List UInt8} (h : c.mark? = some mark)
    (hbs : bs.length = 3) (rest : List UInt8) :
    c.withoutMark (bs ++ rest) = c.withoutMark bs ++ rest := by
  have hle := length_mark_le h
  by_cases hp : mark <+: bs
  · rw [withoutMark_of_marked h hp, withoutMark_of_marked h (hp.trans (List.prefix_append bs rest)),
      List.drop_append_of_le_length hp.length_le]
  · have hp' : ¬ mark <+: bs ++ rest := fun hall =>
      hp (List.prefix_of_prefix_length_le hall (List.prefix_append bs rest) (by omega))
    rw [withoutMark_of_unmarked h hp, withoutMark_of_unmarked h hp']

/-- Bytes that no more bytes are awaited for have their mark, or have none. -/
theorem withoutMark_append_of_decided {c : Charset} {mark bs : List UInt8} (h : c.mark? = some mark)
    (hbs : awaitsMark bs = false) (rest : List UInt8) :
    c.withoutMark (bs ++ rest) = c.withoutMark bs ++ rest := by
  by_cases hp : mark <+: bs
  · rw [withoutMark_of_marked h hp, withoutMark_of_marked h (hp.trans (List.prefix_append bs rest)),
      List.drop_append_of_le_length hp.length_le]
  · have hp' : ¬ mark <+: bs ++ rest := by
      intro hall
      cases hm : ofMark? bs with
      | some c' =>
        -- the mark of another set stands there
        obtain ⟨mark', hmark', -, hpre⟩ := ofMark?_eq_some hm
        obtain rfl := eq_of_marks h hmark' hall (hpre.trans (List.prefix_append bs rest))
        exact hp ((ofMark?_eq_some_iff h bs).1 hm)
      | none =>
        have hshort : bs <+: mark :=
          (List.prefix_or_prefix_of_prefix hall (List.prefix_append bs rest)).resolve_left hp
        have hlt : bs.length < mark.length := by
          rcases Nat.lt_or_ge bs.length mark.length with hlt | hge
          · exact hlt
          · exact absurd (List.prefix_of_prefix_length_le hall (List.prefix_append bs rest) hge) hp
        have hcould : couldBecomeMark bs = true := by
          refine List.any_eq_true.2 ⟨c, mem_marked h, ?_⟩
          simp [h, hlt, List.isPrefixOf_iff_prefix.2 hshort]
        simp [awaitsMark, hm, hcould] at hbs
    rw [withoutMark_of_unmarked h hp, withoutMark_of_unmarked h hp']

/-- Whatever comes between the bytes, they lose the same mark. -/
theorem units_opening {c : Charset} {mark : List UInt8} (h : c.mark? = some mark)
    {seen : List UInt8} (hseen : seen.length < 3) (xs : Coming UInt8) :
    (c.opening seen xs).units = c.withoutMark (seen ++ xs.units) := by
  induction xs generalizing seen with
  | nil => simp [opening]
  | cons x xs ih =>
    cases x with
    | unit b =>
      have hcons : seen ++ b :: Coming.units xs = (seen ++ [b]) ++ Coming.units xs :=
        List.append_cons seen b _
      rw [Coming.units_unit, hcons, opening]
      split
      · exact ih (by simp only [List.length_append, List.length_singleton]; omega)
      · have hthree : (seen ++ [b]).length = 3 := by
          simp only [List.length_append, List.length_singleton]
          omega
        rw [withoutMark_append h hthree, Coming.units_append, Coming.units_ofUnits]
    | delay =>
      simp only [opening, Coming.units_delay]
      split
      · exact ih hseen
      · rw [withoutMark_append_of_decided h (Bool.eq_false_iff.2 ‹_›), Coming.units_append,
          Coming.units_ofUnits]
    | failure e => exact ih hseen

/-- A stream that is all there loses its mark. -/
theorem opening_ofUnits {c : Charset} {mark : List UInt8} (h : c.mark? = some mark)
    (bs : List UInt8) : c.opening [] (Coming.ofUnits bs) = Coming.ofUnits (c.withoutMark bs) := by
  by_cases hlen : bs.length < 3
  · have hshort : ([] : List UInt8).length + bs.length < 3 := by simpa using hlen
    have hall := c.opening_ofUnits_append hshort []
    simpa [opening] using hall
  · have hthree : (bs.take 3).length = 3 := by
      rw [List.length_take]
      omega
    have hfront := c.opening_of_three hthree (Coming.ofUnits (bs.drop 3))
    rwa [← Coming.ofUnits_append, ← Coming.ofUnits_append, List.take_append_drop,
      ← withoutMark_append h hthree, List.take_append_drop] at hfront

/-- Nothing but delays is lost in the search. -/
theorem silence_opening {β : Type} (c : Charset) (seen : List UInt8) (xs : Coming UInt8) :
    ((c.opening seen xs).silence : Coming β).Sublist xs.silence := by
  induction xs generalizing seen with
  | nil =>
    have hempty : ((c.opening seen []).silence : Coming β) = Coming.silence ([] : Coming UInt8) := by
      rw [opening, ← List.append_nil (Coming.ofUnits _), Coming.silence_ofUnits_append]
    exact hempty ▸ List.Sublist.refl _
  | cons x xs ih =>
    cases x with
    | unit b =>
      rw [opening]
      split
      · exact ih _
      · rw [Coming.silence_ofUnits_append]
        exact List.Sublist.refl _
    | delay =>
      rw [opening]
      split
      · exact (ih seen).cons_cons _
      · rw [Coming.silence_ofUnits_append]
        exact List.sublist_cons_self _ _
    | failure e => exact (ih seen).cons_cons _

theorem length_withoutMark_le (c : Charset) (bs : List UInt8) :
    (c.withoutMark bs).length ≤ bs.length := by
  unfold withoutMark
  split
  · rw [List.length_drop]
    exact Nat.sub_le _ _
  · exact Nat.le_refl _

theorem length_opening_le (c : Charset) (seen : List UInt8) (xs : Coming UInt8) :
    (c.opening seen xs).length ≤ seen.length + xs.length := by
  induction xs generalizing seen with
  | nil => simpa [opening] using c.length_withoutMark_le seen
  | cons x xs ih =>
    cases x with
    | unit b =>
      have hmore := ih (seen ++ [b])
      have hdone := c.length_withoutMark_le (seen ++ [b])
      simp only [List.length_append, List.length_singleton] at hmore hdone
      simp only [opening, List.length_cons]
      split
      · omega
      · simp only [List.length_append, Coming.length_ofUnits]
        omega
    | delay =>
      have hmore := ih seen
      have hdone := c.length_withoutMark_le seen
      simp only [opening, List.length_cons]
      split
      · simp only [List.length_cons]
        omega
      · simp only [List.length_append, Coming.length_ofUnits]
        omega
    | failure e =>
      have hmore := ih seen
      simp only [opening, List.length_cons]
      omega

end Charset

end ScriptChannel
