import ScriptChannel.Proofs.Input.Bookmark
import ScriptChannel.Proofs.Input.Placing

/-!
# A decoding tells its text

If nothing but bytes is to come from a device, nothing but characters is to come from the decoding in
front of it. So the decoding tells the text that its bytes spell, and then that it has ended.
-/

namespace ScriptChannel

namespace Coming
variable {α β : Type}

/-- Nothing but units is to come. -/
def Prompt (xs : Coming α) : Prop := ∃ us, xs = ofUnits us

theorem prompt_ofUnits (us : List α) : (ofUnits us).Prompt := ⟨us, rfl⟩

theorem prompt_nil : Prompt ([] : Coming α) := ⟨[], rfl⟩

theorem Prompt.append {xs ys : Coming α} (h : xs.Prompt) (h' : ys.Prompt) : (xs ++ ys).Prompt := by
  obtain ⟨us, rfl⟩ := h
  obtain ⟨vs, rfl⟩ := h'
  exact ⟨us ++ vs, (ofUnits_append us vs).symm⟩

theorem Prompt.map {xs : Coming α} (h : xs.Prompt) (f : α → β) : (xs.map f).Prompt := by
  obtain ⟨us, rfl⟩ := h
  have hmap := map_ofUnits_append f us []
  rw [List.append_nil] at hmap
  exact ⟨us.map f, hmap.trans (List.append_nil _)⟩

/-- There is no delay in it, nor a failure. -/
theorem Prompt.not_cons {xs ys : Coming α} (h : xs.Prompt) {x : Signal α} (hx : xs = x :: ys) :
    ∃ u, x = .unit u := by
  obtain ⟨us, rfl⟩ := h
  cases us with
  | nil => simp at hx
  | cons u us => exact ⟨u, (List.cons.inj hx).1.symm⟩

end Coming

/-- Where only units are to come a fetch brings some or says that the stream has ended. -/
theorem Fetch.Takes.prompt {α : Type} {n : Nat} {f : Fetch α} {xs ys : Coming α}
    (h : f.Takes n xs ys) (hx : xs.Prompt) :
    (∃ us, f = .got us ∧ us ≠ [] ∧ us.length ≤ n) ∨ f = .ended := by
  cases f with
  | got us => exact .inl ⟨us, rfl, h.1, h.2.1⟩
  | ended => exact .inr rfl
  | wouldBlock =>
    obtain ⟨u, hu⟩ := hx.not_cons h
    exact absurd hu (by simp)
  | failed e =>
    obtain ⟨u, hu⟩ := hx.not_cons h
    exact absurd hu (by simp)

namespace Input

namespace Decoding

theorem prompt_reading (d : Decoding) {xs : Coming UInt8} (h : xs.Prompt) : (d.reading xs).Prompt := by
  obtain ⟨bs, rfl⟩ := h
  unfold reading
  split
  · rename_i state _ _
    have hfeed := state.coming_ofUnits_append bs []
    rw [List.append_nil] at hfeed
    rw [hfeed]
    exact (Coming.prompt_ofUnits _).append (Coming.prompt_ofUnits _)
  · exact ⟨[], by induction bs <;> simp_all [Coming.silence]⟩
  · exact (Coming.prompt_ofUnits bs).map _

theorem prompt_entering (d : Decoding) {xs : Coming UInt8} (h : xs.Prompt) :
    (d.entering xs).Prompt := by
  obtain ⟨bs, rfl⟩ := h
  unfold entering
  split
  · rename_i c _ hc
    obtain ⟨mark, hm⟩ := Encoding.mark_of_markedCharset hc
    rw [Charset.opening_ofUnits hm bs]
    exact Coming.prompt_ofUnits _
  · exact Coming.prompt_ofUnits bs

variable {σ : Type} [ByteSource σ] [ByteStream σ]

theorem prompt_coming {s : Decoding × Rewind × σ} (h : (ByteStream.coming s.2).Prompt) :
    (coming s).Prompt := by
  unfold coming
  refine (Coming.prompt_ofUnits _).append ?_
  split
  · exact Coming.prompt_nil
  · exact prompt_reading _ (prompt_entering _ h)

variable [Stocked σ]

/-- A decoding that has handed up something or is over has begun. -/
theorem Handed.begun {k : Course} {cs : List Char} {s : Decoding × Rewind × σ} (h : Handed k cs s)
    (hs : cs ≠ [] ∨ Over s) : s.1.atStart = false := by
  obtain ⟨used, bs, hacc⟩ := h
  refine Bool.eq_false_iff.2 fun hstart => ?_
  rcases hs with hcs | ⟨hf, -⟩
  · exact hcs (List.append_eq_nil_iff.1 (hacc.nothing hstart)).1
  · obtain ⟨hd, -, -⟩ := hacc.fresh hstart
    simp [hd, init] at hf

/-- The decoding along a course tells the text behind what was read before. If it has not begun, it
starts where `start` says. -/
def telling (k : Course) (before behind : List Char) (start : Prop) :
    Lines.Telling (Decoding × Rewind × σ) where
  text := before ++ behind
  single := k.encoding.isBinary
  handed cs s := ∃ us, cs = before ++ us ∧ Handed k us s ∧
    (k.encoding.bytesPerChar = 1 → s.1.surplus = []) ∧ (s.1.atStart = true → start)
  atEnd := Over
  whole s := k.encoding.bytesPerChar = 1 → s.1.half = []

theorem telling_sound [Settled σ] (hprompt : ∀ s : Rewind × σ, (ByteStream.coming s).Prompt)
    {k : Course} {before behind : List Char} (hp : k.Plain behind) (start : Prop) :
    (telling (σ := σ) k before behind start).Sound where
  begins := by
    rintro cs s ⟨us, rfl, h, -⟩
    have hbegins := h.begins_text
    rw [hp.text_eq] at hbegins
    exact (List.prefix_append_right_inj before).2 hbegins
  ends := by
    rintro cs s ⟨us, rfl, h, -⟩ hover
    have hall := h.eq_text hover
    rw [hp.text_eq] at hall
    obtain ⟨used, hplaced⟩ := h.placed hp
    exact ⟨by rw [hall]; rfl, fun _ => hplaced.finished hover.1⟩
  answers := by
    rintro n cs s hn ⟨us, rfl, h, hsur, -⟩
    have htakes := CharStream.fetch_takes n s hn
    have hanswer := fetch_handed hn h
    have htidy := fun hunit => fetch_tidy hn hp hunit h (hsur hunit)
    have hcoming : (CharStream.coming s).Prompt := prompt_coming (hprompt s.2)
    simp only [CharSource.fetch] at htakes ⊢
    rcases hq : fetch n s with ⟨f, s'⟩
    rw [hq] at htakes hanswer htidy
    rcases htakes.prompt hcoming with ⟨vs, rfl, hvs, hlen⟩ | rfl
    · have hbegun := hanswer.adds.begun (.inl (by simp [Fetch.units, hvs]))
      refine .inl ⟨vs, s', rfl, hvs, hlen, ⟨us ++ vs, by rw [List.append_assoc], hanswer.adds,
        fun hunit => (htidy hunit).1, fun hstart => ?_⟩, ?_⟩
      · exact absurd (hbegun.symm.trans hstart) (by decide)
      · by_cases hunit : k.encoding.bytesPerChar = 1
        · exact ((htidy hunit).2 vs rfl).imp_left fun hhalf _ => hhalf
        · exact .inl fun h1 => absurd h1 hunit
    · have hover := hanswer.finish rfl
      have hsame : Handed k us s' := by simpa [Fetch.units] using hanswer.adds
      refine .inr ⟨s', rfl, ⟨us, rfl, hsame, fun hunit => (htidy hunit).1, fun hstart => ?_⟩, hover⟩
      exact absurd ((hsame.begun (.inr hover)).symm.trans hstart) (by decide)

end Decoding

end Input

end ScriptChannel
