import ScriptChannel.Charset.Decoder

/-!
# UTF-8 there and back

The bytes of a character are read as that character, and none of their proper beginnings as anything.
A beginning that goes on otherwise is one replacement character, and so is every byte that was to go
on and has nothing to go on from. Text cut between two bytes is cut inside one character at most.
-/

namespace ScriptChannel.Charset.Utf8

/-- A byte that goes on with a sequence. -/
def IsTrail (b : UInt8) : Prop := 0x80 ≤ b.toNat ∧ b.toNat < 0xC0

/-- Bytes that go on with a sequence, from what those before them have made to what all of them
make. -/
def Trails : (count low high value : Nat) → List UInt8 → Nat → Prop
  | 0, _, _, value, [], n => value = n
  | k + 1, low, high, value, b :: bs, n =>
    (low ≤ b.toNat ∧ b.toNat ≤ high) ∧ Trails k 0x80 0xBF (value * 64 + (b.toNat - 0x80)) bs n
  | _, _, _, _, _, _ => False

section Trails
variable {k low high value n : Nat}

theorem Trails.isTrail {bs : List UInt8} (hl : 0x80 ≤ low) (hh : high ≤ 0xBF)
    (h : Trails k low high value bs n) : ∀ b ∈ bs, IsTrail b := by
  induction bs generalizing k low high value with
  | nil => simp
  | cons b bs ih =>
    cases k with
    | zero => exact h.elim
    | succ k =>
      obtain ⟨hb, hrest⟩ := h
      intro x hx
      rcases List.mem_cons.1 hx with rfl | hx
      · exact ⟨by omega, by omega⟩
      · exact ih (Nat.le_refl _) (Nat.le_refl _) hrest x hx

theorem scanTrails_whole {bs : List UInt8} (h : Trails k low high value bs n) (count : Nat)
    (rest : List UInt8) :
    scanTrails k low high count value (bs ++ rest) = .taken (count + bs.length) [Char.ofNat n] := by
  induction bs generalizing k low high value count with
  | nil =>
    cases k with
    | zero =>
      rw [show value = n from h]
      rfl
    | succ k => exact h.elim
  | cons b bs ih =>
    cases k with
    | zero => exact h.elim
    | succ k =>
      obtain ⟨hb, hrest⟩ := h
      rw [List.cons_append, scanTrails, if_pos hb, ih hrest, List.length_cons]
      congr 1
      omega

theorem scanTrails_proper {bs cs : List UInt8} (hcs : cs ≠ [])
    (h : Trails k low high value (bs ++ cs) n) (count : Nat) :
    scanTrails k low high count value bs = .incomplete := by
  induction bs generalizing k low high value count with
  | nil =>
    cases k with
    | zero =>
      cases cs with
      | nil => exact absurd rfl hcs
      | cons c cs => exact h.elim
    | succ k => rfl
  | cons b bs ih =>
    cases k with
    | zero => exact h.elim
    | succ k =>
      obtain ⟨hb, hrest⟩ := h
      rw [scanTrails, if_pos hb]
      exact ih hrest _

theorem scanTrails_broken {bs cs : List UInt8} (hcs : cs ≠ []) (hl : 0x80 ≤ low) (hh : high ≤ 0xBF)
    (h : Trails k low high value (bs ++ cs) n) {x : UInt8} (hx : ¬ IsTrail x) (count : Nat)
    (rest : List UInt8) :
    scanTrails k low high count value (bs ++ x :: rest) = .malformed (count + bs.length) := by
  induction bs generalizing k low high value count with
  | nil =>
    cases k with
    | zero =>
      cases cs with
      | nil => exact absurd rfl hcs
      | cons c cs => exact h.elim
    | succ k =>
      have hout : ¬ (low ≤ x.toNat ∧ x.toNat ≤ high) := by
        rintro ⟨hlow, hhigh⟩
        exact hx ⟨by omega, by omega⟩
      rw [List.nil_append, scanTrails, if_neg hout]
      rfl
  | cons b bs ih =>
    cases k with
    | zero => exact h.elim
    | succ k =>
      obtain ⟨hb, hrest⟩ := h
      rw [List.cons_append, scanTrails, if_pos hb, ih (Nat.le_refl _) (Nat.le_refl _) hrest,
        List.length_cons]
      congr 1
      omega

end Trails

theorem toNat_ofNat {n : Nat} (h : n < 256) : (UInt8.ofNat n).toNat = n := by
  rw [UInt8.toNat_ofNat']
  exact Nat.mod_eq_of_lt h

theorem encode_ascii {c : Char} (h : c.toNat < 0x80) : encode c = [.ofNat c.toNat] := by
  simp [encode, h]

/-- The shape of a sequence of more than one byte. -/
theorem encode_shape {c : Char} (h : 0x80 ≤ c.toNat) :
    ∃ b l bs, encode c = b :: bs ∧ lead? b.toNat = some l ∧ 0x80 ≤ l.low ∧ l.high ≤ 0xBF ∧
      Trails l.trails l.low l.high l.value bs c.toNat := by
  have hvalid : c.toNat < 0xD800 ∨ 0xDFFF < c.toNat ∧ c.toNat < 0x110000 := c.valid
  have h0 : ¬ c.toNat < 0x80 := by omega
  simp only [encode, if_neg h0]
  generalize c.toNat = n at *
  by_cases h2 : n < 0x800
  · rw [if_pos h2]
    have hb : (UInt8.ofNat (0xC0 + n / 64)).toNat = 0xC0 + n / 64 := toNat_ofNat (by omega)
    have ht : (UInt8.ofNat (0x80 + n % 64)).toNat = 0x80 + n % 64 := toNat_ofNat (by omega)
    refine ⟨_, ⟨1, 0x80, 0xBF, n / 64⟩, _, rfl, ?_, Nat.le_refl _, Nat.le_refl _, ?_⟩
    · rw [hb, lead?, if_neg (by omega), if_pos (by omega), Nat.add_sub_cancel_left]
    · simp only [Trails, ht]
      omega
  rw [if_neg h2]
  by_cases h3 : n < 0x10000
  · rw [if_pos h3]
    have hb : (UInt8.ofNat (0xE0 + n / 4096)).toNat = 0xE0 + n / 4096 := toNat_ofNat (by omega)
    have ht : (UInt8.ofNat (0x80 + n / 64 % 64)).toNat = 0x80 + n / 64 % 64 := toNat_ofNat (by omega)
    have ht' : (UInt8.ofNat (0x80 + n % 64)).toNat = 0x80 + n % 64 := toNat_ofNat (by omega)
    by_cases he : n / 4096 = 0
    · refine ⟨_, ⟨2, 0xA0, 0xBF, 0⟩, _, rfl, ?_, by decide, by decide, ?_⟩
      · rw [hb, he]
        rfl
      · simp only [Trails, ht, ht']
        omega
    by_cases hd : n / 4096 = 0xD
    · refine ⟨_, ⟨2, 0x80, 0x9F, 0xD⟩, _, rfl, ?_, by decide, by decide, ?_⟩
      · rw [hb, hd]
        rfl
      · simp only [Trails, ht, ht']
        omega
    · refine ⟨_, ⟨2, 0x80, 0xBF, n / 4096⟩, _, rfl, ?_, Nat.le_refl _, Nat.le_refl _, ?_⟩
      · rw [hb, lead?, if_neg (by omega), if_neg (by omega), if_neg (by omega), if_neg (by omega),
          if_pos (by omega), Nat.add_sub_cancel_left]
      · simp only [Trails, ht, ht']
        omega
  rw [if_neg h3]
  have hb : (UInt8.ofNat (0xF0 + n / 262144)).toNat = 0xF0 + n / 262144 := toNat_ofNat (by omega)
  have ht : (UInt8.ofNat (0x80 + n / 4096 % 64)).toNat = 0x80 + n / 4096 % 64 :=
    toNat_ofNat (by omega)
  have ht' : (UInt8.ofNat (0x80 + n / 64 % 64)).toNat = 0x80 + n / 64 % 64 := toNat_ofNat (by omega)
  have ht'' : (UInt8.ofNat (0x80 + n % 64)).toNat = 0x80 + n % 64 := toNat_ofNat (by omega)
  by_cases hf : n / 262144 = 0
  · refine ⟨_, ⟨3, 0x90, 0xBF, 0⟩, _, rfl, ?_, by decide, by decide, ?_⟩
    · rw [hb, hf]
      rfl
    · simp only [Trails, ht, ht', ht'']
      omega
  by_cases h4 : n / 262144 = 4
  · refine ⟨_, ⟨3, 0x80, 0x8F, 4⟩, _, rfl, ?_, by decide, by decide, ?_⟩
    · rw [hb, h4]
      rfl
    · simp only [Trails, ht, ht', ht'']
      omega
  · refine ⟨_, ⟨3, 0x80, 0xBF, n / 262144⟩, _, rfl, ?_, Nat.le_refl _, Nat.le_refl _, ?_⟩
    · rw [hb, lead?, if_neg (by omega), if_neg (by omega), if_neg (by omega), if_neg (by omega),
        if_neg (by omega), if_neg (by omega), if_pos (by omega), Nat.add_sub_cancel_left]
    · simp only [Trails, ht, ht', ht'']
      omega

theorem not_isTrail_of_lead {b : UInt8} {l : Lead} (h : lead? b.toNat = some l) :
    ¬ b.toNat < 0x80 ∧ ¬ IsTrail b := by
  have hb : ¬ b.toNat < 0xC2 := by
    intro hlt
    rw [lead?, if_pos hlt] at h
    cases h
  refine ⟨by omega, ?_⟩
  rintro ⟨-, htrail⟩
  omega

theorem scan_of_lead {b : UInt8} {l : Lead} (h : lead? b.toNat = some l) (bs : List UInt8) :
    scan (b :: bs) = scanTrails l.trails l.low l.high 1 l.value bs := by
  simp only [scan, if_neg (not_isTrail_of_lead h).1, h]

theorem scan_ascii {b : UInt8} (h : b.toNat < 0x80) (bs : List UInt8) :
    scan (b :: bs) = .taken 1 [Char.ofNat b.toNat] := by
  simp only [scan, if_pos h]

theorem scan_trail {b : UInt8} (h : IsTrail b) (bs : List UInt8) : scan (b :: bs) = .malformed 1 := by
  have hnone : lead? b.toNat = none := by
    rw [lead?, if_pos]
    exact Nat.lt_trans h.2 (by decide)
  simp only [scan, if_neg (Nat.not_lt.2 h.1), hnone]

/-- One byte is a sequence of its own, or the beginning of one. -/
theorem scan_one (b : UInt8) : scan [b] = .incomplete ∨ ∃ text, scan [b] = .taken 1 text := by
  by_cases hb : b.toNat < 0x80
  · exact .inr ⟨_, scan_ascii hb []⟩
  · cases hl : lead? b.toNat with
    | none => exact .inr ⟨[replacement], by simp only [scan, if_neg hb, hl]; rfl⟩
    | some l =>
      rw [scan_of_lead hl]
      cases l.trails with
      | zero => exact .inr ⟨_, rfl⟩
      | succ k => exact .inl rfl

/-- A character is read off the front of bytes that begin with its own. -/
theorem scan_encode (c : Char) (rest : List UInt8) :
    scan (encode c ++ rest) = .taken (encode c).length [c] := by
  by_cases hc : c.toNat < 0x80
  · have hb : (UInt8.ofNat c.toNat).toNat = c.toNat := toNat_ofNat (by omega)
    rw [encode_ascii hc, List.singleton_append, scan_ascii (by rw [hb]; exact hc), hb,
      Char.ofNat_toNat]
    rfl
  · obtain ⟨b, l, bs, he, hl, -, -, ht⟩ := encode_shape (Nat.not_lt.1 hc)
    rw [he, List.cons_append, scan_of_lead hl, scanTrails_whole ht, Char.ofNat_toNat,
      List.length_cons, Nat.add_comm]

section Cut
variable {c : Char} {p q : List UInt8}

/-- A sequence that can be cut has a lead byte. -/
theorem encode_cut (h : encode c = p ++ q) (hp : p ≠ []) (hq : q ≠ []) :
    ∃ b l bs, p = b :: bs ∧ lead? b.toNat = some l ∧ 0x80 ≤ l.low ∧ l.high ≤ 0xBF ∧
      Trails l.trails l.low l.high l.value (bs ++ q) c.toNat := by
  have hc : 0x80 ≤ c.toNat := by
    apply Nat.not_lt.1
    intro hlt
    rw [encode_ascii hlt] at h
    rcases List.singleton_eq_append_iff.1 h with ⟨hnil, -⟩ | ⟨-, hnil⟩
    · exact hp hnil
    · exact hq hnil
  obtain ⟨b, l, bs, he, hl, hlow, hhigh, ht⟩ := encode_shape hc
  cases p with
  | nil => exact absurd rfl hp
  | cons b' p =>
    rw [he, List.cons_append] at h
    obtain ⟨rfl, rfl⟩ := List.cons.inj h
    exact ⟨b, l, p, rfl, hl, hlow, hhigh, ht⟩

theorem scan_proper (h : encode c = p ++ q) (hp : p ≠ []) (hq : q ≠ []) : scan p = .incomplete := by
  obtain ⟨b, l, bs, rfl, hl, -, -, ht⟩ := encode_cut h hp hq
  rw [scan_of_lead hl]
  exact scanTrails_proper hq ht 1

theorem scan_broken (h : encode c = p ++ q) (hp : p ≠ []) (hq : q ≠ []) {x : UInt8}
    (hx : ¬ IsTrail x) (rest : List UInt8) : scan (p ++ x :: rest) = .malformed p.length := by
  obtain ⟨b, l, bs, rfl, hl, hlow, hhigh, ht⟩ := encode_cut h hp hq
  rw [List.cons_append, scan_of_lead hl, scanTrails_broken hq hlow hhigh ht hx, List.length_cons,
    Nat.add_comm]

theorem isTrail_of_cut (h : encode c = p ++ q) (hp : p ≠ []) : ∀ b ∈ q, IsTrail b := by
  cases hq : q with
  | nil => simp
  | cons x xs =>
    have hne : q ≠ [] := by simp [hq]
    obtain ⟨b, l, bs, rfl, hl, hlow, hhigh, ht⟩ := encode_cut h hp hne
    intro y hy
    exact ht.isTrail hlow hhigh y (List.mem_append_right _ (hq ▸ hy))

/-- No byte of a sequence that can be cut is ASCII. -/
theorem not_ascii_of_cut (h : encode c = p ++ q) (hp : p ≠ []) (hq : q ≠ []) :
    ∀ b ∈ p ++ q, 0x80 ≤ b.toNat := by
  obtain ⟨b, l, bs, rfl, hl, hlow, hhigh, ht⟩ := encode_cut h hp hq
  intro y hy
  rcases List.mem_cons.1 hy with rfl | hy
  · exact Nat.not_lt.1 (not_isTrail_of_lead hl).1
  · exact (ht.isTrail hlow hhigh y hy).1

end Cut

/-- A character's first byte goes on with nothing. -/
theorem encode_head (c : Char) : ∃ b bs, encode c = b :: bs ∧ ¬ IsTrail b := by
  by_cases hc : c.toNat < 0x80
  · have hb : (UInt8.ofNat c.toNat).toNat = c.toNat := toNat_ofNat (by omega)
    refine ⟨_, _, encode_ascii hc, ?_⟩
    rintro ⟨hlow, -⟩
    rw [hb] at hlow
    omega
  · obtain ⟨b, l, bs, he, hl, -⟩ := encode_shape (Nat.not_lt.1 hc)
    exact ⟨b, bs, he, (not_isTrail_of_lead hl).2⟩

/-- A decoder that keeps some bytes. -/
def holding (p : List UInt8) : Decoder := ⟨.utf8, .plain, p, false⟩

section Steps
variable {p : List UInt8} {b : UInt8}

theorem step_incomplete (h : scan (p ++ [b]) = .incomplete) :
    (holding p).step b = ([], holding (p ++ [b])) := by
  have hlen : (p ++ [b]).length = p.length + 1 := by simp
  cases hbs : p ++ [b] with
  | nil => simp at hbs
  | cons x xs =>
    rw [hbs] at h hlen
    simp [Decoder.step, holding, drain, hbs, hlen, drainIn, Charset.scan, h]

theorem step_taken {n : Nat} {text : List Char} (h : scan (p ++ [b]) = .taken n text) :
    (holding p).step b =
      let r := drainIn Charset.utf8.scan p.length .plain ((p ++ [b]).drop n)
      (text ++ r.1, { holding p with shift := r.2.1, pending := r.2.2 }) := by
  have hlen : (p ++ [b]).length = p.length + 1 := by simp
  cases hbs : p ++ [b] with
  | nil => simp at hbs
  | cons x xs =>
    rw [hbs] at h hlen
    simp [Decoder.step, holding, drain, hbs, hlen, drainIn, Charset.scan, h]

theorem drainIn_nil {τ : Type} (scan : τ → List UInt8 → Scan × τ) (fuel : Nat) (s : τ) :
    drainIn scan fuel s [] = ([], s, []) := by
  cases fuel <;> rfl

/-- A sequence that takes all bytes leaves none behind. -/
theorem step_whole {text : List Char} (h : scan (p ++ [b]) = .taken (p ++ [b]).length text) :
    (holding p).step b = (text, holding []) := by
  rw [step_taken h, List.drop_length, drainIn_nil]
  simp [holding]

/-- Bytes that turn out to be no beginning count once; the byte that broke them begins anew. -/
theorem step_broken (hp : p ≠ []) (h : scan (p ++ [b]) = .malformed p.length) :
    (holding p).step b =
      (replacement :: ((holding []).step b).1, ((holding []).step b).2) := by
  rw [step_taken h, List.drop_left]
  obtain ⟨k, hk⟩ : ∃ k, p.length = k + 1 :=
    Nat.exists_eq_succ_of_ne_zero fun h0 => hp (List.length_eq_zero_iff.1 h0)
  rw [hk]
  rcases scan_one b with hs | ⟨text, hs⟩
  · rw [step_incomplete (p := []) hs]
    simp [drainIn, Charset.scan, hs, holding]
  · rw [step_whole (p := []) hs]
    simp [drainIn, Charset.scan, hs, drainIn_nil, holding]

end Steps

theorem feed_cons (p : List UInt8) (b : UInt8) (bs : List UInt8) :
    (holding p).feed (b :: bs) =
      (((holding p).step b).1 ++ (((holding p).step b).2.feed bs).1,
        (((holding p).step b).2.feed bs).2) := rfl

/-- The beginning of a character is kept. -/
theorem feed_proper {c : Char} {p r q : List UInt8} (h : encode c = p ++ r ++ q) (hq : q ≠ []) :
    (holding p).feed r = ([], holding (p ++ r)) := by
  induction r generalizing p with
  | nil => simp [Decoder.feed]
  | cons b r ih =>
    have hnext : encode c = p ++ [b] ++ r ++ q := by simp [h]
    have hscan : scan (p ++ [b]) = .incomplete :=
      scan_proper (q := r ++ q) (by rw [hnext, List.append_assoc]) (by simp) (by simp [hq])
    rw [feed_cons, step_incomplete hscan, ih hnext]
    simp

/-- The rest of a character completes it. -/
theorem feed_rest {c : Char} {p q : List UInt8} (h : encode c = p ++ q) (hq : q ≠ []) :
    (holding p).feed q = ([c], holding []) := by
  obtain ⟨r, b, rfl⟩ : ∃ r b, q = r ++ [b] := ⟨_, _, (List.dropLast_concat_getLast hq).symm⟩
  rw [← List.append_assoc] at h
  have hscan : scan (p ++ r ++ [b]) = .taken (p ++ r ++ [b]).length [c] := by
    have hall := scan_encode c []
    rwa [List.append_nil, h] at hall
  rw [Decoder.feed_append, feed_proper h (by simp), feed_cons, step_whole hscan]
  simp [Decoder.feed]

theorem encode_ne_nil (c : Char) : encode c ≠ [] := by
  obtain ⟨b, bs, he, -⟩ := encode_head c
  simp [he]

/-- The bytes of a text. -/
def bytes (cs : List Char) : List UInt8 := cs.flatMap encode

@[simp] theorem bytes_nil : bytes [] = [] := rfl

@[simp] theorem bytes_cons (c : Char) (cs : List Char) : bytes (c :: cs) = encode c ++ bytes cs := rfl

@[simp] theorem bytes_append (as bs : List Char) : bytes (as ++ bs) = bytes as ++ bytes bs :=
  List.flatMap_append

/-- A text is read back from its bytes, whatever stands behind them. -/
theorem feed_bytes (cs : List Char) (rest : List UInt8) :
    (holding []).feed (bytes cs ++ rest) =
      (cs ++ ((holding []).feed rest).1, ((holding []).feed rest).2) := by
  induction cs with
  | nil => rfl
  | cons c cs ih =>
    have hc : (holding []).feed (encode c) = ([c], holding []) := feed_rest rfl (encode_ne_nil c)
    rw [bytes_cons, List.append_assoc, Decoder.feed_append, hc, ih]
    rfl

/-- Bytes that go on from nothing are replaced one by one. -/
theorem feed_trails {bs : List UInt8} (h : ∀ b ∈ bs, IsTrail b) (rest : List UInt8) :
    (holding []).feed (bs ++ rest) =
      (List.replicate bs.length replacement ++ ((holding []).feed rest).1,
        ((holding []).feed rest).2) := by
  induction bs with
  | nil => rfl
  | cons b bs ih =>
    have hb : (holding []).step b = ([replacement], holding []) :=
      step_whole (p := []) (scan_trail (h b (List.mem_cons_self ..)) [])
    rw [List.cons_append, feed_cons, hb, ih fun b hmem => h b (List.mem_cons_of_mem _ hmem)]
    rfl

/-- The beginning of a character that goes on with another is replaced, and nothing else is lost. -/
theorem feed_broken {c : Char} {p q : List UInt8} (h : encode c = p ++ q) (hp : p ≠ [])
    (hq : q ≠ []) {x : UInt8} (hx : ¬ IsTrail x) (xs : List UInt8) :
    (holding p).feed (x :: xs) =
      (replacement :: ((holding []).feed (x :: xs)).1, ((holding []).feed (x :: xs)).2) := by
  rw [feed_cons, step_broken hp (scan_broken h hp hq hx []), feed_cons]
  rfl

theorem finish_holding (p : List UInt8) :
    (holding p).finish.1 = if p = [] then [] else [replacement] := by
  cases p <;> rfl

/-- Where the bytes of a text are cut: behind some characters, or inside the one that comes next. -/
inductive Cut : (read rest : List Char) → (half used left : List UInt8) → Prop
  | between (as bs : List Char) : Cut as bs [] (bytes as) (bytes bs)
  | inside (as : List Char) (c : Char) (bs : List Char) (p q : List UInt8) (hp : p ≠ [])
      (hq : q ≠ []) (h : encode c = p ++ q) : Cut as (c :: bs) p (bytes as ++ p) (q ++ bytes bs)

theorem exists_cut {cs : List Char} {used left : List UInt8} (h : bytes cs = used ++ left) :
    ∃ as bs half, cs = as ++ bs ∧ Cut as bs half used left := by
  induction cs generalizing used with
  | nil =>
    obtain ⟨rfl, rfl⟩ := List.append_eq_nil_iff.1 h.symm
    exact ⟨[], [], [], rfl, .between [] []⟩
  | cons c cs ih =>
    rw [bytes_cons] at h
    rcases List.append_eq_append_iff.1 h with ⟨more, rfl, hmore⟩ | ⟨q, hc, rfl⟩
    · obtain ⟨as, bs, half, rfl, hcut⟩ := ih hmore
      refine ⟨c :: as, bs, half, rfl, ?_⟩
      cases hcut with
      | between => exact .between (c :: as) bs
      | inside d ds _ q hp hq hd =>
        have hin := Cut.inside (c :: as) d ds _ q hp hq hd
        rwa [bytes_cons, List.append_assoc] at hin
    · cases hu : used with
      | nil =>
        rw [hu, List.nil_append] at hc
        rw [← hc]
        exact ⟨[], c :: cs, [], rfl, .between [] (c :: cs)⟩
      | cons u us =>
        by_cases hq : q = []
        · rw [hq, List.append_nil] at hc
          subst hq
          rw [← hu, ← hc]
          have hbetween := Cut.between [c] cs
          rw [bytes_cons, bytes_nil, List.append_nil] at hbetween
          exact ⟨[c], cs, [], rfl, hbetween⟩
        · have hne : used ≠ [] := by simp [hu]
          rw [← hu]
          exact ⟨[], c :: cs, used, rfl, .inside [] c cs used q hne hq hc⟩

/-- What is read up to the cut, and what the decoder keeps there. -/
theorem Cut.feed {as bs : List Char} {half used left : List UInt8} (h : Cut as bs half used left) :
    (holding []).feed used = (as, holding half) := by
  cases h with
  | between =>
    have hall := feed_bytes as []
    simpa [Decoder.feed] using hall
  | inside c cs _ q hp hq hc =>
    have hhalf : (holding []).feed half = ([], holding half) :=
      feed_proper (p := []) (by rw [List.nil_append]; exact hc) hq
    rw [feed_bytes, hhalf, List.append_nil]

/-- What is kept and what is left are the bytes of the rest. -/
theorem Cut.left {as bs : List Char} {half used left : List UInt8} (h : Cut as bs half used left) :
    half ++ left = bytes bs := by
  cases h with
  | between => rfl
  | inside c cs _ q hp hq hc => rw [bytes_cons, hc, List.append_assoc]

/-- Seen from behind the characters read, half of one has been used. -/
theorem Cut.behind {as bs : List Char} {half used left : List UInt8} (h : Cut as bs half used left) :
    Cut [] bs half half left := by
  cases h with
  | between => exact .between [] bs
  | inside c cs _ q hp hq hc => exact .inside [] c cs _ q hp hq hc

theorem Cut.used {as bs : List Char} {half used left : List UInt8} (h : Cut as bs half used left) :
    used = bytes as ++ half := by
  cases h with
  | between => rw [List.append_nil]
  | inside => rfl

end ScriptChannel.Charset.Utf8
