import ScriptChannel.Channel.Data
import ScriptChannel.Input.Lines

/-!
# A bookmark in a text

What a reader gets who takes line endings as newlines is told by where he is in the characters as
they stand, and by the endings he has met. Of a carriage return he has to look at the character
behind it; that one is looked at and not read.
-/

namespace ScriptChannel

structure Bookmark where
  /-- The endings in force. -/
  mode : Translation
  /-- The characters read, as they stand in the text. -/
  taken : List Char
  /-- Characters looked at that the next read gets as they are. -/
  aside : List Char
  /-- The characters behind those. -/
  left : List Char
  /-- The first of them was looked at. -/
  peeked : Bool
  deriving DecidableEq, Repr

namespace Bookmark

/-- In front of a text. -/
def front (t : Translation) (text : List Char) : Bookmark := ⟨(Input.Lines.init t).mode, [], [], text, false⟩

/-- Past the first `n` characters that are left, with these endings in force. -/
def pass (n : Nat) (mode : Translation) (peeked : Bool) (b : Bookmark) : Bookmark :=
  { b with mode := mode, taken := b.taken ++ b.left.take n, left := b.left.drop n, peeked := peeked }

/-- The next character, a line ending being one. -/
def next (b : Bookmark) : Option (Char × Bookmark) :=
  match b.left with
  | [] => none
  | x :: rest =>
    let paired := rest.head? = some '\n'
    match b.mode, x with
    | .cr, '\r' => some ('\n', b.pass 1 .cr false)
    | .crlf, '\r' =>
      if paired then some ('\n', b.pass 2 .crlf false)
      else some ('\r', b.pass 1 .crlf (!rest.isEmpty))
    | .auto, '\n' => some ('\n', b.pass 1 .lf false)
    | .auto, '\r' =>
      if paired then some ('\n', b.pass 2 .crlf false)
      else some ('\n', b.pass 1 .cr (!rest.isEmpty))
    | m, x => some (x, b.pass 1 m false)

section Next
variable (b : Bookmark) {x : Char} {rest : List Char}

theorem next_cr (h : b.left = '\r' :: rest) (hm : b.mode = .cr) :
    b.next = some ('\n', b.pass 1 .cr false) := by
  simp [next, h, hm]

theorem next_crlf (h : b.left = '\r' :: rest) (hm : b.mode = .crlf) :
    b.next = if rest.head? = some '\n' then some ('\n', b.pass 2 .crlf false)
      else some ('\r', b.pass 1 .crlf (!rest.isEmpty)) := by
  simp [next, h, hm]

theorem next_auto_newline (h : b.left = '\n' :: rest) (hm : b.mode = .auto) :
    b.next = some ('\n', b.pass 1 .lf false) := by
  simp [next, h, hm]

theorem next_auto_return (h : b.left = '\r' :: rest) (hm : b.mode = .auto) :
    b.next = if rest.head? = some '\n' then some ('\n', b.pass 2 .crlf false)
      else some ('\n', b.pass 1 .cr (!rest.isEmpty)) := by
  simp [next, h, hm]

theorem next_plain (h : b.left = x :: rest) (hcr : b.mode = .cr → x = '\r' → False)
    (hcrlf : b.mode = .crlf → x = '\r' → False) (hn : b.mode = .auto → x = '\n' → False)
    (hr : b.mode = .auto → x = '\r' → False) : b.next = some (x, b.pass 1 b.mode false) := by
  simp only [next, h]

/-- There is a character as long as one is left. -/
theorem next_eq_none : b.next = none ↔ b.left = [] := by
  unfold next
  split
  · simp [*]
  · simp only [*]
    split <;> (try split) <;> simp

/-- What a step can do: it passes one or two characters. Endings that are settled stay as they are,
and no newline is read by looking behind it. -/
structure Passes (b : Bookmark) (x : Char) (n : Nat) (mode : Translation) (peeked : Bool) : Prop where
  pos : 0 < n
  le : n ≤ b.left.length
  more : peeked = true → n < b.left.length
  settled : b.mode ≠ .auto → mode = b.mode ∧ (x = '\n' → peeked = false)
  mem : x = '\n' ∨ x ∈ b.left

theorem next_passes {b' : Bookmark} (h : b.next = some (x, b')) :
    ∃ n mode peeked, b' = b.pass n mode peeked ∧ b.Passes x n mode peeked := by
  unfold next at h
  split at h
  · simp at h
  · rename_i y rest hleft
    have hone : 1 ≤ b.left.length := by simp [hleft]
    have hmore : (!rest.isEmpty) = true → 1 < b.left.length := by cases rest <;> simp [hleft]
    have htwo : rest.head? = some '\n' → 2 ≤ b.left.length := by cases rest <;> simp [hleft]
    dsimp only at h
    split at h
    · obtain ⟨rfl, rfl⟩ := Prod.mk.inj (Option.some.inj h)
      exact ⟨1, _, _, rfl, ⟨by decide, hone, by simp, by simp [*], .inl rfl⟩⟩
    · split at h <;> obtain ⟨rfl, rfl⟩ := Prod.mk.inj (Option.some.inj h)
      · exact ⟨2, _, _, rfl, ⟨by decide, htwo ‹_›, by simp, by simp [*], .inl rfl⟩⟩
      · exact ⟨1, _, _, rfl, ⟨by decide, hone, hmore, by simp [*], .inr (by simp [hleft])⟩⟩
    · obtain ⟨rfl, rfl⟩ := Prod.mk.inj (Option.some.inj h)
      exact ⟨1, _, _, rfl, ⟨by decide, hone, by simp, by simp [*], .inl rfl⟩⟩
    · split at h <;> obtain ⟨rfl, rfl⟩ := Prod.mk.inj (Option.some.inj h)
      · exact ⟨2, _, _, rfl, ⟨by decide, htwo ‹_›, by simp, by simp [*], .inl rfl⟩⟩
      · exact ⟨1, _, _, rfl, ⟨by decide, hone, hmore, by simp [*], .inl rfl⟩⟩
    · obtain ⟨rfl, rfl⟩ := Prod.mk.inj (Option.some.inj h)
      exact ⟨1, _, _, rfl, ⟨by decide, hone, by simp, by simp, .inr (by simp [hleft])⟩⟩

theorem length_left_next {b' : Bookmark} (h : b.next = some (x, b')) :
    b'.left.length < b.left.length := by
  obtain ⟨n, mode, peeked, rfl, hp⟩ := b.next_passes h
  have hpos := hp.pos
  have hle := hp.le
  simp only [pass, List.length_drop]
  omega

end Next

/-- The next `n` characters, or as many as there are. -/
def chars : Nat → Bookmark → List Char × Bookmark
  | 0, b => ([], b)
  | n + 1, b =>
    match b.next with
    | none => ([], b)
    | some (x, b) =>
      let r := chars n b
      (x :: r.1, r.2)

/-- So many characters are read on the way from one bookmark to the other. -/
inductive Reads : Bookmark → List Char → Bookmark → Prop
  | nil (b : Bookmark) : Reads b [] b
  | cons {b b' b'' : Bookmark} {x : Char} {us : List Char} (h : b.next = some (x, b'))
      (h' : Reads b' us b'') : Reads b (x :: us) b''

namespace Reads
variable {b b' b'' : Bookmark} {us vs : List Char}

theorem append (h : Reads b us b') (h' : Reads b' vs b'') : Reads b (us ++ vs) b'' := by
  induction h with
  | nil => exact h'
  | cons hnext _ ih => exact .cons hnext (ih h')

/-- They are the characters asked for, if there are as many or no more. -/
theorem chars_eq (h : Reads b us b') {n : Nat} (hlen : us.length ≤ n)
    (hall : us.length = n ∨ b'.left = []) : b.chars n = (us, b') := by
  induction h generalizing n with
  | nil b =>
    cases n with
    | zero => rfl
    | succ n =>
      have hnone := b.next_eq_none.2 (hall.resolve_left (by simp))
      simp [chars, hnone]
  | cons hnext _ ih =>
    cases n with
    | zero => simp at hlen
    | succ n =>
      simp only [List.length_cons, Nat.add_right_cancel_iff] at hlen hall
      simp [chars, hnext, ih (Nat.le_of_succ_le_succ hlen) hall]

theorem aside_eq (h : Reads b us b') : b'.aside = b.aside := by
  induction h with
  | nil => rfl
  | cons hnext _ ih =>
    obtain ⟨n, mode, peeked, rfl, -⟩ := next_passes _ hnext
    exact ih

theorem taken_prefix (h : Reads b us b') : b.taken <+: b'.taken := by
  induction h with
  | nil => exact List.prefix_refl _
  | cons hnext _ ih =>
    obtain ⟨n, mode, peeked, rfl, -⟩ := next_passes _ hnext
    exact (List.prefix_append _ _).trans ih

/-- But for newlines they are characters that were left. -/
theorem mem_left (h : Reads b us b') {x : Char} (hx : x ∈ us) : x = '\n' ∨ x ∈ b.left := by
  induction h with
  | nil => simp at hx
  | cons hnext _ ih =>
    obtain ⟨n, mode, peeked, rfl, hp⟩ := next_passes _ hnext
    rcases List.mem_cons.1 hx with rfl | hx
    · exact hp.mem
    · exact (ih hx).imp_right List.mem_of_mem_drop

/-- Each takes one character from the text at least. -/
theorem length_taken (h : Reads b us b') : b.taken.length + us.length ≤ b'.taken.length := by
  induction h with
  | nil => exact Nat.le_refl _
  | cons hnext _ ih =>
    obtain ⟨n, mode, peeked, rfl, hp⟩ := next_passes _ hnext
    have hpos := hp.pos
    have hle := hp.le
    simp only [pass, List.length_append, List.length_take, List.length_cons] at ih ⊢
    omega

end Reads

theorem reads_chars (n : Nat) (b : Bookmark) : b.Reads (b.chars n).1 (b.chars n).2 := by
  induction n generalizing b with
  | zero => exact .nil b
  | succ n ih =>
    simp only [chars]
    cases hb : b.next with
    | none => exact .nil b
    | some q => exact .cons hb (ih q.2)

/-- What was set aside is read with what comes next. -/
def gathered (b : Bookmark) : Bookmark := { b with taken := b.taken ++ b.aside, aside := [] }

/-- The characters up to a newline, at most `fuel`, and if it was met. -/
def upToNewline : (fuel : Nat) → Bookmark → (List Char × Bool) × Bookmark
  | 0, b => (([], false), b)
  | fuel + 1, b =>
    match b.next with
    | none => (([], false), b)
    | some (x, b) =>
      if x = '\n' then (([], true), b)
      else
        let r := upToNewline fuel b
        ((x :: r.1.1, r.1.2), r.2)

theorem reads_upToNewline (fuel : Nat) (b : Bookmark) :
    let r := b.upToNewline fuel
    b.Reads (r.1.1 ++ if r.1.2 then ['\n'] else []) r.2 := by
  induction fuel generalizing b with
  | zero => exact .nil b
  | succ fuel ih =>
    simp only [upToNewline]
    cases hb : b.next with
    | none => exact .nil b
    | some q =>
      obtain ⟨x, b'⟩ := q
      by_cases hx : x = '\n'
      · subst hx
        exact .cons hb (.nil b')
      · simp only [hx, if_false]
        exact .cons hb (ih b')

/-- A line without its newline, and if it had one. -/
def line (b : Bookmark) : (List Char × Bool) × Bookmark :=
  let r := b.gathered.upToNewline b.left.length
  ((b.aside ++ r.1.1, r.1.2), r.2)

theorem reads_line (b : Bookmark) :
    ∃ us, b.line.1.1 = b.aside ++ us ∧
      b.gathered.Reads (us ++ if b.line.1.2 then ['\n'] else []) b.line.2 :=
  ⟨_, rfl, reads_upToNewline _ b.gathered⟩

/-- A line has only characters that were set aside or left. -/
theorem mem_line {b : Bookmark} {x : Char} (hx : x ∈ b.line.1.1) :
    x = '\n' ∨ x ∈ b.aside ++ b.left := by
  obtain ⟨us, hline, hreads⟩ := b.reads_line
  rw [hline] at hx
  rcases List.mem_append.1 hx with hx | hx
  · exact .inr (List.mem_append_left _ hx)
  · exact (hreads.mem_left (List.mem_append_left _ hx)).imp_right fun hleft =>
      List.mem_append_right _ hleft

/-- The next `n` characters as they stand, or as many as there are. What was looked at and is not
among them is set aside. -/
def plain (n : Nat) (b : Bookmark) : List Char × Bookmark :=
  let seen := b.aside.length + if b.peeked then 1 else 0
  let all := b.aside ++ b.left
  (all.take n,
    { b with
      taken := b.taken ++ all.take n
      aside := (all.take seen).drop n
      left := all.drop (max n seen)
      peeked := false })

/-- Nothing of the text gets lost. -/
theorem plain_all (n : Nat) (b : Bookmark) :
    (b.plain n).1 ++ ((b.plain n).2.aside ++ (b.plain n).2.left) = b.aside ++ b.left := by
  simp only [plain]
  generalize b.aside.length + (if b.peeked then 1 else 0) = seen
  generalize b.aside ++ b.left = all
  rcases Nat.le_total n seen with hle | hle
  · rw [Nat.max_eq_right hle, List.drop_take]
    have hrest : all.drop seen = (all.drop n).drop (seen - n) := by
      rw [List.drop_drop, Nat.add_sub_cancel' hle]
    rw [hrest, List.take_append_drop, List.take_append_drop]
  · rw [Nat.max_eq_left hle, List.drop_of_length_le (by simp; omega), List.nil_append,
      List.take_append_drop]

theorem gathered_of_nil {b : Bookmark} (h : b.aside = []) : b.gathered = b := by
  obtain ⟨mode, taken, aside, left, peeked⟩ := b
  obtain rfl : aside = [] := h
  simp [gathered]

/-- What a request gets: the characters, and if they are a line that had an ending. -/
def read (binary : Bool) (kind : ReadKind) (b : Bookmark) : (List Char × Bool) × Bookmark :=
  let units (n : Nat) :=
    let r := if binary then b.plain n else b.chars n
    ((r.1, false), r.2)
  match kind with
  | .line => b.line
  | .units n => units n
  | .all => units ReadKind.everything

/-- The endings in force are settled, and nothing was looked at that is still to be read. A reader of
text may look at as much as he likes. -/
structure Settled (binary : Bool) (b : Bookmark) : Prop where
  mode : b.mode ≠ .auto
  aside : b.aside = []
  peeked : binary = true → b.peeked = false

theorem settled_front {t : Translation} (ht : t ≠ .auto) (text : List Char) (binary : Bool) :
    (front t text).Settled binary where
  mode := by
    change (Input.Lines.init t).mode ≠ .auto
    cases t with
    | auto => exact absurd rfl ht
    | _ => decide
  aside := rfl
  peeked _ := rfl

theorem Reads.mode_eq {b b' : Bookmark} {us : List Char} (h : Reads b us b')
    (hm : b.mode ≠ .auto) : b'.mode = b.mode := by
  induction h with
  | nil => rfl
  | cons hnext _ ih =>
    obtain ⟨n, mode, peeked, rfl, hp⟩ := next_passes _ hnext
    obtain ⟨hmode, -⟩ := hp.settled hm
    exact (ih (hmode ▸ hm)).trans hmode

/-- At the end of a line nothing behind it was looked at. -/
theorem peeked_upToNewline {b : Bookmark} (hm : b.mode ≠ .auto)
    (hpeeked : b.peeked = true → b.left ≠ []) {fuel : Nat} (hfuel : b.left.length ≤ fuel) :
    (b.upToNewline fuel).2.peeked = false := by
  have hend : b.left = [] → b.peeked = false := fun hnil =>
    Bool.eq_false_iff.2 fun hp => hpeeked hp hnil
  induction fuel generalizing b with
  | zero => exact hend (List.length_eq_zero_iff.1 (Nat.le_zero.1 hfuel))
  | succ fuel ih =>
    simp only [upToNewline]
    cases hb : b.next with
    | none => exact hend (b.next_eq_none.1 hb)
    | some q =>
      obtain ⟨x, b'⟩ := q
      have hless := b.length_left_next hb
      obtain ⟨n, mode, peeked, rfl, hp⟩ := b.next_passes hb
      obtain ⟨hmode, hnewline⟩ := hp.settled hm
      by_cases hx : x = '\n'
      · simp only [hx, if_true]
        exact hnewline hx
      · simp only [hx, if_false]
        have hmore : peeked = true → b.left.drop n ≠ [] := fun hpk hnil => by
          have hlt := hp.more hpk
          have hle := List.drop_eq_nil_iff.1 hnil
          omega
        exact ih (hmode.symm ▸ hm) hmore (by omega) fun hnil =>
          Bool.eq_false_iff.2 fun hpk => hmore hpk hnil

/-- So it stays, whatever is read. -/
theorem Settled.read {binary : Bool} {b : Bookmark} (h : b.Settled binary) (kind : ReadKind) :
    (b.read binary kind).2.Settled binary := by
  have hunits : ∀ n, (if binary then b.plain n else b.chars n).2.Settled binary := by
    intro n
    cases hb : binary with
    | true =>
      refine ⟨h.mode, ?_, fun _ => rfl⟩
      simp [plain, h.aside, h.peeked hb]
    | false =>
      have hreads := b.reads_chars n
      exact ⟨hreads.mode_eq h.mode ▸ h.mode, hreads.aside_eq.trans h.aside, by simp⟩
  cases kind with
  | line =>
    obtain ⟨us, -, hreads⟩ := b.reads_line
    refine ⟨hreads.mode_eq h.mode ▸ h.mode, hreads.aside_eq, fun hb => ?_⟩
    have hnone : b.gathered.peeked = false := h.peeked hb
    exact peeked_upToNewline (b := b.gathered) h.mode (fun hp => by simp [hnone] at hp) (Nat.le_refl _)
  | all => exact hunits _
  | units n => exact hunits n

end Bookmark

/-- The text has ended if there is nothing, not even a line without characters. -/
def ReadStatus.of (r : List Char × Bool) : ReadStatus :=
  if r.1 = [] ∧ r.2 = false then .ended else .data r.1.length

/-- Something is asked for. -/
def ReadKind.asks : ReadKind → Bool
  | .units n => n != 0
  | .all | .line => true

end ScriptChannel
