import ScriptChannel.Proofs.Channel.Delivered
import ScriptChannel.Proofs.Channel.Fresh

/-!
# A channel read as a text

Five stages stand between a device and its reader, each with something kept back. A reader who
waits does not notice them: whatever is asked for, in whatever order, a channel answers as a cursor
does that goes through the text of the whole stream.
-/

namespace ScriptChannel

/-- What one request gets from a text: how it is answered, the characters, and what is left. -/
structure Portion where
  status : ReadStatus
  chars : List Char
  left : List Char
  deriving DecidableEq, Repr

namespace Portion

/-- The end, when nothing is left. -/
def none : Portion := ⟨.ended, [], []⟩

/-- The next `n` characters, or as many as there are. -/
def next (n : Nat) : List Char → Portion
  | [] => none
  | text => ⟨.data (min n text.length), text.take n, text.drop n⟩

/-- The characters up to the next newline, which is dropped, or up to the end. -/
def line : List Char → Portion
  | [] => none
  | text =>
    let cs := text.takeWhile (· != '\n')
    ⟨.data cs.length, cs, text.drop (cs.length + 1)⟩

def ofKind : ReadKind → List Char → Portion
  | .all => next ReadKind.everything
  | .units n => next n
  | .line => line

theorem next_append {n : Nat} {us vs : List Char} (hn : 0 < n)
    (h : us.length = n ∨ us.length < n ∧ vs = []) :
    next n (us ++ vs) =
      ⟨if us = [] then .ended else .data us.length, us, vs⟩ := by
  cases hall : us ++ vs with
  | nil =>
    obtain ⟨rfl, rfl⟩ := List.append_eq_nil_iff.1 hall
    rfl
  | cons c cs =>
    rw [next, ← hall]
    · have hus : us ≠ [] := by
        rintro rfl
        rcases h with h | ⟨-, rfl⟩
        · exact absurd h.symm (Nat.ne_of_gt hn)
        · simp at hall
      rw [if_neg hus]
      rcases h with h | ⟨hlt, rfl⟩
      · subst h
        simp
      · have hle : us.length ≤ n := Nat.le_of_lt hlt
        simp [List.take_of_length_le hle, List.drop_of_length_le hle, Nat.min_eq_right hle]
    · simp

theorem takeWhile_free {cs : List Char} (h : '\n' ∉ cs) (rest : List Char) :
    (cs ++ rest).takeWhile (· != '\n') = cs ++ rest.takeWhile (· != '\n') :=
  List.takeWhile_append_of_pos fun c hc => by
    rw [bne_iff_ne]
    rintro rfl
    exact h hc

theorem line_newline {cs rest : List Char} (h : '\n' ∉ cs) :
    line (cs ++ '\n' :: rest) = ⟨.data cs.length, cs, rest⟩ := by
  cases hall : cs ++ '\n' :: rest with
  | nil => simp at hall
  | cons c text =>
    rw [line, ← hall, takeWhile_free h]
    · simp [← List.drop_drop]
    · simp

theorem line_rest {cs : List Char} (h : '\n' ∉ cs) (hne : cs ≠ []) :
    line cs = ⟨.data cs.length, cs, []⟩ := by
  have hwhole := takeWhile_free h []
  rw [List.append_nil, List.takeWhile_nil, List.append_nil] at hwhole
  cases hcs : cs with
  | nil => exact absurd hcs hne
  | cons c text =>
    rw [line, ← hcs, hwhole]
    · simp
    · simp

end Portion

namespace Channel

/-- What a request's sender gets to see: the status, and the characters in its destination. -/
def Reading.seen (r : Reading) : Except ChannelError ReadStatus × List Char :=
  (r.status, r.data.chars)

end Channel

/-- Serves the same requests from a text. -/
def Portion.serve : List (ReadKind × Data) →
    List Char → List (Except ChannelError ReadStatus × List Char) × List Char
  | [], text => ([], text)
  | (kind, dst) :: requests, text =>
    let r := ofKind kind text
    let rs := serve requests r.left
    ((.ok r.status, dst.chars ++ r.chars) :: rs.1, rs.2)

namespace Channel
variable {δ : Type} [Transport δ] [InputDevice δ]

/-- A channel whose reader waits, with this text and nothing else to come. -/
structure StandsAt (text : List Char) (ch : Channel δ) : Prop where
  readable : ch.Readable
  isText : ch.settings.encoding.isBinary = false
  blocking : ch.settings.blocking = true
  coming : ch.coming = Coming.ofUnits text
  free : '\n' ∉ ch.chain.lines.partialLine

/-- The end is seen only when nothing is left. -/
theorem StandsAt.eq_nil_of_ended {text : List Char} {ch : Channel δ} (h : ch.StandsAt text)
    (he : ch.ended = true) : text = [] := by
  have hc := h.coming
  rw [Channel.coming, if_pos he] at hc
  exact Coming.ofUnits_eq_nil.1 hc.symm

theorem StandsAt.after {text rest : List Char} {ch ch' : Channel δ} (h : ch.StandsAt text)
    (ha : After ch ch') (hc : ch'.coming = Coming.ofUnits rest) : ch'.StandsAt rest where
  readable := ha.readable
  isText := by rw [ha.settings, h.isText]
  blocking := by rw [ha.settings, h.blocking]
  coming := hc
  free := ha.free h.free

theorem StandsAt.read_units {text : List Char} {ch : Channel δ} (h : ch.StandsAt text)
    (he : ch.ended = false) {kind : ReadKind} {n : Nat} (hk : wanted kind = some n) (hn : 0 < n)
    (dst : Data) :
    let r := Portion.next n text
    (read kind dst ch).1.seen = (.ok r.status, dst.chars ++ r.chars) ∧
      (read kind dst ch).2.StandsAt r.left := by
  obtain ⟨us, halt, ⟨htakes, hend⟩, hful, hread, hafter⟩ :=
    Channel.read_units h.readable he h.isText hk dst
  rw [h.coming] at htakes
  rw [hread]
  generalize (read kind dst ch).2 = ch' at htakes hend hafter
  cases halt with
  | served =>
    obtain ⟨vs, rfl, hys⟩ := Coming.Past.of_ofUnits htakes
    have hlen : us.length = n := hful.all_of_served rfl
    have hus : us ≠ [] := by
      rintro rfl
      exact absurd hlen.symm (Nat.ne_of_gt hn)
    dsimp only
    rw [Portion.next_append hn (.inl hlen), if_neg hus]
    exact ⟨rfl, h.after hafter hys⟩
  | ended =>
    obtain ⟨vs, rfl, hnil⟩ := Coming.Past.of_ofUnits htakes
    obtain rfl := Coming.ofUnits_eq_nil.1 hnil.symm
    have hlen : us.length < n := hful.short (by simp)
    dsimp only
    rw [Portion.next_append hn (.inr ⟨hlen, rfl⟩)]
    refine ⟨?_, h.after hafter (hend rfl)⟩
    simp [Reading.seen, statusOf, Data.appendText, Data.chars]
  | wouldBlock | failed =>
    -- nothing but characters is to come
    obtain ⟨vs, -, hvs⟩ := Coming.Past.of_ofUnits htakes
    cases vs <;> simp at hvs

theorem StandsAt.read_line {text : List Char} {ch : Channel δ} (h : ch.StandsAt text)
    (he : ch.ended = false) (dst : Data) :
    let r := Portion.line text
    (read .line dst ch).1.seen = (.ok r.status, dst.chars ++ r.chars) ∧
      (read .line dst ch).2.StandsAt r.left := by
  obtain ⟨l, hdel, hpat, hread, hafter, hfree⟩ := Channel.read_line h.readable he dst
  rw [h.coming] at hdel
  rw [hread]
  have hfree := hfree h.free
  generalize (read .line dst ch).2 = ch' at hdel hafter
  have hseen : ∀ cs, (lineReading ch.settings.encoding dst (.line cs)).seen =
      (.ok (.data cs.length), dst.chars ++ cs) := by
    intro cs
    simp [lineReading, h.isText, Reading.seen, Data.appendText, Data.chars]
  cases hstop : ch.lineStop with
  | newline =>
    rw [hstop] at hdel
    obtain ⟨cs, rfl, hpast⟩ := hdel
    obtain ⟨vs, rfl, hvs⟩ := Coming.Past.of_ofUnits hpast
    obtain ⟨rest, rfl, hrest⟩ : ∃ rest, vs = '\n' :: rest ∧ ch'.coming = Coming.ofUnits rest := by
      cases vs with
      | nil => simp at hvs
      | cons v vs =>
        simp only [Coming.ofUnits_cons, List.cons.injEq, Signal.unit.injEq] at hvs
        exact ⟨vs, by rw [hvs.1], hvs.2⟩
    dsimp only
    rw [Portion.line_newline (hfree cs rfl), hseen]
    exact ⟨rfl, h.after hafter hrest⟩
  | ended =>
    rw [hstop] at hdel
    obtain ⟨hnil, ⟨cs, rfl, hne, hpast⟩ | ⟨rfl, hpast⟩⟩ := hdel
    · obtain ⟨vs, rfl, hvs⟩ := Coming.Past.of_ofUnits hpast
      obtain rfl := Coming.ofUnits_eq_nil.1 hvs.symm
      dsimp only
      rw [List.append_nil, Portion.line_rest (hfree cs rfl) hne, hseen]
      exact ⟨rfl, h.after hafter hnil⟩
    · obtain ⟨vs, rfl, hvs⟩ := Coming.Past.of_ofUnits hpast
      obtain rfl := Coming.ofUnits_eq_nil.1 hvs.symm
      refine ⟨?_, h.after hafter hnil⟩
      simp [lineReading, Reading.seen, Portion.line, Portion.none]
  | wouldBlock => exact absurd (hpat hstop) (by simp [h.blocking])
  | failed e =>
    rw [hstop] at hdel
    obtain ⟨-, as, bs, hx, -⟩ := hdel
    rw [Coming.patient_ofUnits] at hx
    have hmem : Signal.failure e ∈ Coming.ofUnits text := by
      rw [hx]
      simp
    simp [Coming.ofUnits] at hmem

/-- One request is answered as a cursor answers it, and leaves the channel where the cursor is. -/
theorem StandsAt.read {text : List Char} {ch : Channel δ} (h : ch.StandsAt text) {kind : ReadKind}
    (hk : kind ≠ .units 0) (dst : Data) :
    let r := Portion.ofKind kind text
    (read kind dst ch).1.seen = (.ok r.status, dst.chars ++ r.chars) ∧
      (read kind dst ch).2.StandsAt r.left := by
  by_cases he : ch.ended = true
  · obtain rfl := h.eq_nil_of_ended he
    have hnone : Portion.ofKind kind [] = Portion.none := by cases kind <;> rfl
    rw [read_ended h.readable he, hnone]
    refine ⟨?_, h⟩
    simp [Reading.seen, Portion.none]
  · have he : ch.ended = false := Bool.eq_false_iff.2 he
    cases kind with
    | all => exact h.read_units he rfl (by decide) dst
    | units n => exact h.read_units he rfl (Nat.pos_of_ne_zero fun h0 => hk (by rw [h0])) dst
    | line => exact h.read_line he dst

theorem StandsAt.serve {text : List Char} {ch : Channel δ} (h : ch.StandsAt text)
    {requests : List (ReadKind × Data)} (hr : ∀ r ∈ requests, r.1 ≠ .units 0) :
    (ch.serve requests).1.map Reading.seen = (Portion.serve requests text).1 ∧
      (ch.serve requests).2.StandsAt (Portion.serve requests text).2 := by
  induction requests generalizing text ch with
  | nil => exact ⟨rfl, h⟩
  | cons request requests ih =>
    obtain ⟨kind, dst⟩ := request
    obtain ⟨hseen, hnext⟩ := h.read (hr _ (List.mem_cons_self ..)) dst
    obtain ⟨hrest, hlast⟩ := ih hnext fun r hmem => hr r (List.mem_cons_of_mem _ hmem)
    refine ⟨?_, hlast⟩
    simp only [Channel.serve, Portion.serve, List.map_cons, hseen, hrest]

/-- A reader who waits gets the text of the whole stream from a fresh channel, in the portions asked
for, and the end is seen only when nothing of it is left. -/
theorem serve_eq_portions {d : Transport.Rehearsed} {m : OpenMode} {s : Settings}
    (hscript : ∀ step ∈ d.reads, step.Harmless) (hopen : (Transport.openInput d).1 = .ok ())
    (hm : m.isReadable = true) (hb : s.blocking = true) (he : s.encoding.isBinary = false)
    {requests : List (ReadKind × Data)} (hr : ∀ r ∈ requests, r.1 ≠ .units 0) :
    let text := s.encoding.textOf s.inputMarker s.inputTranslation (Transport.Step.contents d.reads)
    ((opened d m s).serve requests).1.map Reading.seen = (Portion.serve requests text).1 ∧
      (((opened d m s).serve requests).2.ended = true → (Portion.serve requests text).2 = []) := by
  intro text
  have hfresh : (opened d m s).StandsAt text :=
    { readable := opened_readable hopen hm s
      isText := he
      blocking := hb
      coming := opened_coming_ofUnits (Transport.Step.patient_coming hscript) hb m
      free := List.not_mem_nil }
  obtain ⟨hseen, hlast⟩ := hfresh.serve hr
  exact ⟨hseen, hlast.eq_nil_of_ended⟩

/-- A byte order mark, a character, and a pair at the end of a line come in two pieces each. -/
theorem serve_eq_portions_pieces :
    let d := Transport.Rehearsed.quiet.feed
      [.units [0xEF], .delay, .units [0xBB, 0xBF, 0x61, 0xC3], .interruption, .units [0xA9, 0x0D],
        .delay, .units [0x0A, 0x62, 0x63, 0x1A, 0x64]]
    let s := { Settings.default with inputMarker := 0x1A }
    ((opened d .readOnly s).serve
        [(.units 1, .text []), (.line, .text ['>']), (.all, .text []), (.line, .text [])]).1.map
      Reading.seen =
        [(.ok (.data 1), ['a']), (.ok (.data 1), ['>', 'é']), (.ok (.data 2), ['b', 'c']),
          (.ok .ended, [])] := by
  refine (serve_eq_portions (by decide) rfl rfl rfl rfl (by decide)).1.trans ?_
  decide

end Channel

end ScriptChannel
