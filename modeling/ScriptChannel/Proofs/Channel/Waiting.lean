import ScriptChannel.Proofs.Channel.Closing
import ScriptChannel.Proofs.Channel.Ledger
import ScriptChannel.Proofs.Channel.Unfailing
import ScriptChannel.Proofs.Input.Waiting

/-!
# Reading without waiting

A delay comes between two reads and costs nothing: what has been delivered is at any time the
beginning of the text of the whole stream, and the end is seen when all of it has been delivered and
the device has said its end. A line that has to wait for a delay is not handed out, and comes first
in the next read of any kind.
-/

namespace ScriptChannel

/-- A run brings no failure where none is to come. -/
theorem Input.Lines.Run.unfailing {us : List Char} {halt : Halt} {xs ys : Coming Char}
    (h : Run us halt xs ys) (hx : xs.Unfailing) : ys.Unfailing := by
  obtain ⟨htakes, hend⟩ := h
  cases halt with
  | served => exact hx.past htakes
  | wouldBlock => exact Coming.unfailing_delay.1 (hx.past htakes)
  | ended =>
    rw [hend rfl]
    exact Coming.unfailing_nil
  | failed e => exact absurd (hx.past htakes) Coming.not_unfailing

/-- Nor does a line. -/
theorem Input.Lines.Delivers.unfailing {l : LineRead} {stop : Stop} {xs ys : Coming Char}
    (h : Delivers l stop xs ys) (hx : xs.Unfailing) :
    ys.Unfailing ∧ ∀ e, stop ≠ .failed e := by
  cases stop with
  | newline =>
    obtain ⟨text, -, hpast⟩ := h
    exact ⟨Coming.unfailing_unit.1 (hx.past hpast), by simp⟩
  | ended =>
    rw [h.1]
    exact ⟨Coming.unfailing_nil, by simp⟩
  | wouldBlock =>
    refine ⟨?_, by simp⟩
    rw [← Coming.unfailing_patient, ← h.2]
    exact Coming.unfailing_patient.2 hx
  | failed e =>
    obtain ⟨-, as, bs, hx', -⟩ := h
    have hnone := Coming.unfailing_patient.2 hx
    rw [hx', Coming.unfailing_append] at hnone
    exact absurd hnone.2 Coming.not_unfailing

namespace Channel
variable {δ : Type} [Transport δ] [InputDevice δ]

/-- A channel for text that no failure is to come from. -/
structure Flowing (ch : Channel δ) : Prop where
  readable : ch.Readable
  isText : ch.settings.encoding.isBinary = false
  unfailing : ch.coming.Unfailing

theorem Flowing.after {ch ch' : Channel δ} (h : ch.Flowing) (ha : After ch ch')
    (hc : ch'.coming.Unfailing) : ch'.Flowing where
  readable := ha.readable
  isText := by rw [ha.settings, h.isText]
  unfailing := hc

theorem Flowing.read {ch : Channel δ} (h : ch.Flowing) (kind : ReadKind) (dst : Data) :
    (read kind dst ch).2.Flowing := by
  by_cases he : ch.ended = true
  · rw [read_ended h.readable he]
    exact h
  · have he : ch.ended = false := Bool.eq_false_iff.2 he
    have hunits : ∀ {kind n}, wanted kind = some n → (Channel.read kind dst ch).2.Flowing := by
      intro kind n hk
      obtain ⟨us, halt, hrun, -, -, hafter⟩ := read_units h.readable he h.isText hk dst
      exact h.after hafter (hrun.unfailing h.unfailing)
    cases kind with
    | all => exact hunits rfl
    | units n => exact hunits rfl
    | line =>
      obtain ⟨l, hdel, -, -, hafter, -⟩ := read_line h.readable he dst
      exact h.after hafter (hdel.unfailing h.unfailing).1

theorem Flowing.serve {ch : Channel δ} (h : ch.Flowing) (requests : List (ReadKind × Data)) :
    (ch.serve requests).2.Flowing := by
  induction requests generalizing ch with
  | nil => exact h
  | cons request requests ih => exact ih (h.read request.1 request.2)

/-- A line stops at its end, for want of more, or at the end of the stream. -/
theorem Flowing.lineStop_ne_failed {ch : Channel δ} (h : ch.Flowing) (he : ch.ended = false)
    (e : IoError) : ch.lineStop ≠ .failed e := by
  obtain ⟨l, hdel, -⟩ := read_line h.readable he (.text [])
  exact (hdel.unfailing h.unfailing).2 e

/-- A line in which a delay comes before the newline is not handed out, and is not the end. What there
is of it stays to come. -/
theorem read_line_of_delay {ch : Channel δ} (h : ch.Readable) (he : ch.ended = false)
    (hb : ch.settings.blocking = false) {cs : List Char} {rest : Coming Char} (hfree : '\n' ∉ cs)
    (hc : ch.coming = Coming.ofUnits cs ++ .delay :: rest) (dst : Data) :
    (read .line dst ch).1 = ⟨.ok (.data 0), dst⟩ ∧ (read .line dst ch).2.ended = false ∧
      (read .line dst ch).2.coming = Coming.ofUnits cs ++ rest := by
  obtain ⟨ended, j, hj, hnote, -⟩ := read_line_eq h he dst
  obtain ⟨-, hbuilt⟩ := buildInput_built h
  rw [← hbuilt.coming he] at hc
  obtain ⟨hblocked, hopen, hbehind⟩ := Input.Chain.readLine_of_delay hfree hc
  rw [hb] at hj hnote
  rcases hq : ch.chain.readLine false ch.buildInput.2.device with ⟨l, c, d⟩
  rw [hq] at hj hnote hblocked hopen hbehind
  dsimp only at hj hnote hblocked hopen hbehind
  subst hblocked
  have hended : ended = false := by
    cases ended with
    | false => rfl
    | true => simpa [hopen] using hnote rfl
  subst hended
  rw [hj]
  exact ⟨rfl, rfl, hbehind⟩

/-- A read has these characters in front, as many of them as it asks for. A line that is still not
complete begins with them. -/
def Fronts (cs : List Char) (kind : ReadKind) (dst : Data) (ch : Channel δ) : Prop :=
  match wanted kind with
  | some n => cs.take n <+: ch.brought kind dst
  | none => cs <+: ch.brought kind dst ∨
      ∃ more rest, ch.coming = Coming.ofUnits (cs ++ more) ++ .delay :: rest

theorem fronts_units {ch : Channel δ} (h : ch.Flowing) (he : ch.ended = false) {cs : List Char}
    {rest : Coming Char} (hc : ch.coming = Coming.ofUnits cs ++ rest) {kind : ReadKind} {n : Nat}
    (hk : wanted kind = some n) (dst : Data) : cs.take n <+: ch.brought kind dst := by
  obtain ⟨us, halt, ⟨htakes, hend⟩, hful, hread, -⟩ := read_units h.readable he h.isText hk dst
  have hbrought : ch.brought kind dst = us := by
    simp [brought, dropped_of_wanted hk, hread, Data.appendText, Data.chars]
  rw [hc] at htakes
  rw [hbrought]
  have hfront := List.take_prefix n cs
  cases halt with
  | served =>
    rcases htakes.front with ⟨vs, rfl, -⟩ | ⟨vs, rfl, -⟩
    · have hn : us.length = n := hful.all_of_served rfl
      have htake : (us ++ vs).take n = us := hn ▸ List.take_left
      exact ⟨[], by rw [htake, List.append_nil]⟩
    · exact hfront.trans (List.prefix_append cs vs)
  | wouldBlock => exact hfront.trans (htakes.front_of_stop (by simp))
  | ended => exact hfront.trans (htakes.front_of_stop (by simp))
  | failed e => exact hfront.trans (htakes.front_of_stop (by simp))

theorem fronts_line {ch : Channel δ} (h : ch.Flowing) (he : ch.ended = false) {cs : List Char}
    (hfree : '\n' ∉ cs) {rest : Coming Char} (hc : ch.coming = Coming.ofUnits cs ++ rest)
    (dst : Data) : ch.Fronts cs .line dst := by
  obtain ⟨l, hdel, -, hread, -, -⟩ := read_line h.readable he dst
  have hline : ∀ text, l = .line text → text <+: ch.brought .line dst := by
    rintro text rfl
    simp [brought, hread, lineReading, h.isText, Data.appendText, Data.chars]
  cases hstop : ch.lineStop with
  | newline =>
    rw [hstop, hc] at hdel
    obtain ⟨text, htext, hpast⟩ := hdel
    refine .inl ((hpast.front_of_stop ?_).trans (hline text htext))
    rintro c hmem heq
    obtain rfl : '\n' = c := by simpa using heq
    exact hfree hmem
  | ended =>
    rw [hstop, hc] at hdel
    obtain ⟨-, ⟨text, htext, -, hpast⟩ | ⟨-, hpast⟩⟩ := hdel
    · exact .inl ((hpast.front_of_stop (by simp)).trans (hline text htext))
    · have hnone : cs <+: [] := hpast.front_of_stop (by simp)
      exact .inl (hnone.trans List.nil_prefix)
  | wouldBlock =>
    obtain ⟨-, hbuilt⟩ := buildInput_built h.readable
    have hpat := (ch.chain.readLine_delivers ch.settings.blocking ch.buildInput.2.device).2 hstop
    rw [lineStop, hpat] at hstop
    obtain ⟨ds, rest', hds⟩ := Input.Lines.coming_of_wouldBlock hstop
    have hoff : Coming.Off ds ch.coming (.delay :: rest') := (hbuilt.coming he).symm.trans hds
    rw [hc] at hoff
    obtain ⟨more, rfl⟩ := hoff.past.front_of_stop (by simp)
    exact .inr ⟨more, rest', hc.trans hoff⟩
  | failed e => exact absurd hstop (h.lineStop_ne_failed he e)

/-- The end that a read answers is noted. -/
theorem ended_of_status {ch : Channel δ} (h : ch.Readable)
    (hb : ch.settings.encoding.isBinary = false) {kind : ReadKind} {dst : Data}
    (hs : (read kind dst ch).1.status = .ok .ended) : (read kind dst ch).2.ended = true := by
  by_cases he : ch.ended = true
  · rw [read_ended h he, he]
  · have he : ch.ended = false := Bool.eq_false_iff.2 he
    have hunits : ∀ {kind n}, wanted kind = some n →
        (read kind dst ch).1.status = .ok .ended → (read kind dst ch).2.ended = true := by
      intro kind n hk hs
      obtain ⟨j, hj⟩ := read_text_eq h he hb hk dst
      rw [hj] at hs ⊢
      exact decide_eq_true (statusOf_eq_ended hs)
    cases kind with
    | all => exact hunits rfl hs
    | units n => exact hunits rfl hs
    | line =>
      obtain ⟨ended, j, hj, -, hnote⟩ := read_line_eq h he dst
      rw [hj] at hs ⊢
      exact hnote (lineReading_eq_ended hs)

theorem ended_of_exhausts {ch : Channel δ} (h : ch.Readable)
    (hb : ch.settings.encoding.isBinary = false) {requests : List (ReadKind × Data)}
    (hr : ch.Exhausts requests) : (ch.serve requests).2.ended = true := by
  induction requests generalizing ch with
  | nil =>
    obtain ⟨r, hmem, -⟩ := hr
    simp [Channel.serve] at hmem
  | cons request requests ih =>
    obtain ⟨hready, hsame⟩ := read_keeps h request.1 request.2
    obtain ⟨r, hmem, hs⟩ := hr
    rcases List.mem_cons.1 hmem with rfl | hmem
    · exact serve_ended hready (ended_of_status h hb hs) requests
    · exact ih hready (by rw [hsame, hb]) ⟨r, hmem, hs⟩

/-- Wherever delays come, in the middle of a byte order mark, of a character, of a line ending or of
a line: what is delivered is the beginning of the text of the whole stream, the end is seen only when
the device has said it and all the text is delivered, and a line that has to wait is not handed out
and comes first in what is read next. -/
theorem delays_lose_nothing {d : Transport.Rehearsed} {m : OpenMode} {s : Settings}
    (hscript : ∀ step ∈ d.reads, step.Continues) (hopen : (Transport.openInput d).1 = .ok ())
    (hm : m.isReadable = true) (he : s.encoding.isBinary = false) (hb : s.blocking = false)
    (hmark : s.inputMarker = 0) (requests : List (ReadKind × Data)) :
    let ch := ((opened d m s).serve requests).2
    let told := (opened d m s).delivered requests
    let text := s.encoding.textOf 0 s.inputTranslation (Transport.Step.payload d.reads)
    told <+: text ∧
      ((opened d m s).Exhausts requests → ch.ended = true) ∧
      (ch.ended = true → ch.device.Over ∧ told = text) ∧
      (ch.ended = false → ∀ cs rest, '\n' ∉ cs → ch.coming = Coming.ofUnits cs ++ .delay :: rest →
        ∀ dst, let ch' := (read .line dst ch).2
          (read .line dst ch).1 = ⟨.ok (.data 0), dst⟩ ∧ ch'.ended = false ∧
            ch'.coming = Coming.ofUnits cs ++ rest ∧ ∀ kind dst', ch'.Fronts cs kind dst') := by
  intro ch told text
  have hready := opened_readable hopen hm s
  have hquiet : (RawStream.coming d).eased.Unfailing := Transport.Step.sound_of_continues hscript
  have hflow : (opened d m s).Flowing := ⟨hready, he, unfailing_coming_opened hquiet m s⟩
  have hall : text = told ++ ch.coming.units := by
    rw [← units_coming_eq_delivered hready he, units_coming_opened hquiet, hmark]
    change text = s.encoding.textOf 0 s.inputTranslation (Transport.Step.coming d.reads).units
    rw [Transport.Step.units_coming, Transport.Step.contents_eq_payload hscript]
  refine ⟨hall ▸ List.prefix_append _ _, ended_of_exhausts hready he, fun hend => ?_, fun hend => ?_⟩
  · refine ⟨over_of_ended hscript hopen hm hmark requests hend, ?_⟩
    have hnil : ch.coming = [] := by rw [coming, if_pos hend]
    rw [hall, hnil, Coming.units_nil, List.append_nil]
  · intro cs rest hfree hc dst ch'
    have hch : ch.Flowing := hflow.serve requests
    have hnext : ch'.Flowing := hch.read .line dst
    have hblocking : ch.settings.blocking = false := by
      rw [(serve_keeps hready requests).2]
      exact hb
    obtain ⟨hread, hopen', hbehind⟩ := read_line_of_delay hch.readable hend hblocking hfree hc dst
    refine ⟨hread, hopen', hbehind, fun kind dst' => ?_⟩
    cases kind with
    | all => exact fronts_units hnext hopen' hbehind rfl dst'
    | units n => exact fronts_units hnext hopen' hbehind rfl dst'
    | line => exact fronts_line hnext hopen' hfree hbehind dst'

/-- A byte order mark, a character and a pair at the end of a line have to wait in the middle. -/
theorem delays_lose_nothing_split :
    let d := Transport.Rehearsed.quiet.feed
      [.units [0xEF], .delay, .units [0xBB, 0xBF, 0x61, 0xC3], .delay, .units [0xA9, 0x0D], .delay,
        .units [0x0A, 0x62]]
    let s := { Settings.default with blocking := false }
    let ch := ((opened d .readOnly s).serve [(.line, .text []), (.line, .text [])]).2
    let ch' := (read .line (.text ['>']) ch).2
    (read .line (.text ['>']) ch).1 = ⟨.ok (.data 0), .text ['>']⟩ ∧ ch'.ended = false ∧
      ['a', 'é'] <+: ch'.brought (.units 5) (.text []) := by
  intro d s ch ch'
  obtain ⟨-, -, -, hline⟩ := delays_lose_nothing (d := d) (m := .readOnly) (s := s) (by decide) rfl rfl
    rfl rfl rfl [(.line, .text []), (.line, .text [])]
  obtain ⟨hread, hopen, -, hfronts⟩ := hline (by decide) ['a', 'é'] (Coming.ofUnits ['\n', 'b'])
    (by decide) (by decide) (.text ['>'])
  exact ⟨hread, hopen, hfronts (.units 5) (.text [])⟩

end Channel

end ScriptChannel
