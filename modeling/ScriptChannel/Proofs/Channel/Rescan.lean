import ScriptChannel.Channel.Configure
import ScriptChannel.Proofs.Channel.Undelivered

/-!
# Another end marker

With another end marker in force a channel looks again at all that it has not delivered. Characters
that wait are put back into bytes and go in front of the bytes that wait below. What the decoder
keeps stays there, so if characters were put back in front of it the bytes do not come in the order
of the stream any more, and a character is torn.
-/

namespace ScriptChannel

namespace Translation

theorem replacement_plain (n : Nat) :
    ∀ c ∈ List.replicate n Charset.replacement, c ≠ '\n' ∧ c ≠ '\r' := by
  intro c hc
  rw [List.eq_of_mem_replicate hc]
  decide

/-- A replacement character in front is one character more. -/
theorem length_read_replacement (t : Translation) (cs : List Char) :
    (t.read (Charset.replacement :: cs)).length = (t.read cs).length + 1 := by
  have hlength := Endings.length_text_plain (replacement_plain 1) (by simp) ⟨t, false⟩ [] cs
  have hstart : Endings.text ⟨t, false⟩ ((List.replicate 1 Charset.replacement) ++ cs) =
      t.read (Charset.replacement :: cs) := Endings.text_eq_read t _
  rw [List.nil_append, hstart] at hlength
  have hrest : Endings.text ⟨((⟨t, false⟩ : Endings).after []).settle, false⟩ cs = t.read cs :=
    Endings.text_eq_read t cs
  rw [hrest, List.length_replicate] at hlength
  simpa [Endings.text, Endings.rest, Nat.add_comm] using hlength

/-- The text with a torn character in it is not the text with the character. -/
theorem read_torn_ne (t : Translation) {c : Char} (hc : 0x80 ≤ c.toNat) (n : Nat) (cs ds : List Char) :
    t.read (Charset.replacement :: cs ++ (List.replicate (n + 1) Charset.replacement ++ ds)) ≠
      t.read (cs ++ c :: ds) := by
  have hplain : ∀ x ∈ [c], x ≠ '\n' ∧ x ≠ '\r' := by
    intro x hx
    rw [List.mem_singleton.1 hx]
    constructor
    · rintro rfl
      exact absurd hc (by decide)
    · rintro rfl
      exact absurd hc (by decide)
  have htorn := Endings.length_text_plain (replacement_plain (n + 1)) (by simp) ⟨t, false⟩ cs ds
  have hwhole := Endings.length_text_plain hplain (by simp) ⟨t, false⟩ cs ds
  rw [Endings.text_eq_read, List.length_replicate] at htorn
  rw [Endings.text_eq_read, List.length_singleton, List.singleton_append] at hwhole
  intro h
  have hlength := congrArg List.length h
  rw [List.cons_append, length_read_replacement, htorn, hwhole] at hlength
  omega

end Translation

namespace Input

/-- Taking back an end that was not seen changes nothing. -/
theorem Decoding.cancelEnd_eq (d : Decoding) :
    d.cancelEnd = { d with
      finished := false
      decoder := if d.finished then d.encoding.decoder? else d.decoder } := by
  obtain ⟨encoding, decoder, surplus, atStart, finished⟩ := d
  cases finished <;> rfl

namespace Chain

/-- The decoder keeps the beginning of a character, and characters that come before it wait. -/
def Straddles (c : Chain) : Prop := c.decoded ≠ [] ∧ c.decoding.half ≠ []

instance (c : Chain) : Decidable c.Straddles :=
  inferInstanceAs (Decidable (c.decoded ≠ [] ∧ c.decoding.half ≠ []))

variable {δ : Type} [Transport δ] [StockedDevice δ] {e : Encoding} {stream : List UInt8}
  {m m' : UInt8} {told : List Char} {c : Chain} {d : δ}

theorem rescan_decoding (e : Encoding) (m : UInt8) (c : Chain) :
    (c.rescan e m).decoding = { c.decoding with
      surplus := []
      finished := false
      decoder := if c.decoding.finished then c.decoding.encoding.decoder? else c.decoding.decoder } :=
  Decoding.cancelEnd_eq _

/-- Nothing is left over but what goes back into the first stage. -/
theorem Tallied.clear_rescan {k : Decoding.Course} (h : c.Tallied k told d) (e : Encoding)
    (m : UInt8) : (c.rescan e m).Clear := by
  obtain ⟨⟨used, bs, hacc⟩, -⟩ := h
  change Decoding.Account _ (told ++ c.lines.pending) used bs (c.decoding, c.lower d) at hacc
  refine ⟨?_, rfl, ?_, ?_, ?_, rfl, rfl, rfl, rfl⟩
  · simp [rescan, Lines.takePending, Lines.cancelEnd, Lines.pending]
  · rw [rescan_decoding]
    exact ⟨rfl, rfl⟩
  · intro hstart
    rw [rescan_decoding] at hstart ⊢
    have hd : c.decoding = .init k.encoding := (hacc.fresh hstart).1
    rw [hd]
    rfl
  · have hdec : c.decoding.decoder.isSome = c.decoding.encoding.decoder?.isSome := hacc.decodes
    rw [rescan_decoding]
    dsimp only
    split
    · rfl
    · exact hdec

theorem Tallied.encoding {k : Decoding.Course} (h : c.Tallied k told d) :
    c.decoding.encoding = k.encoding := by
  obtain ⟨⟨used, bs, hacc⟩, -⟩ := h
  exact hacc.encoding

theorem Tallied.lasting {k : Decoding.Course} (h : c.Tallied k told d) : RawStock.Lasting d := by
  obtain ⟨⟨used, bs, hacc⟩, -⟩ := h
  exact hacc.spent.lasting

/-- The bytes in front of an input side that looks again. -/
theorem stream_rescan (hc : (c.rescan e m).Clear) :
    (hc.course (RawStock.stock d)).stream = e.unread c.decoded ++ Stocked.stock (c.lower d) := by
  simp [Clear.course, Decoding.Course.of, rescan, Stocked.stock, Rewind.stock, ReadAhead.stock,
    Cutoff.stock, lower, Cutoff.unread, Cutoff.setMarker]

theorem body_rescan (hc : (c.rescan e m).Clear) :
    (hc.course (RawStock.stock d)).body =
      let bs := upToMarker m (e.unread c.decoded ++ Stocked.stock (c.lower d))
      if c.decoding.atStart then c.decoding.encoding.skipMark bs else bs := by
  have hstream := stream_rescan (d := d) hc
  dsimp only
  rw [← hstream]
  simp only [Clear.course, Decoding.Course.of, rescan_decoding]
  rfl

/-- Where bytes are characters as they stand, all that is left is read from where it was left. -/
theorem Tallied.text_rescan_bytes (h : c.Tallied (.fresh e stream m) told d) (he : e.decoder? = none)
    (hc : (c.rescan e m').Clear) :
    ¬ c.Straddles ∧ (hc.course (RawStock.stock d)).text =
      let bs := upToMarker m' (c.undelivered e d)
      e.decode (if c.decoding.atStart then e.skipMark bs else bs) := by
  obtain ⟨hdec, -⟩ := h.position_of_bytes he
  have henc : c.decoding.encoding = e := h.encoding
  have hhalf : c.decoding.half = [] := by simp [Decoding.half, hdec]
  refine ⟨fun hs => hs.2 hhalf, ?_⟩
  have hnone : (hc.course (RawStock.stock d)).decoder = none := by
    simp [Clear.course, Decoding.Course.of, rescan_decoding, henc, he, hdec]
  rw [Decoding.Course.text, hnone, body_rescan, undelivered_eq, hhalf, henc]
  dsimp only
  rw [Encoding.decode_of_bytes he]
  rfl

section Utf8
open Charset
variable {front : List UInt8} {rest : List Char}

theorem Stance.text_rescan (h : Stance stream told front rest c d)
    (henc : c.decoding.encoding = .utf8) (hc : (c.rescan .utf8 m').Clear) :
    (hc.course (RawStock.stock d)).text =
      let bs := upToMarker m' (Utf8.bytes c.decoded ++ Stocked.stock (c.lower d))
      Utf8.readFrom c.decoding.half
        (if c.decoding.atStart then Encoding.utf8.skipMark bs else bs) := by
  have hsome : (hc.course (RawStock.stock d)).decoder = some (Utf8.holding c.decoding.half) := by
    simp only [Clear.course, Decoding.Course.of, rescan_decoding]
    by_cases hf : c.decoding.finished = true
    · rw [if_pos hf, henc, h.finished hf]
      rfl
    · rw [if_neg hf]
      exact h.decoder (Bool.eq_false_iff.2 hf)
  rw [Decoding.Course.text, hsome, body_rescan, henc, Encoding.unread_utf8]
  rfl

/-- What is read from what is left is its text just if no character is torn. -/
theorem Stance.text_rescan_iff (h : Stance stream told front rest c d)
    (henc : c.decoding.encoding = .utf8) (hm : m'.toNat < 0x80) (hc : (c.rescan .utf8 m').Clear) :
    let bs := upToMarker m' (c.undelivered .utf8 d)
    let text := Encoding.utf8.decode (if c.decoding.atStart then Encoding.utf8.skipMark bs else bs)
    (¬ c.Straddles → (hc.course (RawStock.stock d)).text = text) ∧
      (c.Straddles → ∀ t : Translation, t.read (hc.course (RawStock.stock d)).text ≠ t.read text) := by
  rw [h.text_rescan henc hc, undelivered_eq, Encoding.unread_utf8]
  dsimp only
  by_cases hhalf : c.decoding.half = []
  · rw [hhalf]
    exact ⟨fun _ => rfl, fun hs => absurd hhalf hs.2⟩
  · -- a decoding that has begun a character is behind the start
    have hstart : ¬ c.decoding.atStart = true := fun hs => hhalf (h.start hs).2.2.2
    rw [if_neg hstart, if_neg hstart]
    by_cases hdecoded : c.decoded = []
    · rw [hdecoded]
      exact ⟨fun _ => Utf8.readFrom_kept h.cut hm, fun hs => absurd hdecoded hs.1⟩
    · refine ⟨fun hs => absurd ⟨hdecoded, hhalf⟩ hs, fun _ t => ?_⟩
      rw [Encoding.decode_utf8]
      rcases Utf8.readFrom_moved h.cut hm hdecoded hhalf with
        ⟨as, htorn, hwhole⟩ | ⟨n, x, ds, hx, htorn, hwhole⟩
      · rw [htorn, hwhole]
        intro heq
        have hlength := congrArg List.length heq
        rw [t.length_read_replacement] at hlength
        omega
      · rw [htorn, hwhole]
        exact t.read_torn_ne hx n c.decoded ds

end Utf8

/-- Of a stream that is a text, what is left is read as its text just if no character is torn. Torn
it differs, whatever becomes of the line endings. -/
theorem Tallied.text_rescan_iff (h : c.Tallied (.fresh e stream m) told d) (hv : e.Valid stream)
    (hm : e.Spares m) (hm' : e.Spares m') (hc : (c.rescan e m').Clear) :
    let bs := upToMarker m' (c.undelivered e d)
    let text := e.decode (if c.decoding.atStart then e.skipMark bs else bs)
    (¬ c.Straddles → (hc.course (RawStock.stock d)).text = text) ∧
      (c.Straddles → e.isBinary = false ∧
        ∀ t : Translation, t.read (hc.course (RawStock.stock d)).text ≠ t.read text) := by
  cases hv with
  | binary | latin1 =>
    obtain ⟨hnot, htext⟩ := h.text_rescan_bytes rfl hc
    exact ⟨fun _ => htext, fun hs => absurd hs hnot⟩
  | utf8 cs =>
    obtain ⟨front, rest, hstance⟩ := h.stance rfl (hm rfl)
    obtain ⟨hsame, hdiffers⟩ := hstance.text_rescan_iff h.encoding (hm' rfl) hc
    exact ⟨hsame, fun hs => ⟨rfl, hdiffers hs⟩⟩

end Chain

end Input

namespace Channel

/-- How a run brings a text. Where all goes through the line endings it brings the translation, where
all goes around them the text itself, and in any case a rendering. -/
structure Conveys (e : Encoding) (t : Translation) (requests : List (ReadKind × Data))
    (text out : List Char) : Prop where
  translated : (e.isBinary = true → ∀ r ∈ requests, r.1 = .line) → out = t.read text
  plain : e.isBinary = true → (∀ r ∈ requests, r.1 ≠ .line) → out = text
  rendered : t.Renders text out

/-- The translation that stands for the native one knows the same endings. -/
theorem Conveys.of_init {e : Encoding} {t : Translation} {requests : List (ReadKind × Data)}
    {text out : List Char} (h : Conveys e (Input.Lines.init t).mode requests text out) :
    Conveys e t requests text out where
  translated hr := by
    rw [h.translated hr, ← Endings.text_eq_read, Input.Lines.text_init]
  plain := h.plain
  rendered := by
    cases t with
    | platform =>
      refine h.rendered.mono ?_ ?_
      · rintro (h | h) <;> cases h
      · rintro (h | h) <;> cases h
    | auto | lf | cr | crlf | binary => exact h.rendered

variable {δ : Type} [Transport δ] [StockedDevice δ] {ch : Channel δ}

section Clear
variable (hc : ch.chain.Clear) (hr : ch.Readable) (hd : RawStock.Lasting ch.device)
  (he : ch.settings.encoding = ch.chain.decoding.encoding) (hended : ch.ended = false)
include hr hd he hended

/-- From a channel with nothing left over a run brings the text from its front, and all of it once it
has met the end. -/
theorem conveys_of_clear (requests : List (ReadKind × Data)) :
    let k := hc.course (RawStock.stock ch.device)
    (∃ told, (ch.serve requests).2.chain.Tallied k told (ch.serve requests).2.device ∧
      Conveys ch.settings.encoding ch.chain.lines.mode requests told (ch.delivered requests)) ∧
    (ch.Exhausts requests →
      Conveys ch.settings.encoding ch.chain.lines.mode requests k.text (ch.delivered requests)) := by
  intro k
  have henc : ch.settings.encoding = k.encoding := he
  have hledger := ledger_of_clear hc hr hd he hended
  by_cases hb : ch.settings.encoding.isBinary = true
  · have hk : k.encoding.isBinary = true := henc ▸ hb
    obtain ⟨us, htally, hrenders, hplain, hexh⟩ :=
      (tally_of_clear hc hr hd he hended).serve hk requests
    rw [List.nil_append] at htally
    have hconveys : Conveys ch.settings.encoding ch.chain.lines.mode requests us
        (ch.delivered requests) := by
      refine ⟨fun hlines => ?_, fun _ => hplain, hrenders⟩
      obtain ⟨⟨cs, hrun⟩, -⟩ := hledger.serve requests fun _ => hlines hb
      -- both accounts are of the same characters
      have hsame : us = cs := by
        have hunique := htally.tallied.below.unique (k.decoder_of_binary hk) hrun.told.tallied.below
        exact List.append_cancel_right hunique
      rw [hsame, ← Endings.text_eq_read, ← hrun.told.handed]
      rfl
    refine ⟨⟨us, htally.tallied, hconveys⟩, ?_⟩
    intro hends
    rw [← htally.ended (hexh hends)]
    exact hconveys
  · obtain ⟨⟨cs, hrun⟩, hexh⟩ := hledger.serve requests fun hk => absurd (henc ▸ hk) hb
    have hconveys : ∀ text, ch.delivered requests = Endings.text ⟨ch.chain.lines.mode, false⟩ text →
        Conveys ch.settings.encoding ch.chain.lines.mode requests text (ch.delivered requests) := by
      intro text htext
      rw [htext, Endings.text_eq_read]
      exact ⟨fun _ => rfl, fun h => absurd h hb, Translation.renders_read _ _⟩
    refine ⟨⟨cs, hrun.told.tallied, hconveys cs hrun.told.handed⟩, ?_⟩
    exact fun hends => hconveys k.text (hrun.ended (hexh hends))

end Clear

/-- What another end marker makes of a channel. -/
structure Rescans (marker : UInt8) (ch ch' : Channel δ) : Prop where
  readable : ch'.Readable
  chain : ch'.chain = ch.chain.rescan ch.settings.encoding marker
  device : ch'.device = ch.device
  encoding : ch'.settings.encoding = ch.settings.encoding
  ended : ch'.ended = false

omit [StockedDevice δ] in
/-- The input side looks again, or will be built with the new marker. -/
theorem setInputMarker_rescans [InputDevice δ] (hr : ch.Readable) {marker : UInt8}
    (hne : marker ≠ ch.settings.inputMarker) : Rescans marker ch (ch.setInputMarker marker) := by
  have hset : ch.setInputMarker marker =
      { ch.configure ({ · with inputMarker := marker })
          (Input.Chain.rescan ch.settings.encoding marker) id with ended := false } := by
    simp [setInputMarker, hr.mode, hne]
  rw [hset]
  refine ⟨⟨hr.opened, hr.mode, ?_, ?_⟩, ?_, rfl, rfl, rfl⟩
  · simp [configure, hr.quiet]
  · intro hnone
    apply hr.opens
    simpa [configure] using hnone
  · have hfresh : ∀ s : Settings, newInput { s with inputMarker := marker } =
        (newInput s).rescan s.encoding marker := by
      intro s
      simp [newInput, Input.Chain.rescan, Input.Chain.decoded, Input.Lines.init, Input.Lines.pending,
        Input.Lines.takePending, Input.Lines.cancelEnd, Input.Decoding.init,
        Input.Decoding.takeSurplus, Input.Decoding.cancelEnd, Input.Rewind.init,
        Input.Rewind.takeReplay, Input.ReadAhead.init, Input.ReadAhead.takeCached,
        Input.ReadAhead.cancelEnd, Input.Cutoff.init, Input.Cutoff.setMarker, Input.Cutoff.unread]
    cases hi : ch.input with
    | none => simpa [chain, configure, hi] using hfresh ch.settings
    | some c => simp [chain, configure, hi]

/-- From a channel that looks again a run brings the text of what was put back and what is left. -/
theorem conveys_rescan {ch' : Channel δ} {k : Input.Decoding.Course} {c : Input.Chain} {d : δ}
    {told : List Char} {e : Encoding} {marker : UInt8} (h : c.Tallied k told d)
    (hk : k.encoding = e) (hc : (c.rescan e marker).Clear) (hr : ch'.Readable)
    (hchain : ch'.chain = c.rescan e marker) (hd : ch'.device = d) (he : ch'.settings.encoding = e)
    (hended : ch'.ended = false) (requests : List (ReadKind × Data)) :
    let text := (hc.course (RawStock.stock d)).text
    (∃ told', told' <+: text ∧
      Conveys e c.lines.mode requests told' (ch'.delivered requests)) ∧
    (ch'.Exhausts requests → Conveys e c.lines.mode requests text (ch'.delivered requests)) := by
  have hc' : ch'.chain.Clear := hchain ▸ hc
  have hcourse : ∀ c' (hc' : Input.Chain.Clear c'), c' = c.rescan e marker →
      hc'.course (RawStock.stock d) = hc.course (RawStock.stock d) := by
    rintro _ hc' rfl
    rfl
  have henc : ch'.settings.encoding = ch'.chain.decoding.encoding := by
    rw [he, hchain, Input.Chain.rescan_decoding]
    exact (h.encoding.trans hk).symm
  have hmode : ch'.chain.lines.mode = c.lines.mode := by
    rw [hchain]
    rfl
  obtain ⟨⟨told', htallied, htold⟩, hall⟩ :=
    conveys_of_clear hc' hr (hd ▸ h.lasting) henc hended requests
  rw [hd, hcourse _ hc' hchain] at htallied hall
  rw [he, hmode] at htold hall
  exact ⟨⟨told', htallied.begins_text, htold⟩, hall⟩

/-- After any reads of a stream that is a text, the stream is what was delivered and what was not.
With another end marker in force the channel has not ended. What it delivers from then on is the text
of what was not delivered, up to the new marker, just if no characters wait in front of half a one
that the decoder keeps. -/
theorem delivered_iff_not_straddles {d : Transport.Rehearsed} {m : OpenMode} {s : Settings}
    (hscript : ∀ step ∈ d.reads, step.Continues) (hopen : (Transport.openInput d).1 = .ok ())
    (hm : m.isReadable = true) (hv : s.encoding.Valid (Transport.Step.contents d.reads))
    (hold : s.encoding.Spares s.inputMarker) (marker : UInt8) (hnew : s.encoding.Spares marker)
    (hne : marker ≠ s.inputMarker) (history later : List (ReadKind × Data)) :
    let ch := ((opened d m s).serve history).2
    let ch' := ch.setInputMarker marker
    let left := ch.chain.undelivered s.encoding ch.device
    ch'.ended = false ∧ ∃ used, Transport.Step.contents d.reads = used ++ left ∧
      Conveys s.encoding s.inputTranslation history (s.encoding.decode (s.encoding.skipMark used))
        ((opened d m s).delivered history) ∧
      let text := s.encoding.decode (s.encoding.resume used (upToMarker marker left))
      (¬ ch.chain.Straddles → ∃ told, told <+: text ∧
        Conveys s.encoding ch.chain.lines.mode later told (ch'.delivered later)) ∧
      (ch'.Exhausts later →
        (Conveys s.encoding ch.chain.lines.mode later text (ch'.delivered later) ↔
          ¬ ch.chain.Straddles)) := by
  intro ch ch' left
  have hready := opened_readable hopen hm s
  have hcontents := Transport.Step.contents_eq_payload hscript
  obtain ⟨⟨told, htallied, htold⟩, -⟩ :=
    conveys_of_clear (show (opened d m s).chain.Clear from clear_newInput s) hready hscript rfl rfl history
  obtain ⟨hchReady, hchSettings⟩ := serve_keeps hready history
  change ch.Readable at hchReady
  change ch.settings = s at hchSettings
  have hfresh : ch.chain.Tallied (.fresh s.encoding (Transport.Step.contents d.reads) s.inputMarker)
      told ch.device := by
    rw [hcontents]
    exact htallied
  obtain ⟨used, hstream, hused, hresume⟩ := hfresh.position hv hold
  have hchanged : marker ≠ ch.settings.inputMarker := by rwa [hchSettings]
  obtain ⟨hready', hchain, hdevice, hencoding, hended⟩ := setInputMarker_rescans hchReady hchanged
  refine ⟨hended, used, hstream, ?_, ?_⟩
  · rw [hused]
    exact htold.of_init
  · rw [hresume _ (upToMarker_begins marker left)]
    have hclear := hfresh.clear_rescan s.encoding marker
    rw [hchSettings] at hchain hencoding
    obtain ⟨hsame, hdiffers⟩ := hfresh.text_rescan_iff hv hold hnew hclear
    obtain ⟨⟨told', hbegins, htold'⟩, hall⟩ :=
      conveys_rescan hfresh rfl hclear hready' hchain hdevice hencoding hended later
    refine ⟨fun hs => ⟨told', ?_, htold'⟩, fun hends => ⟨fun hconveys hs => ?_, fun hs => ?_⟩⟩
    · rw [← hsame hs]
      exact hbegins
    · -- torn, the text is read through the line endings and is not the one expected
      obtain ⟨hb, hne⟩ := hdiffers hs
      have hlines : s.encoding.isBinary = true → ∀ r ∈ later, r.1 = .line := by simp [hb]
      exact hne _ (((hall hends).translated hlines).symm.trans (hconveys.translated hlines))
    · rw [← hsame hs]
      exact hall hends

/-- Half a character that nothing waits in front of is completed. -/
theorem delivered_behind_half :
    let d := Transport.Rehearsed.quiet.feed
      [.units [0x61, 0xC3], .delay, .units [0xA9, 0x0A, 0x1A, 0x62]]
    let s := { Settings.default with blocking := false }
    let later : List (ReadKind × Data) := [(.units 5, .text []), (.line, .text []), (.all, .text [])]
    let ch := ((opened d .readOnly s).serve [(.units 5, .text [])]).2
    let left := ch.chain.undelivered .utf8 ch.device
    ∃ used, Transport.Step.contents d.reads = used ++ left ∧
      Conveys .utf8 ch.chain.lines.mode later
        (Encoding.utf8.decode (Encoding.utf8.resume used (upToMarker 0x1A left)))
        ((ch.setInputMarker 0x1A).delivered later) := by
  intro d s later ch left
  have hv : Encoding.utf8.Valid (Transport.Step.contents d.reads) :=
    .utf8 ['a', 'é', '\n', '\x1A', 'b']
  obtain ⟨-, used, hstream, -, -, hiff⟩ := delivered_iff_not_straddles (d := d) (m := .readOnly) (s := s)
    (by decide) rfl rfl hv (by decide) 0x1A (by decide) (by decide) [(.units 5, .text [])] later
  exact ⟨used, hstream, (hiff (by decide)).2 (by decide)⟩

/-- The half of a character that an incomplete line ends in is torn from its rest. -/
theorem delivered_torn :
    let d := Transport.Rehearsed.quiet.feed [.units [0x61, 0x62, 0xC3], .delay, .units [0xA9, 0x0A]]
    let s := { Settings.default with blocking := false }
    let history : List (ReadKind × Data) := [(.line, .text [])]
    let later : List (ReadKind × Data) := [(.all, .text []), (.all, .text [])]
    let ch := ((opened d .readOnly s).serve history).2
    (opened d .readOnly s).delivered history = [] ∧ (ch.setInputMarker 0x1A).Exhausts later ∧
      (ch.setInputMarker 0x1A).delivered later = ['\uFFFD', 'a', 'b', '\uFFFD', '\n'] ∧
      s.encoding.textOf 0x1A s.inputTranslation (Transport.Step.contents d.reads) =
        ['a', 'b', 'é', '\n'] := by
  decide

end Channel

end ScriptChannel
