import ScriptChannel.Proofs.Channel.OutputSide

/-!
# The stages and the settings

A setting goes to the stages that are built, and to those built later by way of the settings. So each
stage holds what the channel is set to, whatever was called in which order, and the decoder and the
encoder are those of the encoding in force. A setting that is refused changes nothing.
-/

namespace ScriptChannel

namespace Encoding.Encoder

/-- The encoding that an encoder is for. -/
def encoding : Encoder → Encoding
  | .lowBytes => .binary
  | .latin1 => .latin1
  | .charset e => .charset e.charset

/-- The encoder of a standard set as an object of its own. UTF-16 is written without one, as Latin-1
and raw bytes are. -/
def object? : Encoder → Option Charset.Encoder
  | .charset e => if e.charset.isUtf16 then none else some e
  | _ => none

theorem encoding_encoder (e : Encoding) : e.encoder.encoding = e := by
  cases e <;> rfl

theorem encoding_feed (substitute : Char → List UInt8) (r : Encoder) (cs : List Char) :
    (r.feed substitute cs).2.encoding = r.encoding := by
  cases r with
  | lowBytes | latin1 => rfl
  | charset e => exact congrArg Encoding.charset (e.charset_feed substitute cs)

/-- There is an object just for the standard sets other than UTF-16. -/
theorem object_iff (r : Encoder) (t : Charset) :
    (∃ e, r.object? = some e ∧ e.charset = t) ↔ r.encoding = .charset t ∧ t.isUtf16 = false := by
  cases r with
  | lowBytes | latin1 => simp [object?, encoding]
  | charset e =>
    simp only [object?, encoding, Encoding.charset.injEq]
    constructor
    · rintro ⟨e', he, rfl⟩
      split at he
      · cases he
      · obtain rfl := Option.some.inj he
        exact ⟨rfl, Bool.eq_false_iff.2 ‹_›⟩
    · rintro ⟨rfl, hw⟩
      exact ⟨e, by simp [hw], rfl⟩

end Encoding.Encoder

/-- The input side is set to what the settings say, and has a decoder just if the encoding is a
standard set, and then one for that set. -/
structure Input.Chain.Follows (c : Input.Chain) (s : Settings) : Prop where
  bufferSize : c.readAhead.size = s.bufferSize
  buffering : c.readAhead.buffering = s.buffering
  blocking : c.readAhead.blocking = s.blocking
  translation : c.lines.translation = s.inputTranslation
  marker : c.cutoff.marker = s.inputMarker
  encoding : c.decoding.encoding = s.encoding
  decoder (t : Charset) :
    (∃ r, c.decoding.decoder = some r ∧ r.charset = t) ↔ s.encoding = .charset t

/-- The output side is set to what the settings say, and its encoder is one for the encoding. -/
structure Output.Follows (o : Output) (s : Settings) : Prop where
  bufferSize : o.size = s.bufferSize
  buffering : o.buffering = s.buffering
  blocking : o.blocking = s.blocking
  translation : o.translation = s.outputTranslation
  marker : o.marker = s.outputMarker
  encoding : o.encoding = s.encoding
  encodes : o.encoder.encoding = s.encoding

theorem Input.Chain.follows_of {c : Input.Chain} {s : Settings} (htuned : c.tuning = s.tuning)
    (hequipped : c.decoding.decoder.map (·.charset) = s.encoding.decoder?.map (·.charset)) :
    c.Follows s := by
  simp only [tuning, ReadAhead.tuning, Settings.tuning, Prod.mk.injEq] at htuned
  obtain ⟨htranslation, hencoding, ⟨hsize, hbuffering, hblocking⟩, hmarker⟩ := htuned
  refine ⟨hsize, hbuffering, hblocking, htranslation, hmarker, hencoding, fun t => ?_⟩
  rw [← Option.map_eq_some_iff (f := fun r : Charset.Decoder => r.charset), hequipped]
  cases s.encoding <;> simp [Encoding.decoder?, Charset.decoder]

namespace Channel

/-- What a call makes of the settings of a channel that was opened in this mode. -/
def Op.sets (m : OpenMode) : Op → Settings → Settings
  | setEncoding none, s => { s with encoding := .binary }
  | setEncoding (some name), s => { s with encoding := (Encoding.lookup? name).getD s.encoding }
  | setBufferSize size, s => if 1 ≤ size ∧ size ≤ 1024 * 1024 then { s with bufferSize := size } else s
  | setBuffering b, s => { s with buffering := b }
  | setBlocking b, s => { s with blocking := b }
  | setInputTranslation t, s => if m.isReadable then { s with inputTranslation := t } else s
  | setOutputTranslation t, s => if m.isWritable then { s with outputTranslation := t } else s
  | setInputMarker b, s => if m.isReadable then { s with inputMarker := b } else s
  | setOutputMarker b, s => if m.isWritable then { s with outputMarker := b } else s
  | _, s => s

variable {δ : Type} [Transport δ]

theorem settings_perform (op : Op) (ch : Channel δ) :
    (op.perform ch).settings = op.sets ch.mode ch.settings := by
  cases op with
  | read kind dst => exact (spares_read kind dst ch).settings
  | write p => exact (sent_write p ch).settings
  | flush => exact (spares_flush ch).settings
  | seek p => exact (spares_seek p ch).settings
  | close =>
    rcases close_cases ch with hsame | hb
    · exact congrArg settings hsame
    · exact hb.settings
  | setEncoding name =>
    cases name with
    | none => rfl
    | some name =>
      simp only [Op.perform, Channel.setEncoding, Op.sets]
      split
      · rename_i e he
        simp [he, setEncodingTo, configure]
      · rename_i he
        simp [he]
  | setBufferSize size =>
    simp only [Op.perform, Channel.setBufferSize, Op.sets]
    split <;> rename_i hsize
    · exact (if_pos hsize).symm
    · exact (if_neg hsize).symm
  | setBuffering b | setBlocking b => rfl
  | setInputTranslation t =>
    simp only [Op.perform, Channel.setInputTranslation, Op.sets]
    split <;> rfl
  | setOutputTranslation t =>
    simp only [Op.perform, Channel.setOutputTranslation, Op.sets]
    split <;> rfl
  | setInputMarker b =>
    simp only [Op.perform, Channel.setInputMarker, Op.sets]
    by_cases hm : ch.mode.isReadable = true
    · by_cases hb : b = ch.settings.inputMarker
      · simp [hm, hb]
      · simp [hm, hb, configure]
    · simp [hm]
  | setOutputMarker b =>
    simp only [Op.perform, Channel.setOutputMarker, Op.sets]
    split <;> rfl

/-- The settings of a channel are what was set last. -/
theorem settings_after (ops : List Op) (ch : Channel δ) :
    (after ops ch).settings = ops.foldl (fun s op => op.sets ch.mode s) ch.settings := by
  induction ops generalizing ch with
  | nil => rfl
  | cons op ops ih =>
    have hrest := ih (op.perform ch)
    rw [mode_perform, settings_perform] at hrest
    exact hrest

omit [Transport δ] in
theorem bufferSize_sets {m : OpenMode} (op : Op) {s : Settings}
    (h : 1 ≤ s.bufferSize ∧ s.bufferSize ≤ 1024 * 1024) :
    1 ≤ (op.sets m s).bufferSize ∧ (op.sets m s).bufferSize ≤ 1024 * 1024 := by
  cases op with
  | setEncoding name => cases name <;> exact h
  | setBufferSize size =>
    simp only [Op.sets]
    split
    · assumption
    · exact h
  | setInputTranslation | setOutputTranslation | setInputMarker | setOutputMarker =>
    simp only [Op.sets]
    split <;> exact h
  | _ => exact h

/-- The decoder is the one for the encoding that is set. -/
theorem equipped_invariant : Invariant δ fun s _ c =>
    c.decoding.equipment = (s.encoding, s.encoding.decoder?.map (·.charset)) where
  fresh _ := rfl
  text h _ n d := (Input.Chain.equipment_readText n d).trans h
  bytes h _ n d := (Input.Chain.equipment_readBytes n d).trans h
  line {s _} h d := (Input.Chain.equipment_readLine s.blocking d).trans h
  resumed {s _ c} h n := by
    have hsame : c.decoding.encoding = s.encoding := congrArg Prod.fst h
    obtain ⟨-, hencoding, hdecoder, -⟩ := c.resumed_keeps n
    rw [Input.Decoding.equipment, hencoding, hdecoder, hsame]
  encoding _ _ := rfl
  bufferSize h _ := h
  buffering h _ := h
  blocking h _ := h
  translation h _ := h
  marker {s _ c} h m := by
    have hsame : c.decoding.encoding = s.encoding := congrArg Prod.fst h
    simp only [Input.Chain.rescan, Input.Decoding.cancelEnd]
    split
    · simp [Input.Decoding.equipment, Input.Decoding.takeSurplus, hsame]
    · exact h
  output h _ _ := h

/-- The output side is set to what the channel is set to. -/
theorem follows_invariant : OutputInvariant fun s o => o.Follows s where
  fresh s _ := ⟨rfl, rfl, rfl, rfl, rfl, rfl, Encoding.Encoder.encoding_encoder s.encoding⟩
  encode h cs := { h with encodes := (Encoding.Encoder.encoding_feed _ _ cs).trans h.encodes }
  emptied h := { h with }
  encoding h e := { h with encoding := rfl, encodes := Encoding.Encoder.encoding_encoder e }
  bufferSize h _ := { h with bufferSize := rfl }
  buffering h _ := { h with buffering := rfl }
  blocking h _ := { h with blocking := rfl }
  translation h _ := { h with translation := rfl }
  marker h _ := { h with marker := rfl }
  input h _ _ := { h with }

/-- After any calls, failed ones or not, the stages that are built follow the settings, and these are
what was set last and was not refused. The buffer size is always within its bounds, and a setting that
is refused leaves the channel as it was. -/
theorem stages_follow_settings (d : δ) (m : OpenMode) (ops : List Op) :
    let ch := after ops (init d m)
    ch.settings = ops.foldl (fun s op => op.sets m s) .default ∧
    (∀ c, ch.input = some c → c.Follows ch.settings) ∧
    (∀ o, ch.output = some o → o.Follows ch.settings ∧
      ∀ t, (∃ e, o.encoder.object? = some e ∧ e.charset = t) ↔
        ch.settings.encoding = .charset t ∧ t.isUtf16 = false) ∧
    (1 ≤ ch.settings.bufferSize ∧ ch.settings.bufferSize ≤ 1024 * 1024) ∧
    (∀ name, Encoding.lookup? name = none →
      ch.setEncoding (some name) = (.error (.unknownEncoding name), ch)) ∧
    ∀ size, ¬ (1 ≤ size ∧ size ≤ 1024 * 1024) →
      ch.setBufferSize size = (.error (.invalidBufferSize size (1024 * 1024)), ch) := by
  intro ch
  have hsettings : ch.settings = ops.foldl (fun s op => op.sets m s) .default :=
    settings_after ops (init d m)
  have htuned : ch.Upholds fun s _ c => c.tuning = s.tuning :=
    (Upholds.opened d m .default).after tuned_invariant ops
  have hequipped := (Upholds.opened d m .default).after equipped_invariant ops
  have hfollows : ch.Maintains fun s o => o.Follows s := (Maintains.init d m).after follows_invariant ops
  refine ⟨hsettings, fun c hc => ?_, fun o ho => ?_, ?_, fun name hname => ?_, fun size hsize => ?_⟩
  · exact Input.Chain.follows_of (htuned c hc) (congrArg Prod.snd (hequipped c hc))
  · refine ⟨hfollows o ho, fun t => ?_⟩
    rw [Encoding.Encoder.object_iff, (hfollows o ho).encodes]
  · rw [hsettings]
    refine List.foldlRecOn ops _
      (motive := fun s : Settings => 1 ≤ s.bufferSize ∧ s.bufferSize ≤ 1024 * 1024) (by decide)
      fun s hs op _ => bufferSize_sets op hs
  · simp [setEncoding, hname]
  · exact if_neg hsize

/-- Both sides are built before the settings are changed, and one of the changes is refused. -/
theorem stages_follow_settings_changed :
    let ops : List Op :=
      [.read (.units 1) (.text []), .write (.text ['c']), .setEncoding none, .setBuffering .none,
        .setBufferSize 0, .setOutputMarker 0x1A]
    let ch := after ops (init (Transport.Memory.ofBytes [0x61, 0x62]) ⟨4⟩)
    ch.input.isSome = true ∧ ch.output.isSome = true ∧
    ch.settings = { Settings.default with
      encoding := .binary, buffering := .none, outputMarker := 0x1A } ∧
    (∀ c, ch.input = some c → c.Follows ch.settings) ∧
    (∀ o, ch.output = some o → o.Follows ch.settings) ∧
    ch.setBufferSize 0 = (.error (.invalidBufferSize 0 (1024 * 1024)), ch) := by
  intro ops ch
  obtain ⟨hsettings, hinput, houtput, -, -, hsize⟩ :=
    stages_follow_settings (Transport.Memory.ofBytes [0x61, 0x62]) ⟨4⟩ ops
  exact ⟨by decide, by decide, hsettings.trans (by decide), hinput, fun o ho => (houtput o ho).1,
    hsize 0 (by decide)⟩

end Channel

end ScriptChannel
