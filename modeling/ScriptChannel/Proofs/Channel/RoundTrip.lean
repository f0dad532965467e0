import ScriptChannel.Proofs.Channel.Units
import ScriptChannel.Proofs.Channel.Writing
import ScriptChannel.Proofs.Transport.Complete

/-!
# A text written and read back

What one channel has written to a memory another reads from it again, each in pieces of its own, if
the two agree on the encoding, on the newlines and on the end marker.
-/

namespace ScriptChannel.Channel
open Transport

/-- A writer and a reader whose settings agree as far as a text needs it. On a binary channel the
reader of units does not look for line endings, so the writer must leave newlines as they are. -/
structure Agree (writer reader : Settings) (cs : List Char) : Prop where
  encoding : reader.encoding = writer.encoding
  carries : writer.encoding.Carries cs
  newlines : Translation.Matches writer.outputTranslation reader.inputTranslation cs
  plain : writer.encoding.isBinary = true → writer.outputTranslation.ending = ['\n']
  marker : reader.inputMarker = writer.outputMarker
  free : writer.outputMarker = 0 ∨ writer.outputMarker ∉
    writer.encoding.written (Output.translate writer.outputTranslation cs)

/-- A stream with its marker behind it, if it has one, is read up to the marker. -/
theorem upToMarker_marked {m : UInt8} {bs : List UInt8} (h : m = 0 ∨ m ∉ bs) :
    upToMarker m (bs ++ if m = 0 then [] else [m]) = bs := by
  rw [upToMarker_append_of_free h]
  by_cases hm : m = 0
  · rw [if_pos hm]
    simp [upToMarker]
  · rw [if_neg hm, upToMarker_marker hm, List.append_nil]

/-- The text and the end marker, read up to the marker, are the text. -/
theorem Agree.unitsOf {writer reader : Settings} {cs : List Char} (h : Agree writer reader cs) :
    unitsOf reader (writer.encoding.written (Output.translate writer.outputTranslation cs) ++
      if writer.outputMarker = 0 then [] else [writer.outputMarker]) = cs := by
  have hread := (h.carries.translate writer.outputTranslation).decode_written
  have hupto := upToMarker_marked h.free
  unfold Channel.unitsOf
  rw [h.encoding, h.marker]
  by_cases hb : writer.encoding.isBinary = true
  · rw [if_pos hb, hupto, hread, Output.translate_of_feed (h.plain hb)]
  · rw [if_neg hb, Encoding.textOf, hupto, hread]
    exact h.newlines.read_translate

theorem wrote_opened {mode : OpenMode} (hw : mode.isWritable = true) (s : Settings) :
    (opened Memory.empty mode s).Wrote s [] where
  opened := rfl
  writable := hw
  settings := rfl
  atEnd := rfl
  ink := by cases s.encoding <;> rfl
  output := by simp [Channel.opened, init]

/-- Whatever is written in whatever pieces, every write and the close go well, and reads for units
get the text back from what is left in the memory, in the portions asked for and up to the end. -/
theorem reads_back_written {writer reader : Settings} {ps : List Payload}
    (h : Agree writer reader (ps.flatMap Payload.chars)) {mode mode' : OpenMode}
    (hw : mode.isWritable = true) (hb : writer.blocking = true) (hm : mode'.isReadable = true)
    {requests : List (ReadKind × Data)} (hr : ∀ r ∈ requests, r.1 ≠ .line) :
    let put := (opened Memory.empty mode writer).writeEach ps
    let source := opened (Memory.ofBytes put.2.close.2.device.bytes) mode' reader
    let text := ps.flatMap Payload.chars
    (∀ r ∈ put.1, r = .ok ()) ∧ put.2.close.1 = .ok () ∧
      (source.Exhausts requests → source.delivered requests = text) ∧
      ((∀ r ∈ requests, r.1 ≠ .units 0) →
        (text.length < requests.length → source.Exhausts requests) ∧
        ((reader.encoding.isBinary = true → ∀ r ∈ requests, ∀ c ∈ r.2.chars, Encoding.Narrow c) →
          (source.serve requests).1.map Reading.seen = (Portion.serve requests text).1)) := by
  intro put source text
  obtain ⟨spell, hspell⟩ := h.carries.spells
  obtain ⟨hoks, hwrote⟩ := (wrote_opened hw writer).writeEach hspell hb ps
  rw [List.nil_append] at hwrote
  obtain ⟨hok, hbytes⟩ := hwrote.close
  -- A memory made of bytes is not in open mode, and so what is to come from it is known.
  let whole : Complete := ⟨Memory.ofBytes put.2.close.2.device.bytes, rfl⟩
  have hrest : whole.rest = put.2.close.2.device.bytes := by
    simp [whole, Complete.rest, Memory.ofBytes, Memory.bytes]
  have hoffers : (opened whole mode' reader).Offers text := by
    have hopened : (opened whole mode' reader).Offers (Channel.unitsOf reader whole.rest) :=
      opened_offers rfl rfl hm reader
    rw [hrest, hbytes] at hopened
    rwa [h.unitsOf] at hopened
  have hserve : (source.serve requests).1 = ((opened whole mode' reader).serve requests).1 :=
    congrArg Prod.fst (serve_onto Complete.mirrors hoffers.readable requests)
  have hexhausts : source.Exhausts requests ↔ (opened whole mode' reader).Exhausts requests := by
    unfold Exhausts
    rw [hserve]
  have hdelivered : source.delivered requests = (opened whole mode' reader).delivered requests :=
    delivered_onto Complete.mirrors hoffers.readable hr
  refine ⟨hoks, hok, fun hover => ?_, fun hsome => ⟨fun hlen => ?_, fun hdst => ?_⟩⟩
  · obtain ⟨rest, hsplit, hnil⟩ := hoffers.delivered hr
    rw [hdelivered]
    rw [hnil (hexhausts.1 hover), List.append_nil] at hsplit
    exact hsplit.symm
  · exact hexhausts.2 (hoffers.exhausts hr hsome hlen)
  · rw [hserve]
    exact hoffers.serve hr hsome hdst

/-- A carriage return in front of a newline, a character of two units, and small buffers. -/
theorem reads_back_written_units :
    let utf16 := Encoding.charset (.utf16 .little)
    let writer := { Settings.default with
      encoding := utf16, outputTranslation := .crlf, bufferSize := 1, outputMarker := 0x1A }
    let reader := { Settings.default with
      encoding := utf16, inputTranslation := .crlf, bufferSize := 1, inputMarker := 0x1A }
    let put := (opened Memory.empty .writeOnly writer).writeEach
      [.text ['a', '\r'], .text ['\n', '😀']]
    let source := opened (Memory.ofBytes put.2.close.2.device.bytes) .readOnly reader
    let requests : List (ReadKind × Data) := [(.units 2, .text ['>']), (.units 1, .text []),
      (.all, .text []), (.all, .text []), (.units 1, .text [])]
    source.delivered requests = ['a', '\r', '\n', '😀'] ∧
      (source.serve requests).1.map Reading.seen =
        [(.ok (.data 2), ['>', 'a', '\r']), (.ok (.data 1), ['\n']), (.ok (.data 1), ['😀']),
          (.ok .ended, []), (.ok .ended, [])] := by
  intro utf16 writer reader put source requests
  have hagree : Agree writer reader
      ([Payload.text ['a', '\r'], .text ['\n', '😀']].flatMap Payload.chars) :=
    { encoding := rfl
      carries := .utf16 .little (by decide)
      newlines := .pair _
      plain := by decide
      marker := rfl
      free := .inr (by decide) }
  have hr : ∀ r ∈ requests, r.1 ≠ .line := by decide
  have hwrite : OpenMode.isWritable .writeOnly = true := rfl
  have hread : OpenMode.isReadable .readOnly = true := rfl
  obtain ⟨-, -, hdelivered, hrun⟩ := reads_back_written hagree hwrite rfl hread hr
  obtain ⟨hexhausts, hseen⟩ := hrun (by decide)
  refine ⟨hdelivered (hexhausts (by decide)), (hseen (by decide)).trans ?_⟩
  decide

end ScriptChannel.Channel
