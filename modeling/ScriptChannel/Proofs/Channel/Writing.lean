import ScriptChannel.Channel.Write
import ScriptChannel.Proofs.Channel.Stored
import ScriptChannel.Proofs.Written

/-!
# A text written to a memory

What is written to an empty memory is, with what still waits, the text written so far, however it is
cut into payloads and whenever the buffer is flushed. The cursor stays at the end, so going there
before each write changes nothing. Closing leaves the text and the end marker.
-/

namespace ScriptChannel.Channel
open Transport

/-- Writes payloads one after the other. -/
def writeEach {δ : Type} [Transport δ] :
    List Payload → Channel δ → List (Except ChannelError Unit) × Channel δ
  | [], ch => ([], ch)
  | p :: ps, ch =>
    let r := ch.write p
    let rs := writeEach ps r.2
    (r.1 :: rs.1, rs.2)

/-- An output side as the settings have it, with nothing remembered from what it has written. -/
structure Inked (s : Settings) (o : Output) : Prop where
  encoder : o.encoder = s.encoding.encoder
  translation : o.translation = s.outputTranslation
  marker : o.marker = s.outputMarker
  running : o.closed = false

/-- So much text has been written to the memory from its start on. -/
structure Wrote (s : Settings) (cs : List Char) (ch : Channel Memory) : Prop where
  opened : ch.closed = false
  writable : ch.mode.isWritable = true
  settings : ch.settings = s
  atEnd : ch.device.bytes.length = ch.device.writePos
  ink : ch.device.bytes ++ ch.waiting =
    s.encoding.written (Output.translate s.outputTranslation cs)
  output : ∀ o, ch.output = some o → Inked s o

theorem Wrote.seekToEnd {s : Settings} {cs : List Char} {ch : Channel Memory} (h : ch.Wrote s cs) :
    ch.seekToEnd.Wrote s cs := by
  have hdrains := seekToEnd_drains h.opened
  have hbytes : ch.seekToEnd.device.bytes = ch.device.bytes ++ ch.waiting := by
    rw [hdrains.bytes, Memory.bytes_stored_of_end h.atEnd]
  constructor
  · rw [hdrains.closed, h.opened]
  · rw [hdrains.mode, h.writable]
  · rw [hdrains.settings, h.settings]
  · apply atEnd_seekToEnd h.opened
    rw [writePos_drained, (drains_drained ch).bytes, Memory.bytes_stored_of_end h.atEnd,
      List.length_append, h.atEnd]
  · rw [hbytes, hdrains.waiting, List.append_nil, h.ink]
  · intro o ho
    rw [hdrains.output, Option.map_eq_some_iff] at ho
    obtain ⟨o', ho', rfl⟩ := ho
    obtain ⟨hencoder, htranslation, hmarker, hrunning⟩ := h.output o' ho'
    exact ⟨hencoder, htranslation, hmarker, hrunning⟩

theorem Wrote.aimed {s : Settings} {cs : List Char} {ch : Channel Memory} (h : ch.Wrote s cs) :
    ch.aimed.Wrote s cs := by
  unfold Channel.aimed
  split
  · exact h.seekToEnd
  · exact h

theorem Wrote.outputSide {s : Settings} {cs : List Char} {ch : Channel Memory} (h : ch.Wrote s cs) :
    Inked s ch.outputSide :=
  outputSide_of (h.settings ▸ ⟨rfl, rfl, rfl, rfl⟩) h.output

section Text
variable {s : Settings} {spell : Char → List UInt8} (hspell : s.encoding.Spells spell)
include hspell

/-- A write adds its characters, wherever they end up for now. -/
theorem Wrote.write {cs : List Char} {ch : Channel Memory} (h : ch.Wrote s cs)
    (hb : s.blocking = true) (p : Payload) :
    (ch.write p).1 = .ok () ∧ (ch.write p).2.Wrote s (cs ++ p.chars) := by
  have hcheck : ch.checkWrite = .ok () := by
    simp [checkWrite, h.opened, h.writable, h.settings, hb]
  obtain ⟨sent, kept, j, hall, hwrite⟩ := write_memory hcheck p
  obtain ⟨hopened, hwritable, hsettings, hend, hink, -⟩ := h.aimed
  obtain ⟨hencoder, htranslation, hmarker, hrunning⟩ := h.aimed.outputSide
  have hfeed : ch.aimed.outputSide.encoder.feed Encoding.questionMark
      (Output.translate ch.aimed.outputSide.translation p.chars) =
      (s.encoding.written (Output.translate s.outputTranslation p.chars), s.encoding.encoder) := by
    rw [hencoder, htranslation, Encoding.written, hspell]
  -- What is sent off goes to the end, so it does not matter how much of the buffer it is.
  rw [Output.encode, hfeed, buffer_outputSide] at hall
  rw [hwrite]
  refine ⟨rfl, hopened, hwritable, hsettings, ?_, ?_, ?_⟩
  · simp [Memory.bytes_stored_of_end hend, hend]
  · simp only [Memory.bytes_flushed, Memory.bytes_stored_of_end hend, waiting, Option.map_some,
      Option.getD_some]
    rw [List.append_assoc, hall, ← List.append_assoc, hink, Output.translate_append,
      hspell.written_append]
  · rintro o ⟨⟩
    refine ⟨?_, htranslation, hmarker, hrunning⟩
    simp only [Output.encode, hfeed]

theorem Wrote.writeEach {cs : List Char} {ch : Channel Memory} (h : ch.Wrote s cs)
    (hb : s.blocking = true) (ps : List Payload) :
    (∀ r ∈ (ch.writeEach ps).1, r = .ok ()) ∧
      (ch.writeEach ps).2.Wrote s (cs ++ ps.flatMap Payload.chars) := by
  induction ps generalizing cs ch with
  | nil => exact ⟨by simp [Channel.writeEach], by simpa [Channel.writeEach] using h⟩
  | cons p ps ih =>
    obtain ⟨hok, hnext⟩ := h.write hspell hb p
    obtain ⟨hoks, hlast⟩ := ih hnext
    constructor
    · exact List.forall_mem_cons.2 ⟨hok, hoks⟩
    · rw [List.flatMap_cons, ← List.append_assoc]
      exact hlast

end Text

theorem Wrote.close {s : Settings} {cs : List Char} {ch : Channel Memory} (h : ch.Wrote s cs) :
    ch.close.1 = .ok () ∧ ch.close.2.device.bytes =
      s.encoding.written (Output.translate s.outputTranslation cs) ++
        if s.outputMarker = 0 then [] else [s.outputMarker] := by
  obtain ⟨sync, j, hclose⟩ :=
    close_memory h.opened h.writable fun o ho => (h.output o ho).running
  have hending : ch.ending = if s.outputMarker = 0 then [] else [s.outputMarker] := by
    unfold ending
    cases ho : ch.output with
    | none => simp [h.opened, h.settings]
    | some o =>
      obtain ⟨hencoder, -, hmarker, -⟩ := h.output o ho
      change o.ending = _
      rw [Output.ending, hencoder, Encoding.finish_encoder, hmarker, List.nil_append]
  have hbytes : ch.close.2.device.bytes = (ch.device.stored (ch.waiting ++ ch.ending)).bytes := by
    rw [hclose]
    exact Memory.bytes_flushed sync _ ch.device
  rw [Memory.bytes_stored_of_end h.atEnd, ← List.append_assoc, h.ink, hending] at hbytes
  exact ⟨by rw [hclose], hbytes⟩

end ScriptChannel.Channel
