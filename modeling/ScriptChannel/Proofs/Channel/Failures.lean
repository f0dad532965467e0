import ScriptChannel.Proofs.Channel.Delivered
import ScriptChannel.Proofs.Channel.Fresh
import ScriptChannel.Proofs.Input.Losses

/-!
# What failures of the device cost a reader

A reader who goes on after every error until the end gets the text of the script without its errors,
unless an error comes right behind a carriage return that is held for what follows it. Every other
stage keeps what it has taken when the one below it fails.
-/

namespace ScriptChannel

/-- The same device without the errors in its script. -/
def Transport.Rehearsed.steady (d : Rehearsed) : Rehearsed := { d with reads := Step.steady d.reads }

theorem Input.Lines.sound_init (t : Translation) : Endings.Sound ⟨(init t).mode, false⟩ :=
  Endings.sound_of_free rfl

namespace Channel
variable {d : Transport.Rehearsed} {m : OpenMode} {s : Settings}

/-- A run to the end delivers the text of the whole stream, if its script has no errors. -/
theorem delivered_of_steady (hopen : (Transport.openInput d).1 = .ok ()) (hm : m.isReadable = true)
    (hb : s.blocking = true) (he : s.encoding.isBinary = false)
    {requests : List (ReadKind × Data)} (hr : (opened d.steady m s).Exhausts requests) :
    (opened d.steady m s).delivered requests =
      s.encoding.textOf s.inputMarker s.inputTranslation (Transport.Step.contents d.reads) := by
  have hready : (opened d.steady m s).Readable := opened_readable (d := d.steady) hopen hm s
  have hcoming := Transport.Step.patient_coming (Transport.Step.harmless_steady d.reads)
  rw [delivered_of_exhausts hready he hr, opened_coming_ofUnits (d := d.steady) hcoming hb m,
    Coming.units_ofUnits, Transport.Step.contents_steady]

/-- A reader who goes on to the end gets the text of the script without its errors, whichever way
either is read, just if no failure behind a held carriage return costs anything. -/
theorem delivered_eq_iff_spared (hopen : (Transport.openInput d).1 = .ok ())
    (hm : m.isReadable = true) (hb : s.blocking = true) (he : s.encoding.isBinary = false)
    {requests requests' : List (ReadKind × Data)} (hr : (opened d m s).Exhausts requests)
    (hr' : (opened d.steady m s).Exhausts requests') :
    (opened d m s).delivered requests = (opened d.steady m s).delivered requests' ↔
      Endings.Spared ⟨(Input.Lines.init s.inputTranslation).mode, false⟩
        ((newInput s).spelled (Transport.Step.coming d.reads)) := by
  have hdirty := delivered_of_exhausts (opened_readable hopen hm s) he hr
  have hclean := delivered_of_steady hopen hm hb he hr'
  rw [hdirty, hclean, opened_coming,
    ← Endings.units_coming_eq_text_iff (Input.Lines.sound_init s.inputTranslation),
    units_spelled_newInput, Input.Lines.text_init]
  rw [Transport.Step.units_coming]
  rfl

/-- A failure in the middle of a pair costs nothing. -/
theorem delivered_eq_split_pair :
    let d := Transport.Rehearsed.quiet.feed
      [.units [0x61, 0x0D], .failure ⟨.timedOut, "late"⟩, .units [0x0A, 0x62]]
    let s := { Settings.default with inputTranslation := .crlf }
    (opened d .readOnly s).delivered [(.line, .text []), (.line, .text []), (.all, .text []),
        (.all, .text [])] =
      (opened d.steady .readOnly s).delivered [(.units 5, .text []), (.units 5, .text []),
        (.units 5, .text [])] :=
  (delivered_eq_iff_spared rfl rfl rfl rfl (by decide) (by decide)).2 (by decide)

/-- A failure behind a lone carriage return costs a newline. -/
theorem delivered_ne_behind_return :
    let d := Transport.Rehearsed.quiet.feed
      [.units [0x61, 0x62, 0x63, 0x0D], .failure ⟨.other, "glitch"⟩, .units [0x64]]
    let requests : List (ReadKind × Data) :=
      [(.all, .text []), (.all, .text []), (.all, .text [])]
    (opened d .readOnly .default).Exhausts requests ∧
      (opened d.steady .readOnly .default).Exhausts requests ∧
      (opened d .readOnly .default).delivered requests = ['a', 'b', 'c', 'd'] ∧
      (opened d.steady .readOnly .default).delivered requests = ['a', 'b', 'c', '\n', 'd'] := by
  decide

end Channel

end ScriptChannel
