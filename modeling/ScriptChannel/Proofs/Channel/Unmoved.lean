import ScriptChannel.Proofs.Channel.OutputSide
import ScriptChannel.Proofs.Channel.Resembling

/-!
# A seek that fails

A seek sends off what waits to be written before anything else. If the device then cannot go where it
is told, that is all that has happened: the input side keeps what it read ahead, and a reader goes on as
behind a flush. A read of a channel that is written to as well sends off what waits, too, so a reader
sees that there was a seek only where flushing twice is something else than flushing once.
-/

namespace ScriptChannel

/-- Sending off nothing leaves the output side as it is. -/
theorem Output.flush_again {δ : Type} [RawWriter δ] {o : Output} {d : δ}
    (h : (o.flush d).1 = .ok ()) (d' : δ) :
    ((o.flush d).2.1.flush d').2.1 = (o.flush d).2.1 := by
  have hall : (o.flush d).2.1 = o.emptied := by
    by_cases hempty : o.buffer.isEmpty = true
    · exact flush_emptied_of_ok (by rw [List.isEmpty_iff.1 hempty]; rfl)
    · refine flush_emptied_of_ok ?_
      simp only [flush, hempty, flushBuffer] at h
      rcases hw : writeAll o.buffer d with ⟨e | _, d₁⟩
      · rw [hw] at h
        cases h
      · rfl
  rw [hall]
  rfl

namespace Channel
open Transport
variable {δ : Type} [Transport δ]

/-- Writes without going anywhere first. -/
def writeHere (p : Payload) (ch : Channel δ) : Except ChannelError Unit × Channel δ :=
  match ch.buildOutput with
  | (.error e, ch) => (.error e, ch)
  | (.ok o, ch) => ch.runOutput (Output.write p) o

/-- On a channel opened for appending a write is that, once the channel was sent to the end. -/
theorem write_append {ch : Channel δ} (hcheck : ch.checkWrite = .ok ())
    (ha : ch.mode.isAppend = true) (p : Payload) : ch.write p = ch.seekToEnd.writeHere p := by
  simp only [write, hcheck, ha, if_true]
  rfl

theorem beside_writeHere (p : Payload) (ch : Channel δ) :
    Beside (fun _ => ()) ch (ch.writeHere p).2 := by
  have hbuild := beside_buildOutput inward_unit ch
  unfold writeHere
  rcases hq : ch.buildOutput with ⟨e | o, ch₁⟩
  all_goals rw [hq] at hbuild
  · exact hbuild
  · exact hbuild.trans ⟨rfl, rfl, rfl, rfl, rfl⟩

/-- A flush right behind another concerns the device alone. -/
theorem flushOutput_again {ch ch' : Channel δ} (h : ch.flushOutput = (.ok (), ch')) :
    ch'.flushOutput.2 = { ch' with device := ch'.flushOutput.2.device } := by
  unfold flushOutput at h
  cases ho : ch.output with
  | none =>
    rw [ho] at h
    obtain rfl : ch = ch' := congrArg Prod.snd h
    have hnone : ch.flushOutput = (.ok (), ch) := by simp only [flushOutput, ho]
    rw [hnone]
  | some o =>
    rw [ho] at h
    obtain ⟨hanswer, hch'⟩ := Prod.mk.inj h
    have hok : (o.flush ch.device).1 = .ok () := by
      rcases hq : (o.flush ch.device).1 with e | _
      · simp [hq, Except.mapError] at hanswer
      · rfl
    subst hch'
    simp only [flushOutput, Output.flush_again hok]

section Reflects
variable {ε : Type} [Transport ε] {f : δ → ε} (h : Reflects f) {ch ch' : Channel δ}
include h

theorem Resembles.writeHere (hch : Resembles f ch ch') (p : Payload) :
    (ch'.writeHere p).1 = (ch.writeHere p).1 ∧
      Resembles f (ch.writeHere p).2 (ch'.writeHere p).2 := by
  have hbuild := hch.buildOutput h
  unfold Channel.writeHere
  rcases hb : ch.buildOutput with ⟨answer, ch₁⟩
  rcases hb' : ch'.buildOutput with ⟨answer', ch₁'⟩
  rw [hb, hb'] at hbuild
  obtain ⟨rfl, hch₁⟩ : answer' = answer ∧ Resembles f ch₁ ch₁' := hbuild
  cases answer' with
  | error e => exact ⟨rfl, hch₁⟩
  | ok o =>
    obtain ⟨hanswer, hside, hdevice⟩ := same_of_onto (Output.write_mirror h.writer p o) hch₁.device
    exact ⟨congrArg (Except.mapError ChannelError.io) hanswer,
      { hch₁ with device := hdevice, output := congrArg some hside }⟩

/-- Where a second flush comes to nothing a reader does not see that there was a first one. -/
theorem sights_flushed (hc : ch.closed = false) (hw : ch.mode.isWritable = true)
    (hflush : ch.flushOutput = (.ok (), ch')) (hagain : ch'.flushOutput.1 = .ok ())
    (hidle : f ch'.flushOutput.2.device = f ch'.device)
    (hl : ch.mode.isReadable = true ∨ ch'.label = ch.label) (requests : List (ReadKind × Data)) :
    ch'.sights requests = ch.sights requests := by
  have hbeside := beside_flushOutput inward_unit ch
  have hspares := spares_flushOutput ch
  rw [hflush] at hbeside hspares
  have hmode : ch'.mode = ch.mode := hbeside.mode
  have hc' : ch'.closed = false := hspares.closed.trans hc
  induction requests with
  | nil => rfl
  | cons request requests ih =>
    obtain ⟨kind, dst⟩ := request
    rw [Channel.sights, Channel.sights]
    by_cases hr : ch.mode.isReadable = true
    · have hcheck : ch.checkRead = .ok () := by simp [checkRead, hc, hr]
      have hcheck' : ch'.checkRead = .ok () := by simp [checkRead, hc', hmode, hr]
      by_cases he : ch.ended = true
      · have he' : ch'.ended = true := hbeside.ended.trans he
        simp only [Channel.read, hcheck, hcheck', he, he', if_true, ih]
      rw [Bool.not_eq_true] at he
      have hresembles : Resembles f ch' ch'.flushOutput.2 := by
        rw [flushOutput_again hflush]
        exact resembles_of_device hidle
      obtain ⟨hsame, hkept⟩ := hresembles.read_behind h hcheck hcheck' he (hbeside.ended.trans he)
        (by rw [if_pos hw, hflush]) (by rw [hmode, if_pos hw, ← hagain]) kind dst
      rw [hsame, hkept.ended, hkept.sights h]
    · have hlabel : ch'.label = ch.label := hl.resolve_left hr
      rw [Bool.not_eq_true] at hr
      have hrefused : ch.checkRead = .error (.notReadable ch.label) := by simp [checkRead, hc, hr]
      have hrefused' : ch'.checkRead = .error (.notReadable ch.label) := by
        simp [checkRead, hc', hmode, hr, hlabel]
      have hended : ch'.ended = ch.ended := hbeside.ended
      simp only [Channel.read, hrefused, hrefused', hended, ih]

end Reflects

/-- Sending off what waits comes to nothing, and does nothing to the device that could be noticed. -/
structure FlushesIdly (R : δ → δ → Prop) (ch : Channel δ) : Prop where
  answer : ch.flushOutput.1 = .ok ()
  device : R ch.device ch.flushOutput.2.device

/-- The input side is as it was, and a reader sees what there would be to see on another channel. -/
structure Undisturbed (ch ch' other : Channel δ) : Prop where
  input : ch'.input = ch.input
  ended : ch'.ended = ch.ended
  sights (requests : List (ReadKind × Data)) : ch'.sights requests = other.sights requests

section Failing
variable {R : δ → δ → Prop} {ch ch' : Channel δ}

theorem Resembles.undisturbed (h : Indistinct R) (hch : Resembles (Quot.mk R) ch ch') :
    Undisturbed ch ch' ch :=
  letI := h.common
  ⟨hch.input, hch.ended, hch.sights h.reflects⟩

theorem Undisturbed.of_flush {other : Channel δ} (h : Undisturbed ch.flushOutput.2 ch' other) :
    Undisturbed ch ch' other :=
  have hbeside := beside_flushOutput inward_unit ch
  ⟨h.input.trans hbeside.input, h.ended.trans hbeside.ended, h.sights⟩

section Still
variable (hstill : ∀ p d e d', Transport.seek p d = (.error e, d') → R d d') (hc : ch.closed = false)
include hstill hc

/-- Behind a seek that failed the channel is what the flush made of it, but for what cannot be seen of
the device. -/
theorem resembles_of_seek_error {p : Place} {e : ChannelError} (hseek : (ch.seek p).1 = .error e) :
    Resembles (Quot.mk R) ch.flushOutput.2 (ch.seek p).2 := by
  rcases hflush : ch.flushOutput with ⟨e | _, ch'⟩
  · have hfailed : ch.seek p = (.error e, ch') := by simp [seek, checkOpen, hc, hflush]
    rw [hfailed]
    exact resembles_of_device rfl
  · rcases hd : Transport.seek (ch'.deviceRelative p) ch'.device with ⟨e | n, d⟩
    · rw [seek_eq_error hc hflush hd]
      exact resembles_of_device (Quot.sound (hstill _ _ _ _ hd)).symm
    · obtain ⟨j, hj⟩ := seek_eq hc hflush hd
      rw [hj] at hseek
      cases hseek

/-- The same holds where a write went to the end in vain, and noted it. -/
theorem resembles_seekToEnd {e : ChannelError} (hseek : (ch.seek (.fromEnd 0)).1 = .error e) :
    Resembles (Quot.mk R) ch.flushOutput.2 ch.seekToEnd := by
  have hbehind := resembles_of_seek_error hstill hc hseek
  unfold seekToEnd
  rcases hq : ch.seek (.fromEnd 0) with ⟨e' | n, ch₁⟩
  all_goals rw [hq] at hbehind hseek
  · exact hbehind.trans (resembles_note _ ch₁)
  · cases hseek

/-- A seek that fails without moving the device flushes what waits and does nothing else. Where the
flush fails the device is not told to go anywhere. Otherwise its error is answered, or that it has no
positions. The input side and the end seen are as they were. What is read from then on is what would be
read behind that flush; and it is what would be read without the seek, if there was nothing to flush or
a second flush comes to nothing. So it is with a write that goes to the end first. -/
theorem failed_seek_disturbs_nothing (h : Indistinct R) (p : Place) :
    let flushed := ch.flushOutput.2
    let went := Transport.seek (flushed.deviceRelative p) flushed.device
    (∀ e, ch.flushOutput.1 = .error e → ch.seek p = (.error e, flushed)) ∧
    (∀ e, ch.flushOutput.1 = .ok () → went.1 = .error e →
      ch.seek p =
        (.error (if e.kind = .unsupported then .unsupported flushed.label .seek else .io e),
          { flushed with device := went.2 })) ∧
    (∀ e, (ch.seek p).1 = .error e →
      Undisturbed ch (ch.seek p).2 flushed ∧
      ((ch.output = none ∨
          ch.mode.isWritable = true ∧ ch.flushOutput.1 = .ok () ∧ flushed.FlushesIdly R) →
        ch.mode.isReadable = true ∨ flushed.label = ch.label →
        Undisturbed ch (ch.seek p).2 ch)) ∧
    ∀ payload e, ch.checkWrite = .ok () → ch.mode.isAppend = true →
      (ch.seek (.fromEnd 0)).1 = .error e →
      (ch.write payload).1 = (flushed.writeHere payload).1 ∧
        Undisturbed ch (ch.write payload).2 (flushed.writeHere payload).2 := by
  intro flushed went
  let common := h.common
  refine ⟨fun e hf => ?_, fun e hf hd => ?_, fun e hseek => ?_, fun payload e hcheck ha hseek => ?_⟩
  · have hflush : ch.flushOutput = (.error e, flushed) := Prod.ext hf rfl
    simp [seek, checkOpen, hc, hflush]
  · exact seek_eq_error hc (Prod.ext hf rfl) (Prod.ext hd rfl)
  · have hbehind := (resembles_of_seek_error hstill hc hseek).undisturbed h
    refine ⟨hbehind.of_flush, fun hidle hl => ?_⟩
    refine { hbehind.of_flush with sights := fun requests => (hbehind.sights requests).trans ?_ }
    rcases hidle with hnone | ⟨hw, hf, hagain⟩
    · have hsame : ch.flushOutput.2 = ch := by simp [flushOutput, hnone]
      rw [hsame]
    · exact sights_flushed h.reflects hc hw (Prod.ext hf rfl) hagain.answer
        (Quot.sound hagain.device).symm hl requests
  · have hwrite := write_append hcheck ha payload
    have hbehind := resembles_seekToEnd hstill hc hseek
    obtain ⟨hanswer, hkept⟩ := hbehind.writeHere h.reflects payload
    have hbeside := beside_writeHere payload flushed
    rw [hwrite]
    refine ⟨hanswer, Undisturbed.of_flush ?_⟩
    exact ⟨hkept.input.trans hbeside.input, hkept.ended.trans hbeside.ended,
      hkept.sights h.reflects⟩

end Still

end Failing

section Rehearsed

/-- A device without positions, of whose bytes one was delivered and two were read ahead when something
was written. -/
def halfway : Channel Rehearsed :=
  let device : Rehearsed := { Rehearsed.quiet with
    reads := [.units [0x61, 0x62, 0x63]], seeks := .error .notSeekable }
  after [.read (.units 1) (.text []), .write (.text ['x'])]
    (init device (OpenMode.readWrite.union .append))

/-- Neither a seek nor what is appended takes anything from who reads there. -/
theorem failed_seek_halfway :
    halfway.bufferedInput = 2 ∧ halfway.bufferedOutput = 1 ∧
    (halfway.seek (.fromCurrent 1)).1 = .error (.unsupported "mem" .seek) ∧
    Undisturbed halfway (halfway.seek (.fromCurrent 1)).2 halfway ∧
    (halfway.write (.text ['y'])).2.input = halfway.input ∧
    (halfway.write (.text ['y'])).2.ended = halfway.ended := by
  have hopen : halfway.closed = false := rfl
  have hseek : (halfway.seek (.fromCurrent 1)).1 = .error (.unsupported "mem" .seek) := by decide
  have hend : (halfway.seek (.fromEnd 0)).1 = .error (.unsupported "mem" .seek) := by decide
  have hidle : halfway.flushOutput.2.FlushesIdly Rehearsed.SameButLog :=
    ⟨by decide, Rehearsed.flush_sameButLog rfl⟩
  obtain ⟨-, -, hread, hwrite⟩ :=
    failed_seek_disturbs_nothing Rehearsed.seek_sameButLog hopen Rehearsed.indistinct (.fromCurrent 1)
  have hw : halfway.mode.isWritable = true := isWritable_of_output (by decide)
  have hsame := (hread _ hseek).2 (.inr ⟨hw, by decide, hidle⟩) (.inl (by decide))
  have hkept := (hwrite (.text ['y']) _ (by decide) (by decide) hend).2
  exact ⟨by decide, by decide, hseek, hsame, hkept.input, hkept.ended⟩

/-- If the second of two flushes fails a reader is told so, who would not have been told without the
seek. -/
theorem sights_behind_failed_seek :
    let late : IoError := ⟨.other, "late"⟩
    let device : Rehearsed := { Rehearsed.quiet with
      reads := [.units [0x61]]
      hooks := fun h => if h = .flush then [none, some late] else []
      seeks := .error ⟨.unsupported, "no"⟩ }
    let ch := after [.write (.text ['x'])] (init device .readWrite)
    ch.closed = false ∧
    (∀ p d e d', Transport.seek p d = (.error e, d') → Rehearsed.SameButLog d d') ∧
    (ch.seek (.fromStart 0)).1 = .error (.unsupported ch.label .seek) ∧
    ¬ ∀ requests, (ch.seek (.fromStart 0)).2.sights requests = ch.sights requests := by
  intro late device ch
  refine ⟨by decide, Rehearsed.seek_sameButLog, by decide, fun hsame => ?_⟩
  have hone := congrArg (List.map fun r => r.1.status) (hsame [(.units 1, .text [])])
  exact absurd hone (by decide)

end Rehearsed

end Channel

end ScriptChannel
