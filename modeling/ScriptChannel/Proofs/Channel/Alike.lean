import ScriptChannel.Proofs.Channel.Stored
import ScriptChannel.Proofs.Input.Idle
import ScriptChannel.Proofs.Input.Outlook
import ScriptChannel.Proofs.Transport.Complete

/-!
# Two channels that read alike

Two channels are told apart by reading them only if their input sides are. So it takes a likeness of
input sides that every read keeps, and in which every read of the one answers what the same read of the
other does. Over memories, where only reading is in question, it takes nothing else.
-/

namespace ScriptChannel.Channel
open Transport Input

/-- What a reader sees of a run of reads: what each of them comes to, and whether the end was seen
then. -/
def sights {δ : Type} [Transport δ] : List (ReadKind × Data) → Channel δ → List (Reading × Bool)
  | [], _ => []
  | (kind, dst) :: requests, ch =>
    ((read kind dst ch).1, (read kind dst ch).2.ended) :: sights requests (read kind dst ch).2

section Side
variable {δ : Type} [Transport δ]

/-- A likeness of input sides in front of their devices, under some settings, that no read tells apart
and every read keeps. -/
structure Likeness (R : Settings → Chain × δ → Chain × δ → Prop) : Prop where
  text {s : Settings} {x y : Chain × δ} (h : R s x y) (hb : s.encoding.isBinary = false) (n : Nat) :
    (x.1.readText n x.2).1 = (y.1.readText n y.2).1 ∧
      R s (x.1.readText n x.2).2 (y.1.readText n y.2).2
  bytes {s : Settings} {x y : Chain × δ} (h : R s x y) (hb : s.encoding.isBinary = true) (n : Nat) :
    (x.1.readBytes n x.2).1 = (y.1.readBytes n y.2).1 ∧
      R s (x.1.readBytes n x.2).2 (y.1.readBytes n y.2).2
  line {s : Settings} {x y : Chain × δ} (h : R s x y) :
    (x.1.readLine s.blocking x.2).1 = (y.1.readLine s.blocking y.2).1 ∧
      (x.1.readLine s.blocking x.2).2.1.lines.isEnded =
        (y.1.readLine s.blocking y.2).2.1.lines.isEnded ∧
      R s (x.1.readLine s.blocking x.2).2 (y.1.readLine s.blocking y.2).2

/-- A read through the one comes to what a read through the other does, and renews either channel. -/
theorem Likeness.readThrough {R : Settings → Chain × δ → Chain × δ → Prop} (hR : Likeness R)
    (ch ch' : Channel δ) {c c' : Chain} (hblocking : ch'.settings.blocking = ch.settings.blocking)
    (hencoding : ch'.settings.encoding = ch.settings.encoding) (hended : ch'.ended = ch.ended)
    (hside : R ch.settings (c, ch.device) (c', ch'.device)) (k : Option Nat) (dst : Data) :
    let r := Channel.readThrough dst c ch k
    let r' := Channel.readThrough dst c' ch' k
    ∃ c₁ d₁ c₂ d₂ e, (∀ j, { r.2 with journal := j } = ch.renew c₁ d₁ e j) ∧
      (∀ j, { r'.2 with journal := j } = ch'.renew c₂ d₂ e j) ∧ r.1 = r'.1 ∧
      R ch.settings (c₁, d₁) (c₂, d₂) := by
  cases k with
  | some n =>
    by_cases hb : ch.settings.encoding.isBinary = true
    · obtain ⟨hsame, hkept⟩ := hR.bytes hside hb n
      dsimp only at hsame
      simp only [Channel.readThrough, readUnits, hencoding, hb, if_true, hsame, hended]
      exact ⟨_, _, _, _, _, fun _ => rfl, fun _ => rfl, trivial, hkept⟩
    · obtain ⟨hsame, hkept⟩ := hR.text hside (Bool.eq_false_iff.2 hb) n
      dsimp only at hsame
      simp only [Channel.readThrough, readUnits, hencoding, hb, if_false, hsame, hended,
        Bool.false_eq_true]
      exact ⟨_, _, _, _, _, fun _ => rfl, fun _ => rfl, trivial, hkept⟩
  | none =>
    obtain ⟨hsame, hstop, hkept⟩ := hR.line hside
    dsimp only at hsame hstop hkept
    simp only [Channel.readThrough, readLine, hblocking, hencoding]
    rcases hq : c.readLine ch.settings.blocking ch.device with ⟨l, c₁, d₁⟩
    rcases hq' : c'.readLine ch.settings.blocking ch'.device with ⟨l', c₂, d₂⟩
    rw [hq, hq'] at hsame hstop hkept
    obtain rfl : l = l' := hsame
    dsimp only at hstop
    refine ⟨c₁, d₁, c₂, d₂, ?_⟩
    cases l with
    | line cs | blocked =>
      exact ⟨c₁.lines.isEnded, fun _ => rfl, fun _ => by rw [hstop]; rfl, rfl, hkept⟩
    | ended => exact ⟨true, fun _ => rfl, fun _ => rfl, rfl, hkept⟩
    | failed e => exact ⟨ch.ended, fun _ => rfl, fun _ => by rw [← hended]; rfl, rfl, hkept⟩

end Side

section Memory
variable {ch ch' : Channel Memory}

theorem drained_of_waiting (h : ch.waiting = []) : ch.drained = ch := by
  obtain ⟨d, m, s, name, owners, ended, closed, input, output, j⟩ := ch
  cases output with
  | none => rfl
  | some o =>
    obtain ⟨e, encoder, t, b, size, blocking, sync, marker, buffer, closed⟩ := o
    obtain rfl : buffer = [] := h
    simp [drained]

/-- Where no output waits a read goes through the input side at once. -/
theorem read_memory (hc : ch.closed = false) (hr : ch.mode.isReadable = true) (he : ch.ended = false)
    (hw : ch.waiting = []) (kind : ReadKind) (dst : Data) :
    ∃ j, read kind dst ch =
      let r := readThrough dst ch.chain { ch with input := some ch.chain } (wanted kind)
      (r.1, { r.2 with journal := j }) := by
  have hcheck : ch.checkRead = .ok () := by simp [checkRead, hc, hr]
  have hflush : (if ch.mode.isWritable then ch.flushOutput else (.ok (), ch)) = (.ok (), ch) := by
    rw [flushOutput_memory, drained_of_waiting hw, ite_self]
  obtain ⟨j, hbuild⟩ : ∃ j, ch.buildInput =
      (.ok ch.chain, { ch with input := some ch.chain, journal := j }) := by
    unfold buildInput chain
    cases hi : ch.input with
    | none => exact ⟨_, rfl⟩
    | some c => exact ⟨ch.journal, by dsimp only; rw [Option.getD_some, ← hi]⟩
  have hnotes : ∀ k, ∃ j', readThrough dst ch.chain
      { ch with input := some ch.chain, journal := j } k =
        ((readThrough dst ch.chain { ch with input := some ch.chain } k).1,
          { (readThrough dst ch.chain { ch with input := some ch.chain } k).2 with journal := j' }) := by
    intro k
    cases k with
    | none =>
      simp only [readThrough, readLine]
      split <;> exact ⟨j, rfl⟩
    | some n =>
      simp only [readThrough, readUnits]
      split <;> exact ⟨j, rfl⟩
  obtain ⟨j', hj'⟩ := hnotes (wanted kind)
  obtain ⟨j'', hread⟩ := read_through hcheck he hflush hbuild kind dst
  rw [hj'] at hread
  exact ⟨j'', hread⟩

/-- Two channels that differ in nothing that a reader could see, if their input sides do not. -/
structure Alike (R : Settings → Chain × Memory → Chain × Memory → Prop) (ch ch' : Channel Memory) :
    Prop where
  opened : ch.closed = false ∧ ch'.closed = false
  readable : ch.mode.isReadable = true ∧ ch'.mode.isReadable = true
  quiet : ch.waiting = [] ∧ ch'.waiting = []
  settings : ch'.settings = ch.settings
  ended : ch'.ended = ch.ended
  side : R ch.settings (ch.chain, ch.device) (ch'.chain, ch'.device)

variable {R : Settings → Chain × Memory → Chain × Memory → Prop} (hR : Likeness R)
include hR

/-- A read of the one is a read of the other. -/
theorem Alike.read (h : Alike R ch ch') (kind : ReadKind) (dst : Data) :
    (Channel.read kind dst ch).1 = (Channel.read kind dst ch').1 ∧
      Alike R (Channel.read kind dst ch).2 (Channel.read kind dst ch').2 := by
  by_cases he : ch.ended = true
  · have hover : ∀ ch : Channel Memory, ch.closed = false → ch.mode.isReadable = true →
        ch.ended = true → Channel.read kind dst ch = (⟨.ok .ended, dst⟩, ch) := by
      intro ch hc hr he
      simp [Channel.read, checkRead, hc, hr, he]
    rw [hover ch h.opened.1 h.readable.1 he, hover ch' h.opened.2 h.readable.2 (h.ended.trans he)]
    exact ⟨rfl, h⟩
  · rw [Bool.not_eq_true] at he
    obtain ⟨j, hread⟩ := read_memory h.opened.1 h.readable.1 he h.quiet.1 kind dst
    obtain ⟨j', hread'⟩ :=
      read_memory h.opened.2 h.readable.2 (h.ended.trans he) h.quiet.2 kind dst
    obtain ⟨c, d, c', d', e, hrenew, hrenew', hsame, hkept⟩ := hR.readThrough
      { ch with input := some ch.chain } { ch' with input := some ch'.chain }
      (congrArg Settings.blocking h.settings) (congrArg Settings.encoding h.settings) h.ended h.side
      (wanted kind) dst
    dsimp only at hread hread' hrenew hrenew' hsame
    rw [hread, hread', hrenew, hrenew', hsame]
    exact ⟨rfl, h.opened, h.readable, h.quiet, h.settings, rfl, hkept⟩

/-- So a reader sees the same. -/
theorem Alike.sights (h : Alike R ch ch') (requests : List (ReadKind × Data)) :
    ch.sights requests = ch'.sights requests := by
  induction requests generalizing ch ch' with
  | nil => rfl
  | cons request requests ih =>
    obtain ⟨kind, dst⟩ := request
    obtain ⟨hsame, hkept⟩ := h.read hR kind dst
    rw [Channel.sights, Channel.sights, hsame, ih hkept, hkept.ended]

end Memory

end ScriptChannel.Channel
