import ScriptChannel.Proofs.Output.Obliging
import ScriptChannel.Proofs.Written

/-!
# What a sink ends up with

What a payload is written as depends on the encoding and the line ending in force when it is written,
and on nothing that happens to the buffer. If the sink does not fail it ends up with the payloads one
behind the other, each as it was to be written, and with the end marker. In the meantime no more is
held back than the buffering calls for.
-/

namespace ScriptChannel

/-- The bytes of a payload, its newlines being line endings. -/
def Encoding.inscription (e : Encoding) (t : Translation) (p : Payload) : List UInt8 :=
  (Output.translate t p.chars).flatMap e.spelling

namespace Output
variable {δ : Type} [RawWriter δ]

/-- A call of the output side, short of closing it, with the settings among them that no payload
depends on. -/
inductive Move
  | op (op : Op)
  | setMarker (marker : UInt8)
  | setSync (sync : Bool)
  | setBlocking (blocking : Bool)
  deriving DecidableEq, Repr

/-- The settings in force at a time. -/
structure Manner where
  encoding : Encoding
  translation : Translation
  buffering : Buffering
  size : Nat
  marker : UInt8
  deriving DecidableEq, Repr

/-- The settings of an output side. -/
def manner (o : Output) : Manner := ⟨o.encoding, o.translation, o.buffering, o.size, o.marker⟩

/-- What closing puts behind the content. -/
def Manner.ending (q : Manner) : List UInt8 := if q.marker = 0 then [] else [q.marker]

/-- After a payload with these settings nothing is held back. -/
def Manner.HandsOn (q : Manner) (p : Payload) : Prop :=
  q.buffering = .none ∨ q.buffering = .line ∧ '\n' ∈ p.chars

namespace Move

def perform : Move → Output × δ → Output × δ
  | op a, s => (a.perform s).2
  | setMarker b, (o, d) => ({ o with marker := b }, d)
  | setSync b, (o, d) => ({ o with sync := b }, d)
  | setBlocking b, (o, d) => ({ o with blocking := b }, d)

/-- The settings behind a call. -/
def sets : Move → Manner → Manner
  | op (.setEncoding e), q => { q with encoding := e }
  | op (.setTranslation t), q => { q with translation := t }
  | op (.setBuffering b), q => { q with buffering := b }
  | op (.setBufferSize n), q => { q with size := n }
  | setMarker b, q => { q with marker := b }
  | _, q => q

/-- The bytes that a call is to put down. -/
def inscribes : Move → Manner → List UInt8
  | op (.write p), q => q.encoding.inscription q.translation p
  | _, _ => []

end Move

/-- The output side and its device after some calls. -/
def moved (ms : List Move) (s : Output × δ) : Output × δ := ms.foldl (fun s m => m.perform s) s

/-- The settings after some calls. -/
def inForce (ms : List Move) (q : Manner) : Manner := ms.foldl (fun q m => m.sets q) q

/-- The payloads of some calls one behind the other, each in the encoding and with the line ending of
its time. -/
def content : List Move → Manner → List UInt8
  | [], _ => []
  | m :: ms, q => m.inscribes q ++ content ms (m.sets q)

/-- Closed that many times. -/
def shut : Nat → Output × δ → Output × δ
  | 0, s => s
  | n + 1, s => shut n (s.1.close s.2).2

/-- Where everything is as it should be: a side that is not closed, with an encoder at its start that
remembers nothing, and a sink that does not fail. -/
structure Ready (G : δ → Prop) (s : Output × δ) : Prop where
  unclosed : s.1.closed = false
  encoder : s.1.encoder = s.1.encoding.encoder
  memoryless : s.1.encoding.Memoryless
  sink : G s.2

/-- A call leaves the settings as they were, but for the one that it changes. -/
theorem Move.perform_manner (m : Move) (s : Output × δ) :
    (m.perform s).1.manner = m.sets s.1.manner := by
  obtain ⟨o, d⟩ := s
  cases m with
  | op a =>
    cases a with
    | write p =>
      change (o.write p d).2.1.manner = o.manner
      rcases o.write_cases p d with h | h <;> rw [h] <;> rfl
    | flush =>
      change (o.flush d).2.1.manner = o.manner
      rcases o.flush_cases d with h | h <;> rw [h]
      rfl
    | _ => rfl
  | _ => rfl

theorem Move.perform_closed (m : Move) (s : Output × δ) :
    (m.perform s).1.closed = s.1.closed := by
  obtain ⟨o, d⟩ := s
  cases m with
  | op a =>
    cases a with
    | write p =>
      change (o.write p d).2.1.closed = o.closed
      rcases o.write_cases p d with h | h <;> rw [h] <;> rfl
    | flush =>
      change (o.flush d).2.1.closed = o.closed
      rcases o.flush_cases d with h | h <;> rw [h]
      rfl
    | _ => rfl
  | _ => rfl

theorem moved_manner (ms : List Move) (s : Output × δ) :
    (moved ms s).1.manner = inForce ms s.1.manner := by
  induction ms generalizing s with
  | nil => rfl
  | cons m ms ih => exact (ih _).trans (congrArg (inForce ms) (m.perform_manner s))

/-- What is closed stays as it is. -/
theorem shut_of_closed {s : Output × δ} (hs : s.1.closed = true) (n : Nat) : shut n s = s := by
  induction n with
  | zero => rfl
  | succ n ih => rw [shut, Output.close, if_pos hs, ih]

section Obliging
variable {G : δ → Prop} (h : Obliging G)
include h

omit [RawWriter δ] h in
/-- A buffer that is not to be flushed is not full, and none of what was put there is to go on at once. -/
theorem below_of_not_due {o : Output} {newline : Bool} (h : ¬ o.isDue newline = true) :
    o.buffer.length < o.size ∧ o.buffering ≠ .none ∧ (o.buffering = .line → newline = false) := by
  unfold isDue at h
  cases hb : o.buffering <;> simp_all

/-- A write leaves less in the buffer than its size calls for, and nothing if it is to be handed on. -/
theorem write_within (p : Payload) (o : Output) {d : δ} (hd : G d) :
    (o.write p d).2.1.buffer.length < max o.size 1 ∧
      (o.manner.HandsOn p → (o.write p d).2.1.buffer = []) := by
  unfold Output.write
  dsimp only
  split
  · rw [h.flush_emptied _ hd]
    exact ⟨Nat.lt_of_lt_of_le Nat.zero_lt_one (Nat.le_max_right _ _), fun _ => rfl⟩
  · obtain ⟨hlength, hnone, hline⟩ := below_of_not_due ‹_›
    refine ⟨Nat.lt_of_lt_of_le hlength (Nat.le_max_left _ _), ?_⟩
    rintro (hon | ⟨hon, hnewline⟩)
    · exact absurd hon hnone
    · exact absurd hnewline (by simpa using hline hon)

namespace Ready

theorem perform {s : Output × δ} (hs : Ready G s) {m : Move}
    (hm : (m.sets s.1.manner).encoding.Memoryless) : Ready G (m.perform s) := by
  have hencoding := congrArg Manner.encoding (m.perform_manner s)
  refine ⟨by rw [m.perform_closed, hs.unclosed], ?_, ?_, ?_⟩
  · cases m with
    | op a =>
      have hpen : (a.perform s).2.1.encoder = (a.ink s.1.pen).2.encoder :=
        congrArg Pen.encoder (perform_pen a s)
      change (a.perform s).2.1.encoder = ((Move.op a).perform s).1.manner.encoding.encoder
      rw [hpen, hencoding]
      cases a with
      | write p =>
        change (s.1.encoder.feed _ _).2 = s.1.encoding.encoder
        rw [hs.encoder, hs.memoryless.spells]
      | setEncoding e => rfl
      | _ => exact hs.encoder
    | _ => exact hs.encoder
  · change (m.perform s).1.manner.encoding.Memoryless
    rw [hencoding]
    exact hm
  · obtain ⟨o, d⟩ := s
    cases m with
    | op a =>
      cases a with
      | write p => exact h.write_keeps p o hs.sink
      | flush => exact h.flush_keeps o hs.sink
      | _ => exact hs.sink
    | _ => exact hs.sink

variable [Sink δ]

/-- A call puts down what it is to put down. -/
theorem trace_perform {s : Output × δ} (hs : Ready G s) (m : Move) :
    trace (m.perform s) = trace s ++ m.inscribes s.1.manner := by
  cases m with
  | op a =>
    have hink : (a.ink s.1.pen).1 = (Move.op a).inscribes s.1.manner := by
      cases a with
      | write p =>
        change (s.1.encoder.feed _ _).1 = _
        rw [hs.encoder, hs.memoryless.spells]
        rfl
      | setEncoding e =>
        change s.1.encoder.finish.1 = []
        rw [hs.encoder, Encoding.finish_encoder]
      | _ => rfl
    rw [Move.perform, h.trace_perform a hs.sink, hink]
  | _ => exact (List.append_nil _).symm

/-- So do many of them. -/
theorem trace_moved {s : Output × δ} (hs : Ready G s) {ms : List Move}
    (hms : ∀ e, .op (.setEncoding e) ∈ ms → e.Memoryless) :
    Ready G (moved ms s) ∧ trace (moved ms s) = trace s ++ content ms s.1.manner := by
  induction ms generalizing s with
  | nil => exact ⟨hs, (List.append_nil _).symm⟩
  | cons m ms ih =>
    have hm : (m.sets s.1.manner).encoding.Memoryless := by
      cases m with
      | op a =>
        cases a with
        | setEncoding e => exact hms e (List.mem_cons_self ..)
        | _ => exact hs.memoryless
      | _ => exact hs.memoryless
    obtain ⟨hready, htrace⟩ :=
      ih (hs.perform h hm) fun e he => hms e (List.mem_cons_of_mem _ he)
    refine ⟨hready, htrace.trans ?_⟩
    rw [hs.trace_perform h, m.perform_manner, List.append_assoc, content]

/-- Closing hands over what is left, and the end marker behind it. -/
theorem close {s : Output × δ} (hs : Ready G s) :
    Sink.accepted (s.1.close s.2).2.2 = trace s ++ s.1.manner.ending ∧
      (s.1.close s.2).2.1.closed = true := by
  have hending : s.1.ending = s.1.manner.ending := by
    rw [Output.ending, hs.encoder, Encoding.finish_encoder]
    rfl
  refine ⟨by rw [h.accepted_close hs.unclosed hs.sink, hending], ?_⟩
  simp only [Output.close, hs.unclosed, Bool.false_eq_true, if_false]
  rw [h.flush_emptied _ hs.sink]
  split <;> rfl

end Ready

variable [Sink δ]

/-- The sink ends up with the content and the end marker, however often the side is closed. At any
time before, a write leaves no more in the buffer than is to be held back. -/
theorem delivers_content {d : δ} (hd : G d) {e : Encoding} (he : e.Memoryless) (t : Translation)
    (b : Buffering) (size : Nat) {ms : List Move}
    (hms : ∀ e, .op (.setEncoding e) ∈ ms → e.Memoryless) :
    let s := moved ms (init e t b size, d)
    let q := inForce ms ⟨e, t, b, size, 0⟩
    (∀ n, Sink.accepted (shut (n + 1) s).2 =
        Sink.accepted d ++ content ms ⟨e, t, b, size, 0⟩ ++ q.ending) ∧
      ∀ p, (s.1.write p s.2).2.1.buffer.length < max q.size 1 ∧
        (q.HandsOn p → (s.1.write p s.2).2.1.buffer = []) := by
  intro s q
  have hstart : Ready G (init e t b size, d) := ⟨rfl, rfl, he, hd⟩
  obtain ⟨hready, htrace⟩ := hstart.trace_moved h hms
  have hmanner : s.1.manner = q := moved_manner ms _
  have hempty : trace (init e t b size, d) = Sink.accepted d := List.append_nil _
  constructor
  · intro n
    obtain ⟨haccepted, hclosed⟩ := hready.close h
    rw [shut, shut_of_closed hclosed, haccepted, htrace, hempty, ← hmanner]
    rfl
  · intro p
    rw [← hmanner]
    exact write_within h p s.1 hready.sink

end Obliging

/-- A sink that takes one byte and then two, a change of the encoding and of the line ending behind a
line that waits, and two closes. -/
theorem delivers_content_in_two_encodings :
    let ms : List Move := [.op (.write (.text ['a', '\n'])), .op (.setEncoding .latin1),
      .op (.setTranslation .crlf), .op (.write (.text ['\u00E9', '\u20AC', '\n'])), .setMarker 0x1A]
    Sink.accepted (shut 2 (moved ms (init (.charset (.utf16 .big)) .lf .full 16,
      { Transport.Rehearsed.quiet with writes := [.atMost 1, .atMost 2] }))).2 =
      [0x00, 0x61, 0x00, 0x0A, 0xE9, 0x3F, 0x0D, 0x0A, 0x1A] := by
  intro ms
  have hms : ∀ e, Move.op (.setEncoding e) ∈ ms → e.Memoryless := by
    intro e he
    simp only [ms, List.mem_cons, Move.op.injEq, Op.setEncoding.injEq, reduceCtorEq, false_or,
      or_false, List.not_mem_nil] at he
    subst he
    decide
  have hcontent := (delivers_content Transport.Rehearsed.obliging
    (d := { Transport.Rehearsed.quiet with writes := [.atMost 1, .atMost 2] }) (by decide)
    (e := .charset (.utf16 .big)) (by decide) .lf .full 16 hms).1 1
  dsimp only [Nat.reduceAdd] at hcontent
  rw [hcontent]
  decide

end Output

end ScriptChannel
