import ScriptChannel.Output
import ScriptChannel.Proofs.Persist
import ScriptChannel.Transport.Rehearsed

/-!
# What the device has accepted

The bytes a device has accepted, followed by those in the buffer, should be what was encoded so far,
whatever the device does. A delivery goes through the buffer in several write calls, but the buffer
is emptied as a whole. So they are, up to the first delivery that fails after the device has accepted
a part of the buffer: that part stays in the buffer and is accepted once more later on.
-/

namespace ScriptChannel

/-- A device with an account of the bytes it has accepted. -/
class Sink (δ : Type) [RawWriter δ] where
  accepted : δ → List UInt8
  write_ok (bs : List UInt8) (d : δ) (n : Nat) (d' : δ) (h : RawWriter.write bs d = (.ok n, d')) :
    accepted d' = accepted d ++ bs.take n
  write_error (bs : List UInt8) (d : δ) (e : IoError) (d' : δ)
    (h : RawWriter.write bs d = (.error e, d')) : accepted d' = accepted d
  accepted_flush (d : δ) : accepted (RawWriter.flush d).2 = accepted d
  accepted_sync (d : δ) : accepted (RawWriter.sync d).2 = accepted d

namespace Transport.Rehearsed

theorem accepted_write (bs : List UInt8) (d : Rehearsed) :
    (write bs d).2.accepted = d.accepted ++ match (write bs d).1 with
      | .ok n => bs.take n
      | .error _ => [] := rfl

instance : Sink Rehearsed where
  accepted := accepted
  write_ok bs d n d' h := by
    have hw := accepted_write bs d
    rw [show write bs d = (.ok n, d') from h] at hw
    exact hw
  write_error bs d e d' h := by
    have hw := accepted_write bs d
    rw [show write bs d = (.error e, d') from h] at hw
    simpa using hw
  accepted_flush _ := rfl
  accepted_sync _ := rfl

end Transport.Rehearsed

namespace Output
variable {δ : Type} [RawWriter δ]

/-- How payloads are put into bytes, as far as it lasts from one to the next. -/
structure Pen where
  encoder : Encoding.Encoder
  translation : Translation
  deriving DecidableEq, Repr

/-- The pen of an output side. -/
def pen (o : Output) : Pen := ⟨o.encoder, o.translation⟩

/-- A call of the output side, short of closing it. -/
inductive Op
  | write (p : Payload)
  | flush
  | setEncoding (e : Encoding)
  | setTranslation (t : Translation)
  | setBuffering (b : Buffering)
  | setBufferSize (size : Nat)
  deriving DecidableEq, Repr

namespace Op

/-- The bytes that a call puts down. -/
def ink : Op → Pen → List UInt8 × Pen
  | write p, q =>
    let r := q.encoder.feed Encoding.questionMark (translate q.translation p.chars)
    (r.1, { q with encoder := r.2 })
  | setEncoding e, q => (q.encoder.finish.1, { q with encoder := e.encoder })
  | setTranslation t, q => ([], { q with translation := t })
  | _, q => ([], q)

def perform : Op → Output × δ → Except IoError Unit × Output × δ
  | write p, (o, d) => o.write p d
  | flush, (o, d) => o.flush d
  | setEncoding e, (o, d) => (.ok (), o.setEncoding e, d)
  | setTranslation t, (o, d) => (.ok (), { o with translation := t }, d)
  | setBuffering b, (o, d) => (.ok (), { o with buffering := b }, d)
  | setBufferSize n, (o, d) => (.ok (), { o with size := n }, d)

/-- What a call offers to the device. -/
def offer : Op → Output → List UInt8
  | write p, o =>
    let o := o.encode (translate o.translation p.chars)
    if o.isDue (p.chars.contains '\n') then o.buffer else []
  | flush, o => o.buffer
  | _, _ => []

end Op

/-- The output side and its device after some calls, failed ones or not. -/
def run (ops : List Op) (s : Output × δ) : Output × δ :=
  ops.foldl (fun s op => (op.perform s).2) s

/-- What some calls put down: the payloads in the encoding and with the newlines of their time, and
what ends each encoding. -/
def inked : List Op → Pen → List UInt8
  | [], _ => []
  | op :: ops, q => (op.ink q).1 ++ inked ops (op.ink q).2

/-- With nothing waiting. -/
def emptied (o : Output) : Output := { o with buffer := [] }

/-- What an output side that is closed hands over behind what waits. -/
def ending (o : Output) : List UInt8 :=
  o.encoder.finish.1 ++ if o.marker = 0 then [] else [o.marker]

/-- A flush empties the buffer, or it fails and leaves it as it was. -/
theorem flush_cases (o : Output) (d : δ) : (o.flush d).2.1 = o ∨ (o.flush d).2.1 = o.emptied := by
  unfold flush flushBuffer
  split
  · exact .inl rfl
  · split
    · exact .inl rfl
    · right
      split
      · rfl
      · dsimp only
        split <;> rfl

/-- If the buffer was delivered it is empty, whatever follows the writing. -/
theorem flush_emptied_of_ok {o : Output} {d : δ} (h : (writeAll o.buffer d).1 = .ok ()) :
    (o.flush d).2.1 = o.emptied := by
  unfold flush flushBuffer
  split
  · rename_i hempty
    rw [emptied, ← List.isEmpty_iff.1 hempty]
  rcases hw : writeAll o.buffer d with ⟨e | _, d₁⟩
  all_goals rw [hw] at h
  · cases h
  dsimp only
  split
  · rfl
  · split <;> rfl

theorem write_cases (p : Payload) (o : Output) (d : δ) :
    (o.write p d).2.1 = o.encode (translate o.translation p.chars) ∨
      (o.write p d).2.1 = (o.encode (translate o.translation p.chars)).emptied := by
  unfold write
  dsimp only
  split
  · exact flush_cases _ d
  · exact .inl rfl

theorem flush_pen (o : Output) (d : δ) : (o.flush d).2.1.pen = o.pen := by
  rcases o.flush_cases d with h | h <;> rw [h]
  rfl

theorem perform_pen (op : Op) (s : Output × δ) :
    (op.perform s).2.1.pen = (op.ink s.1.pen).2 := by
  obtain ⟨o, d⟩ := s
  cases op with
  | write p =>
    simp only [Op.perform, write]
    split
    · rw [flush_pen]
      rfl
    · rfl
  | flush => exact flush_pen o d
  | setEncoding e => rfl
  | setTranslation t => rfl
  | setBuffering b => rfl
  | setBufferSize n => rfl

/-- Only with nothing left is a write call the last one and well. -/
theorem writeSome_ok {s : List UInt8 × δ} (h : (writeSome s).1 = some (.ok ())) :
    (writeSome s).2.1 = [] := by
  obtain ⟨left, d⟩ := s
  simp only [writeSome] at h ⊢
  by_cases he : left.isEmpty = true
  · rw [if_pos he]
    exact List.isEmpty_iff.1 he
  · rw [if_neg he] at h
    split at h
    · simp at h
    · simp at h
    · split at h <;> simp at h

section Account
variable [Sink δ]

/-- Of `bs`, offered to `d`, the part that `s` does not have to offer any more was accepted. -/
def HandsOver (bs : List UInt8) (d : δ) (s : List UInt8 × δ) : Prop :=
  ∃ taken, bs = taken ++ s.1 ∧ Sink.accepted s.2 = Sink.accepted d ++ taken

theorem writeSome_handsOver {bs : List UInt8} {d : δ} {s : List UInt8 × δ}
    (h : HandsOver bs d s) : HandsOver bs d (writeSome s).2 := by
  obtain ⟨left, d'⟩ := s
  obtain ⟨taken, hbs, hd⟩ := h
  simp only [writeSome]
  by_cases he : left.isEmpty = true
  · rw [if_pos he]
    exact ⟨taken, hbs, hd⟩
  · rw [if_neg he]
    rcases hw : RawWriter.write left d' with ⟨e | n, d''⟩
    · have hd'' := Sink.write_error left d' e d'' hw
      exact ⟨taken, hbs, hd''.trans hd⟩
    · have hd'' := Sink.write_ok left d' n d'' hw
      cases n with
      | zero => exact ⟨taken, hbs, by simpa using hd''.trans (by simp [hd])⟩
      | succ n =>
        refine ⟨taken ++ left.take (n + 1), ?_, ?_⟩
        · simp [hbs]
        · simp [hd'', hd]

/-- The device accepts the bytes from the front on, and all of them if the delivery does not fail. -/
theorem writeAll_handsOver (bs : List UInt8) (d : δ) :
    ∃ left, HandsOver bs d (left, (writeAll bs d).2) ∧ ((writeAll bs d).1 = .ok () → left = []) := by
  have next : ∀ s : List UInt8 × δ, HandsOver bs d s → (writeSome s).1.isNone = true →
      HandsOver bs d (writeSome s).2 := fun s hs _ => writeSome_handsOver hs
  obtain ⟨s, hs, he⟩ := persist_eq_attempt Option.isNone
    (fun s : List UInt8 × δ => s.1.length + RawWriter.patience s.2) writeSome next
    (⟨[], rfl, (List.append_nil _).symm⟩ : HandsOver bs d (bs, d))
  refine ⟨(writeSome s).2.1, ?_, ?_⟩
  · unfold writeAll
    rw [he]
    exact writeSome_handsOver hs
  · intro hok
    unfold writeAll at hok
    rw [he] at hok
    apply writeSome_ok
    cases hw : (writeSome s).1 with
    | none => simp [hw] at hok
    | some r => simpa [hw] using hok

/-- Offered these bytes the device accepts a part of them, and then the delivery fails. -/
def Tears (bs : List UInt8) (d : δ) : Prop :=
  (∃ e, (writeAll bs d).1 = .error e) ∧ Sink.accepted (writeAll bs d).2 ≠ Sink.accepted d

/-- The bytes accepted, and behind them those in the buffer. -/
def trace (s : Output × δ) : List UInt8 := Sink.accepted s.2 ++ s.1.buffer

/-- A delivery moves the buffer to the device. If it is torn, it copies a part of the buffer. -/
theorem flushBuffer_trace (o : Output) (d : δ) :
    ∃ copied, trace (o.flushBuffer d).2 = Sink.accepted d ++ copied ++ o.buffer ∧
      (copied = [] ↔ ¬ Tears o.buffer d) := by
  obtain ⟨left, ⟨taken, hbs, hd⟩, hleft⟩ := writeAll_handsOver o.buffer d
  unfold flushBuffer Tears
  rcases hw : writeAll o.buffer d with ⟨e | _, d'⟩
  · rw [hw] at hd
    exact ⟨taken, by simp [trace, hd], by simp [hd]⟩
  · rw [hw] at hd hleft
    have hall : Sink.accepted d' = Sink.accepted d ++ o.buffer := by simpa [hleft rfl, hd] using hbs.symm
    refine ⟨[], ?_, by simp⟩
    have hflush := Sink.accepted_flush d'
    dsimp only
    rcases hf : RawWriter.flush d' with ⟨e | _, d''⟩
    · rw [hf] at hflush
      simp [trace, hflush, hall]
    · rw [hf] at hflush
      dsimp only
      by_cases hs : o.sync = true
      · have hsync := Sink.accepted_sync d''
        simp [hs, trace, hsync, hflush, hall]
      · simp [hs, trace, hflush, hall]

theorem not_tears_nil (d : δ) : ¬ Tears [] d := by
  obtain ⟨left, ⟨taken, hbs, hd⟩, _⟩ := writeAll_handsOver [] d
  have ht : taken = [] := (List.append_eq_nil_iff.1 hbs.symm).1
  exact fun h => h.2 (by simpa [ht] using hd)

theorem flush_trace (o : Output) (d : δ) :
    ∃ copied, trace (o.flush d).2 = Sink.accepted d ++ copied ++ o.buffer ∧
      (copied = [] ↔ ¬ Tears o.buffer d) := by
  unfold flush
  by_cases he : o.buffer.isEmpty = true
  · rw [if_pos he]
    have hb : o.buffer = [] := List.isEmpty_iff.1 he
    refine ⟨[], ?_, ?_⟩
    · simp [trace, Sink.accepted_flush]
    · simp [hb, not_tears_nil]
  · rw [if_neg he]
    exact flushBuffer_trace o d

/-- The device has it all then. -/
theorem accepted_flush_of_ok {o : Output} {d : δ} (h : (writeAll o.buffer d).1 = .ok ()) :
    Sink.accepted (o.flush d).2.2 = Sink.accepted d ++ o.buffer := by
  obtain ⟨copied, htrace, hcopied⟩ := flush_trace o d
  have hnone : copied = [] := hcopied.2 fun ht => by
    obtain ⟨e, he⟩ := ht.1
    rw [h] at he
    cases he
  rw [trace, flush_emptied_of_ok h, hnone] at htrace
  simpa [emptied] using htrace

/-- One call puts its bytes down behind the others; a torn delivery copies some on the way. -/
theorem perform_trace (op : Op) (s : Output × δ) :
    ∃ copied, trace (op.perform s).2 =
        Sink.accepted s.2 ++ copied ++ s.1.buffer ++ (op.ink s.1.pen).1 ∧
      (copied = [] ↔ ¬ Tears (op.offer s.1) s.2) := by
  obtain ⟨o, d⟩ := s
  have quiet : ([] : List UInt8) = [] ↔ ¬ Tears [] d := by simp [not_tears_nil]
  cases op with
  | write p =>
    simp only [Op.perform, write, Op.offer]
    by_cases hdue : (o.encode (translate o.translation p.chars)).isDue (p.chars.contains '\n') = true
    · rw [if_pos hdue, if_pos hdue]
      obtain ⟨copied, ht, hc⟩ := flush_trace (o.encode (translate o.translation p.chars)) d
      refine ⟨copied, ?_, hc⟩
      rw [ht]
      simp [encode, Op.ink, pen]
    · rw [if_neg hdue, if_neg hdue]
      exact ⟨[], by simp [trace, encode, Op.ink, pen], quiet⟩
  | flush =>
    obtain ⟨copied, ht, hc⟩ := flush_trace o d
    exact ⟨copied, by simpa [Op.perform, Op.ink] using ht, hc⟩
  | setEncoding e =>
    exact ⟨[], by simp [Op.perform, Op.ink, trace, setEncoding, finishEncoder_eq, pen], quiet⟩
  | setTranslation t => exact ⟨[], by simp [Op.perform, Op.ink, trace], quiet⟩
  | setBuffering b => exact ⟨[], by simp [Op.perform, Op.ink, trace], quiet⟩
  | setBufferSize n => exact ⟨[], by simp [Op.perform, Op.ink, trace], quiet⟩

/-- What was put down is with the device or in the buffer, once and in order. -/
def Faithful (s : Output × δ) (ops : List Op) : Prop :=
  trace (run ops s) = trace s ++ inked ops s.1.pen

theorem faithful_singleton (op : Op) (s : Output × δ) :
    Faithful s [op] ↔ ¬ Tears (op.offer s.1) s.2 := by
  obtain ⟨copied, ht, hc⟩ := perform_trace op s
  rw [← hc]
  simp only [Faithful, run, List.foldl_cons, List.foldl_nil, inked, List.append_nil]
  rw [ht, trace]
  constructor
  · intro h
    have hl := congrArg List.length h
    simp only [List.length_append] at hl
    exact List.length_eq_zero_iff.1 (by omega)
  · intro h
    simp [h]

/-- After a first call that was faithful the others are so on their own. -/
theorem faithful_cons {op : Op} {s : Output × δ} (h : Faithful s [op]) (ops : List Op) :
    Faithful s (op :: ops) ↔ Faithful (op.perform s).2 ops := by
  simp only [Faithful, run, List.foldl_cons, List.foldl_nil, inked, List.append_nil] at h ⊢
  rw [h, perform_pen, List.append_assoc]

/-- The bytes accepted and buffered are at all times those put down so far, if and only if no
delivery is torn. -/
theorem faithful_iff_not_tears (s : Output × δ) (ops : List Op) :
    (∀ done, done <+: ops → Faithful s done) ↔
      ∀ done op, done ++ [op] <+: ops →
        ¬ Tears (op.offer (run done s).1) (run done s).2 := by
  induction ops generalizing s with
  | nil => simp [Faithful, run, inked]
  | cons op ops ih =>
    constructor
    · intro h done op' hp
      have hop : Faithful s [op] := h [op] (by simp)
      cases done with
      | nil =>
        obtain ⟨rfl, -⟩ := List.cons_prefix_cons.1 hp
        exact (faithful_singleton _ s).1 hop
      | cons a done =>
        obtain ⟨rfl, hrest⟩ := List.cons_prefix_cons.1 hp
        refine (ih (a.perform s).2).1 ?_ done op' hrest
        intro done' hp'
        exact (faithful_cons hop done').1 (h _ (List.cons_prefix_cons.2 ⟨rfl, hp'⟩))
    · intro h done hp
      have hop : Faithful s [op] := (faithful_singleton op s).2 (h [] op (by simp))
      cases done with
      | nil => simp [Faithful, run, inked]
      | cons a done =>
        obtain ⟨rfl, hrest⟩ := List.cons_prefix_cons.1 hp
        rw [faithful_cons hop]
        refine (ih (a.perform s).2).2 ?_ done hrest
        intro done' op' hp'
        exact h (a :: done') op' (List.cons_prefix_cons.2 ⟨rfl, hp'⟩)

end Account

/-- A device that takes two bytes of six and then fails is offered all six again, so that it has the
first two of them twice. -/
theorem not_faithful_of_torn_flush :
    ¬ Faithful
      (Output.init .utf8 .lf .full 4096,
        { Transport.Rehearsed.quiet with
          writes := [.atMost 2, .failure ⟨.other, "sink failed"⟩] })
      [.write (.text ['a', 'b', 'c', 'd', 'e', 'f']), .flush, .flush] := by
  unfold Faithful
  decide

end Output

end ScriptChannel
