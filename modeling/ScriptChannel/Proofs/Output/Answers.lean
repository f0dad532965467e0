import ScriptChannel.Proofs.Output.Obliging
import ScriptChannel.Proofs.Transport.Recorded

/-!
# What the output side calls and answers

A delivery makes calls to the sink until one of them fails, and answers that failure. If it goes well
so did all its calls. A sink that accepts what it is offered has the whole buffer then, also if what
comes after the writing fails.
-/

namespace ScriptChannel
open Transport

namespace Transport.Recorded
variable {δ : Type}

/-- The second device is the first after calls of this sort, and the answer is what they come to. -/
def Answered (A : Entry → Prop) (answer : Except IoError Unit) (d d' : Recorded δ) : Prop :=
  ∃ calls, d'.log = d.log ++ calls ∧ (∀ e ∈ calls, A e) ∧ answer = outcome calls

namespace Answered
variable {A : Entry → Prop} {r r' : Except IoError Unit} {d d' d'' : Recorded δ}

theorem refl (A : Entry → Prop) (d : Recorded δ) : Answered A (.ok ()) d d :=
  ⟨[], by simp, by simp, rfl⟩

theorem called (h : Answered A r d d') : Called A d d' := by
  obtain ⟨calls, hlog, hall, -⟩ := h
  exact ⟨calls, hlog, hall⟩

/-- Of two groups of calls the first failure counts. -/
theorem seq (h : Answered A r d d') (h' : Answered A r' d' d'') : Answered A (r *> r') d d'' := by
  obtain ⟨calls, hlog, hall, rfl⟩ := h
  obtain ⟨calls', hlog', hall', rfl⟩ := h'
  refine ⟨calls ++ calls', by rw [hlog', hlog, List.append_assoc], ?_, (outcome_append _ _).symm⟩
  simpa [or_imp, forall_and] using ⟨hall, hall'⟩

/-- A single call that answers with its failure. -/
theorem record {entry : Except IoError Unit → Entry} (call : δ → Except IoError Unit × δ)
    (d : Recorded δ) (hA : ∀ a, A (entry a)) (hok : (entry (.ok ())).failure? = none)
    (herror : ∀ e, (entry (.error e)).failure? = some e) :
    Answered A (d.record entry call).1 d (d.record entry call).2 := by
  refine ⟨[entry (call d.device).1], rfl, by simpa using hA _, ?_⟩
  change (call d.device).1 = _
  rcases (call d.device).1 with e | _
  · simp [outcome, herror]
  · simp [outcome, hok]

end Answered

/-- The bytes that the device was handed. -/
instance [Transport δ] : Sink (Recorded δ) where
  accepted d := received d.log
  write_ok bs d n d' h := by
    have hd : (RawWriter.write bs d).2 = d' := congrArg Prod.snd h
    have hn : (RawWriter.write bs d.device).1 = .ok n := congrArg Prod.fst h
    rw [← hd]
    change received (d.log ++ [.write bs (RawWriter.write bs d.device).1]) = _
    rw [hn, received_append]
    simp [received, Entry.accepted]
  write_error bs d e d' h := by
    have hd : (RawWriter.write bs d).2 = d' := congrArg Prod.snd h
    have he : (RawWriter.write bs d.device).1 = .error e := congrArg Prod.fst h
    rw [← hd]
    change received (d.log ++ [.write bs (RawWriter.write bs d.device).1]) = _
    rw [he, received_append]
    simp [received, Entry.accepted]
  accepted_flush d := by
    change received (d.log ++ [.flush (RawWriter.flush d.device).1]) = received d.log
    rw [received_append]
    simp [received, Entry.accepted]
  accepted_sync d := by
    change received (d.log ++ [.sync (RawWriter.sync d.device).1]) = received d.log
    rw [received_append]
    simp [received, Entry.accepted]

end Transport.Recorded

namespace Output
variable {δ : Type}

/-- A write call takes something from what is left or from the patience of the sink, if another one
is to follow. -/
theorem writeSome_lt [RawWriter δ] [Tireless δ] {s : List UInt8 × δ}
    (h : (writeSome s).1.isNone = true) :
    (writeSome s).2.1.length + RawWriter.patience (writeSome s).2.2 <
      s.1.length + RawWriter.patience s.2 := by
  obtain ⟨left, d⟩ := s
  have hless := Tireless.patience_write left d
  have hinterrupted := Tireless.patience_interrupted left d
  simp only [writeSome] at h ⊢
  by_cases he : left.isEmpty = true
  · simp [he] at h
  rw [if_neg he] at h ⊢
  have hpos : 0 < left.length := List.length_pos_iff.2 (by simpa using he)
  rcases hw : RawWriter.write left d with ⟨e | n, d'⟩
  · rw [hw] at h hinterrupted
    by_cases hi : e.kind = .interrupted
    · exact Nat.add_lt_add_left (hinterrupted e rfl hi) _
    · simp [hi] at h
  · rw [hw] at h hless
    dsimp only at hless
    cases n with
    | zero => simp at h
    | succ n =>
      simp only [List.length_drop]
      omega

/-- The last write call of a delivery is answered for. -/
theorem writeAll_settles [RawWriter δ] [Tireless δ] {P : List UInt8 × δ → Prop} (bs : List UInt8)
    (next : ∀ s, P s → (writeSome s).1.isNone = true → P (writeSome s).2) {d : δ} (h : P (bs, d)) :
    ∃ s r, P s ∧ (writeSome s).1 = some r ∧ writeAll bs d = (r, (writeSome s).2.2) := by
  obtain ⟨s, hs, heq, hsome⟩ := persist_settles Option.isNone
    (fun s : List UInt8 × δ => s.1.length + RawWriter.patience s.2) writeSome
    (μ := fun s => s.1.length + RawWriter.patience s.2) (fun _ _ => Nat.le_refl _)
    (fun s hs ha => ⟨next s hs ha, writeSome_lt ha⟩) h
  rw [Option.isNone_eq_false_iff] at hsome
  obtain ⟨r, hr⟩ := Option.isSome_iff_exists.1 hsome
  exact ⟨s, r, hs, hr, by rw [writeAll, heq, hr, Option.getD_some]⟩

section Answers
variable [Transport δ]

/-- A write call that another one is to follow is no failure; the last one is what the delivery
answers. -/
theorem writeSome_answered (s : List UInt8 × Recorded δ) :
    Recorded.Answered (·.isSink = true) ((writeSome s).1.getD (.ok ())) s.2 (writeSome s).2.2 := by
  obtain ⟨left, d⟩ := s
  simp only [writeSome]
  by_cases he : left.isEmpty = true
  · rw [if_pos he]
    exact .refl _ d
  rw [if_neg he]
  have hcall : (RawWriter.write left d).2.log = d.log ++ [.write left (RawWriter.write left d).1] :=
    rfl
  refine ⟨[.write left (RawWriter.write left d).1], ?_, by simp [Entry.isSink], ?_⟩
  all_goals
    rcases hw : RawWriter.write left d with ⟨e | n, d'⟩
    all_goals rw [hw] at hcall
  · exact hcall
  · cases n <;> exact hcall
  · by_cases hi : e.kind = .interrupted <;> simp [outcome, Entry.failure?, hi]
  · cases n <;> simp [outcome, Entry.failure?]

variable [Tireless δ]

theorem writeAll_answered (bs : List UInt8) (d : Recorded δ) :
    Recorded.Answered (·.isSink = true) (writeAll bs d).1 d (writeAll bs d).2 := by
  have next : ∀ s : List UInt8 × Recorded δ, Recorded.Answered (·.isSink = true) (.ok ()) d s.2 →
      (writeSome s).1.isNone = true →
      Recorded.Answered (·.isSink = true) (.ok ()) d (writeSome s).2.2 := by
    intro s hs hnone
    have hnext := hs.seq (writeSome_answered s)
    rw [Option.isNone_iff_eq_none.1 hnone] at hnext
    exact hnext
  obtain ⟨s, r, hs, hr, heq⟩ := writeAll_settles bs next (.refl _ d)
  have hlast := hs.seq (writeSome_answered s)
  rw [hr] at hlast
  rw [heq]
  exact hlast

/-- A flush answers with the first failure among its calls. -/
theorem flush_answered (o : Output) (d : Recorded δ) :
    Recorded.Answered (·.isSink = true) (o.flush d).1 d (o.flush d).2.2 := by
  have hflush : ∀ d : Recorded δ,
      Recorded.Answered (·.isSink = true) (RawWriter.flush d).1 d (RawWriter.flush d).2 :=
    fun d => .record _ d (fun _ => rfl) rfl fun _ => rfl
  have hsync : ∀ d : Recorded δ,
      Recorded.Answered (·.isSink = true) (RawWriter.sync d).1 d (RawWriter.sync d).2 :=
    fun d => .record _ d (fun _ => rfl) rfl fun _ => rfl
  have hall := writeAll_answered o.buffer d
  unfold flush flushBuffer
  split
  · exact hflush d
  rcases hw : writeAll o.buffer d with ⟨e | _, d₁⟩
  all_goals rw [hw] at hall
  · exact hall
  have hflushed := hall.seq (hflush d₁)
  dsimp only
  rcases hf : RawWriter.flush d₁ with ⟨e | _, d₂⟩
  all_goals rw [hf] at hflushed
  · exact hflushed
  dsimp only
  split
  · exact hflushed.seq (hsync d₂)
  · exact hflushed

theorem close_answered (o : Output) (d : Recorded δ) :
    Recorded.Answered (·.isSink = true) (o.close d).1 d (o.close d).2.2 := by
  unfold close
  split
  · exact .refl _ d
  · exact flush_answered _ d

end Answers

/-- The sink accepts what it is offered. -/
def Accepts (δ : Type) [RawWriter δ] : Prop :=
  ∀ (bs : List UInt8) (d : δ), (RawWriter.write bs d).1 = .ok bs.length

section Accepts
variable [RawWriter δ] (h : Accepts δ)
include h

theorem Accepts.obliging : Obliging fun _ : δ => True where
  takes b bs d _ := ⟨bs.length, h (b :: bs) d⟩
  write _ _ _ := trivial
  flush _ := trivial
  sync _ := trivial

/-- A flush empties the buffer, whatever follows the writing. -/
theorem flush_buffer (o : Output) (d : δ) : (o.flush d).2.1 = o.emptied :=
  h.obliging.flush_emptied o trivial

/-- The sink has it all then. -/
theorem flush_accepted [Sink δ] (o : Output) (d : δ) :
    Sink.accepted (o.flush d).2.2 = Sink.accepted d ++ o.buffer :=
  h.obliging.accepted_flush o trivial

end Accepts

end Output

end ScriptChannel
