import Mathlib.Data.List.Basic
import ScriptChannel.Proofs.Output.Delivery

/-!
# What is safe on the medium

Where flushed data is forced onto the medium, a call that flushes and answers that all went well
should leave nothing accepted that was not forced. A call that empties its buffer and then fails owes
the forcing of what the device accepted, and the stage does not remember it: the next call finds
nothing in the buffer, and forces nothing.
-/

namespace ScriptChannel

/-- A device with an account of the bytes that were forced onto the medium: those accepted before the
last time that this went well. -/
class DurableSink (δ : Type) [RawWriter δ] extends Sink δ where
  durable : δ → List UInt8
  durable_prefix (d : δ) : durable d <+: accepted d
  durable_write (bs : List UInt8) (d : δ) : durable (RawWriter.write bs d).2 = durable d
  durable_flush (d : δ) : durable (RawWriter.flush d).2 = durable d
  durable_sync (d : δ) : durable (RawWriter.sync d).2 =
    match (RawWriter.sync d).1 with
    | .ok () => accepted d
    | .error _ => durable d

/-- All that the device has accepted is on the medium. -/
def Durable {δ : Type} [RawWriter δ] [DurableSink δ] (d : δ) : Prop :=
  DurableSink.durable d = Sink.accepted d

instance {δ : Type} [RawWriter δ] [DurableSink δ] (d : δ) : Decidable (Durable d) :=
  inferInstanceAs (Decidable (DurableSink.durable d = Sink.accepted d))

namespace Transport.Rehearsed

/-- How many bytes were accepted since data was last forced onto the medium and that went well. The
last call is the first in the log. -/
def unsynced : List Call → Nat
  | .write bs (.ok n) :: log => (bs.take n).length + unsynced log
  | .hook .sync none :: _ => 0
  | _ :: log => unsynced log
  | [] => 0

instance : DurableSink Rehearsed where
  durable d := d.accepted.take (d.accepted.length - unsynced d.log)
  durable_prefix _ := List.take_prefix _ _
  durable_write bs d := by
    have hlog : (write bs d).2.log = .write bs ((write bs d).1.mapError (·.kind)) :: d.log := rfl
    change List.take ((write bs d).2.accepted.length - unsynced (write bs d).2.log)
      (write bs d).2.accepted = _
    rw [accepted_write, hlog]
    cases (write bs d).1 with
    | error e => simp [Except.mapError, unsynced]
    | ok n =>
      simp only [Except.mapError, unsynced, List.length_append]
      rw [Nat.add_comm (bs.take n).length, Nat.add_sub_add_right,
        List.take_append_of_le_length (Nat.sub_le _ _)]
  durable_flush _ := rfl
  durable_sync d := by
    change List.take _ d.accepted = match (call .sync d).1 with
      | .ok () => d.accepted
      | .error _ => _
    cases hf : (d.hooks .sync).head?.join with
    | none => simp [RawWriter.sync, call, hf, unsynced]
    | some e => simp [RawWriter.sync, call, hf, unsynced]

end Transport.Rehearsed

namespace Output
variable {δ : Type} [RawWriter δ]

/-- A call of the output side. -/
inductive Act
  | op (op : Op)
  | close
  deriving DecidableEq, Repr

namespace Act

def perform : Act → Output × δ → Except IoError Unit × Output × δ
  | op a, s => a.perform s
  | close, (o, d) => o.close d

/-- The calls that leave nothing in the buffer if they go well. -/
def flushes : Act → Bool
  | op .flush | close => true
  | _ => false

end Act

/-- The output side and its device after some calls, failed ones or not. -/
def work (acts : List Act) (s : Output × δ) : Output × δ :=
  acts.foldl (fun s a => (a.perform s).2) s

theorem flush_sync (o : Output) (d : δ) : (o.flush d).2.1.sync = o.sync := by
  rcases o.flush_cases d with h | h <;> rw [h]
  rfl

theorem perform_sync (a : Act) (s : Output × δ) : (a.perform s).2.1.sync = s.1.sync := by
  obtain ⟨o, d⟩ := s
  cases a with
  | close =>
    simp only [Act.perform, close]
    split
    · rfl
    · rw [flush_sync]
      split <;> rfl
  | op a =>
    cases a with
    | write p =>
      simp only [Act.perform, Op.perform, write]
      split
      · exact flush_sync _ d
      · rfl
    | flush => exact flush_sync o d
    | setEncoding e | setTranslation t | setBuffering b | setBufferSize n => rfl

section Account
variable [DurableSink δ]

/-- How a call came out for the device: what is accepted in one that goes well is forced onto the
medium, and no other call forces anything. -/
structure Outcome (r : Except IoError Unit) (d d' : δ) : Prop where
  grows : Sink.accepted d <+: Sink.accepted d'
  forced : r = .ok () → Sink.accepted d' ≠ Sink.accepted d → Durable d'
  kept : r ≠ .ok () ∨ Sink.accepted d' = Sink.accepted d →
    DurableSink.durable d' = DurableSink.durable d

theorem outcome_refl (r : Except IoError Unit) (d : δ) : Outcome r d d :=
  ⟨List.prefix_refl _, fun _ h => absurd rfl h, fun _ => rfl⟩

theorem durable_writeAll (bs : List UInt8) (d : δ) :
    DurableSink.durable (writeAll bs d).2 = DurableSink.durable d := by
  have hstep : ∀ s : List UInt8 × δ,
      DurableSink.durable (writeSome s).2.2 = DurableSink.durable s.2 := by
    rintro ⟨left, d⟩
    have hwrite := DurableSink.durable_write left d
    simp only [writeSome]
    split
    · rfl
    · split
      all_goals
        rename_i hw
        rw [hw] at hwrite
        exact hwrite
  exact persist_unchanged Option.isNone _ writeSome (f := fun s => DurableSink.durable s.2) hstep (bs, d)

theorem flushBuffer_outcome {o : Output} (hs : o.sync = true) (hb : o.buffer ≠ []) (d : δ) :
    Outcome (o.flushBuffer d).1 d (o.flushBuffer d).2.2 := by
  obtain ⟨left, ⟨taken, hbs, hd⟩, hleft⟩ := writeAll_handsOver o.buffer d
  have hkept := durable_writeAll o.buffer d
  have hgrows : ∀ {d' : δ}, Sink.accepted d' = Sink.accepted d ++ taken →
      Sink.accepted d <+: Sink.accepted d' := fun h => h ▸ List.prefix_append _ _
  unfold flushBuffer
  rcases hw : writeAll o.buffer d with ⟨e | _, d₁⟩
  all_goals rw [hw] at hd hkept hleft
  · exact ⟨hgrows hd, by simp, fun _ => hkept⟩
  · have hflush := Sink.accepted_flush d₁
    have hflushed := DurableSink.durable_flush d₁
    dsimp only at hd hkept ⊢
    rcases hf : RawWriter.flush d₁ with ⟨e | _, d₂⟩
    all_goals
      rw [hf] at hflush hflushed
      dsimp only at hflush hflushed ⊢
    · exact ⟨hgrows (hflush.trans hd), by simp, fun _ => hflushed.trans hkept⟩
    · rw [if_pos hs]
      have hsync := Sink.accepted_sync d₂
      have hsynced := DurableSink.durable_sync d₂
      rcases hy : RawWriter.sync d₂ with ⟨e | _, d₃⟩
      all_goals
        rw [hy] at hsync hsynced
        dsimp only at hsync hsynced ⊢
      · exact ⟨hgrows (hsync.trans (hflush.trans hd)), by simp,
          fun _ => hsynced.trans (hflushed.trans hkept)⟩
      · have hd₃ : Sink.accepted d₃ = Sink.accepted d ++ taken := hsync.trans (hflush.trans hd)
        refine ⟨hgrows hd₃, fun _ _ => hsynced.trans hsync.symm, ?_⟩
        rintro (hok | hsame)
        · exact absurd rfl hok
        · have htaken : taken = o.buffer := by simpa [hleft rfl] using hbs.symm
          rw [hd₃, htaken, List.append_right_eq_self] at hsame
          exact absurd hsame hb

theorem flush_outcome {o : Output} (hs : o.sync = true) (d : δ) :
    Outcome (o.flush d).1 d (o.flush d).2.2 := by
  unfold flush
  by_cases hb : o.buffer.isEmpty = true
  · rw [if_pos hb]
    have hsame := Sink.accepted_flush d
    exact ⟨hsame ▸ List.prefix_refl _, fun _ h => absurd hsame h, fun _ => DurableSink.durable_flush d⟩
  · rw [if_neg hb]
    exact flushBuffer_outcome hs (by simpa using hb) d

namespace Act

theorem outcome (a : Act) {s : Output × δ} (hs : s.1.sync = true) :
    Outcome (a.perform s).1 s.2 (a.perform s).2.2 := by
  obtain ⟨o, d⟩ := s
  cases a with
  | close =>
    simp only [perform, Output.close]
    split
    · exact outcome_refl _ d
    · refine flush_outcome ?_ d
      split <;> exact hs
  | op a =>
    cases a with
    | write p =>
      simp only [perform, Op.perform, write]
      split
      · exact flush_outcome (o := o.encode _) hs d
      · exact outcome_refl _ d
    | flush => exact flush_outcome hs d
    | setEncoding e | setTranslation t | setBuffering b | setBufferSize n => exact outcome_refl _ d

/-- The device accepts something in a call. -/
def Feeds (a : Act) (s : Output × δ) : Prop := Sink.accepted (a.perform s).2.2 ≠ Sink.accepted s.2

instance (a : Act) (s : Output × δ) : Decidable (a.Feeds s) :=
  inferInstanceAs (Decidable (Sink.accepted (a.perform s).2.2 ≠ Sink.accepted s.2))

/-- What a call leaves to be forced: if the device accepts something in it, that depends on whether it
goes well, and otherwise on what was left before. -/
theorem durable_perform (a : Act) {s : Output × δ} (hs : s.1.sync = true) :
    Durable (a.perform s).2.2 ↔
      (a.Feeds s → (a.perform s).1 = .ok ()) ∧ (¬ a.Feeds s → Durable s.2) := by
  have hout := a.outcome hs
  by_cases hf : a.Feeds s
  · by_cases hok : (a.perform s).1 = .ok ()
    · simp only [hok, hf, not_true_eq_false, false_imp_iff, and_true, imp_self, iff_true]
      exact hout.forced hok hf
    · -- nothing was forced in the call, so what was accepted in it was not
      simp only [hf, hok, forall_const, false_and, iff_false]
      intro hdurable
      have hkept := hout.kept (.inl hok)
      have hle := (DurableSink.durable_prefix s.2).length_le
      rw [← hkept, hdurable] at hle
      exact hf (hout.grows.eq_of_length_le hle).symm
  · have hsame : Sink.accepted (a.perform s).2.2 = Sink.accepted s.2 := Decidable.not_not.1 hf
    simp only [hf, false_imp_iff, not_false_eq_true, forall_const, true_and, Durable,
      hout.kept (.inr hsame), hsame]

end Act

/-- Forcing is owed: of the calls in which the device accepted something, the last one failed. Before
the first of them it is owed if it was owed to begin with. -/
def Owes : List Act → Output × δ → Prop → Prop
  | [], _, owed => owed
  | a :: acts, s, owed =>
    Owes acts (a.perform s).2 ((a.Feeds s ∧ (a.perform s).1 ≠ .ok ()) ∨ (¬ a.Feeds s ∧ owed))

instance Owes.decide : (acts : List Act) → (s : Output × δ) → (owed : Prop) → [Decidable owed] →
    Decidable (Owes acts s owed)
  | [], _, _, h => h
  | a :: acts, s, owed, h =>
    have : Decidable owed := h
    Owes.decide acts (a.perform s).2 _

/-- What is owed is what is accepted and not on the medium. -/
theorem owes_iff_not_durable {s : Output × δ} (hs : s.1.sync = true) (acts : List Act) :
    Owes acts s (¬ Durable s.2) ↔ ¬ Durable (work acts s).2 := by
  induction acts generalizing s with
  | nil => rfl
  | cons a acts ih =>
    have hstep : (a.Feeds s ∧ (a.perform s).1 ≠ .ok ()) ∨ (¬ a.Feeds s ∧ ¬ Durable s.2) ↔
        ¬ Durable (a.perform s).2.2 := by
      rw [a.durable_perform hs]
      grind
    have hrest := ih (s := (a.perform s).2) (by rw [perform_sync, hs])
    rw [Owes, propext hstep, hrest]
    rfl

omit [DurableSink δ] in
theorem work_sync (acts : List Act) (s : Output × δ) : (work acts s).1.sync = s.1.sync := by
  induction acts generalizing s with
  | nil => rfl
  | cons a acts ih => exact (ih _).trans (perform_sync a s)

/-- Every flush and every close that goes well leaves all that was accepted on the medium, just if
none of them goes well with nothing to hand over while forcing is owed. -/
theorem durable_iff_paid {s : Output × δ} (hs : s.1.sync = true) (hd : Durable s.2)
    (acts : List Act) :
    (∀ done a, done ++ [a] <+: acts → a.flushes = true → (a.perform (work done s)).1 = .ok () →
        Durable (a.perform (work done s)).2.2) ↔
      ∀ done a, done ++ [a] <+: acts → a.flushes = true → (a.perform (work done s)).1 = .ok () →
        a.Feeds (work done s) ∨ ¬ Owes done s False := by
  have hcall : ∀ done (a : Act), (a.perform (work done s)).1 = .ok () →
      (Durable (a.perform (work done s)).2.2 ↔ a.Feeds (work done s) ∨ ¬ Owes done s False) := by
    intro done a hok
    have howes := owes_iff_not_durable hs done
    rw [show (¬ Durable s.2) = False from propext (iff_false_intro (not_not_intro hd))] at howes
    rw [a.durable_perform (by rw [work_sync, hs]), howes]
    grind
  constructor
  · exact fun h done a hp hf hok => (hcall done a hok).1 (h done a hp hf hok)
  · exact fun h done a hp hf hok => (hcall done a hok).2 (h done a hp hf hok)

/-- Forcing fails once; the second write makes up for it before the flush. -/
theorem durable_behind_second_write :
    let s : Output × Transport.Rehearsed :=
      ({ Output.init .utf8 .lf .none 4096 with sync := true },
        { Transport.Rehearsed.quiet with
          hooks := fun h => if h = .sync then [some ⟨.other, "sink failed"⟩] else [] })
    let acts : List Act :=
      [.op (.write (.text ['a'])), .op (.write (.text ['b'])), .op .flush]
    ∀ done a, done ++ [a] <+: acts → a.flushes = true → (a.perform (work done s)).1 = .ok () →
      Durable (a.perform (work done s)).2.2 := by
  intro s acts
  refine (durable_iff_paid (s := s) rfl (by decide) acts).2 ?_
  intro done a hp hf _
  -- the flush is the last of the three calls
  have hdone : done = [.op (.write (.text ['a'])), .op (.write (.text ['b']))] := by
    rcases done with _ | ⟨b, _ | ⟨c, _ | ⟨e, done⟩⟩⟩
    all_goals simp_all [acts, List.cons_prefix_cons, Act.flushes]
  subst hdone
  exact .inr (by decide)

end Account

/-- The sink fails once, behind the write: the flush that is tried again finds the buffer empty and
forces nothing. -/
theorem not_durable_behind_failed_flush :
    let s : Output × Transport.Rehearsed :=
      ({ Output.init .utf8 .lf .none 4096 with sync := true },
        { Transport.Rehearsed.quiet with
          hooks := fun h => if h = .flush then [some ⟨.other, "sink failed"⟩] else [] })
    let acts : List Act := [.op (.write (.text ['a'])), .op .flush]
    ¬ ∀ done a, done ++ [a] <+: acts → a.flushes = true → (a.perform (work done s)).1 = .ok () →
      Durable (a.perform (work done s)).2.2 := by
  intro s acts h
  have hflush := h [.op (.write (.text ['a']))] (.op .flush) (List.prefix_refl acts) rfl (by decide)
  exact absurd hflush (by decide)

end Output

end ScriptChannel
