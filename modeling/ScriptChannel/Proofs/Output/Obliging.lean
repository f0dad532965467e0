import ScriptChannel.Proofs.Output.Delivery

/-!
# Sinks that do not fail

A sink may take less than it is offered. If it takes something each time, what is left gets shorter
with every write call, and a delivery comes to its end with nothing left.
-/

namespace ScriptChannel

/-- In such states a sink takes something of what it is offered, and no call leads to other ones. -/
structure Obliging {δ : Type} [RawWriter δ] (G : δ → Prop) : Prop where
  takes (b : UInt8) (bs : List UInt8) {d : δ} (h : G d) :
    ∃ n, (RawWriter.write (b :: bs) d).1 = .ok (n + 1)
  write (bs : List UInt8) {d : δ} (h : G d) : G (RawWriter.write bs d).2
  flush {d : δ} (h : G d) : G (RawWriter.flush d).2
  sync {d : δ} (h : G d) : G (RawWriter.sync d).2

namespace Transport

/-- An answer to a write call that accepts something. -/
def Acceptance.Some : Acceptance → Prop
  | all => True
  | atMost n => 0 < n
  | failure _ => False

instance : DecidablePred Acceptance.Some
  | .all => .isTrue trivial
  | .atMost n => inferInstanceAs (Decidable (0 < n))
  | .failure _ => .isFalse id

/-- A rehearsed device that was not told to refuse anything. -/
def Rehearsed.Takes (d : Rehearsed) : Prop := ∀ a ∈ d.writes, a.Some

instance : DecidablePred Rehearsed.Takes := fun d =>
  inferInstanceAs (Decidable (∀ a ∈ d.writes, a.Some))

theorem Rehearsed.obliging : Obliging Rehearsed.Takes where
  takes b bs d h := by
    change ∃ n, (Rehearsed.write (b :: bs) d).1 = .ok (n + 1)
    unfold Rehearsed.write
    rcases hw : d.writes with _ | ⟨_ | n | e, later⟩
    · exact ⟨_, rfl⟩
    · exact ⟨_, rfl⟩
    · have hn : 0 < n := h (.atMost n) (by simp [hw])
      refine ⟨min n (b :: bs).length - 1, ?_⟩
      simp only [List.length_cons]
      congr
      omega
    · exact absurd (h (.failure e) (by simp [hw])) id
  write _ _ h a ha := h a (List.mem_of_mem_tail ha)
  flush h := h
  sync h := h

end Transport

namespace Obliging
open Output
variable {δ : Type} [RawWriter δ] {G : δ → Prop} (h : Obliging G)
include h

/-- A write call leaves less than there was. -/
theorem writeSome_cons (b : UInt8) (bs : List UInt8) {d : δ} (hd : G d) :
    ∃ n, writeSome (b :: bs, d) = (none, bs.drop n, (RawWriter.write (b :: bs) d).2) := by
  obtain ⟨n, hn⟩ := h.takes b bs hd
  refine ⟨n, ?_⟩
  simp only [writeSome, List.isEmpty_cons, Bool.false_eq_true, if_false]
  rcases hw : RawWriter.write (b :: bs) d with ⟨r, d'⟩
  obtain rfl : r = .ok (n + 1) := by rw [← hn, hw]
  rfl

theorem writeAll_ok (bs : List UInt8) {d : δ} (hd : G d) :
    (writeAll bs d).1 = .ok () ∧ G (writeAll bs d).2 := by
  have next : ∀ s : List UInt8 × δ, G s.2 → (writeSome s).1.isNone = true →
      G (writeSome s).2.2 ∧ (writeSome s).2.1.length < s.1.length := by
    rintro ⟨_ | ⟨b, bs⟩, d⟩ hs hnone
    · cases hnone
    · obtain ⟨n, hn⟩ := h.writeSome_cons b bs hs
      rw [hn]
      refine ⟨h.write _ hs, ?_⟩
      simp only [List.length_drop, List.length_cons]
      omega
  obtain ⟨⟨left, d'⟩, hs, heq, hsome⟩ := persist_settles Option.isNone
    (fun s : List UInt8 × δ => s.1.length + RawWriter.patience s.2) writeSome
    (fun _ _ => Nat.le_add_right _ _) next (s := (bs, d)) hd
  unfold writeAll
  rw [heq]
  cases left with
  | nil => exact ⟨rfl, hs⟩
  | cons b bs =>
    obtain ⟨n, hn⟩ := h.writeSome_cons b bs hs
    rw [hn] at hsome
    cases hsome

theorem flush_keeps (o : Output) {d : δ} (hd : G d) : G (o.flush d).2.2 := by
  unfold Output.flush flushBuffer
  split
  · exact h.flush hd
  have hall := h.writeAll_ok o.buffer hd
  rcases hw : writeAll o.buffer d with ⟨e | _, d₁⟩
  all_goals rw [hw] at hall
  · exact hall.2
  have hflushed := h.flush hall.2
  dsimp only
  rcases hf : RawWriter.flush d₁ with ⟨e | _, d₂⟩
  all_goals rw [hf] at hflushed
  · exact hflushed
  dsimp only
  split
  · exact h.sync hflushed
  · exact hflushed

theorem write_keeps (p : Payload) (o : Output) {d : δ} (hd : G d) : G (o.write p d).2.2 := by
  unfold Output.write
  dsimp only
  split
  · exact h.flush_keeps _ hd
  · exact hd

theorem close_keeps (o : Output) {d : δ} (hd : G d) : G (o.close d).2.2 := by
  unfold Output.close
  split
  · exact hd
  · exact h.flush_keeps _ hd

theorem flush_emptied (o : Output) {d : δ} (hd : G d) : (o.flush d).2.1 = o.emptied :=
  flush_emptied_of_ok (h.writeAll_ok o.buffer hd).1

section Account
variable [Sink δ]

theorem accepted_flush (o : Output) {d : δ} (hd : G d) :
    Sink.accepted (o.flush d).2.2 = Sink.accepted d ++ o.buffer :=
  accepted_flush_of_ok (h.writeAll_ok o.buffer hd).1

/-- A call puts its bytes down behind the others. -/
theorem trace_perform (a : Op) {s : Output × δ} (hs : G s.2) :
    trace (a.perform s).2 = trace s ++ (a.ink s.1.pen).1 := by
  obtain ⟨copied, htrace, hcopied⟩ := perform_trace a s
  obtain rfl : copied = [] := hcopied.2 fun ht => by
    obtain ⟨e, he⟩ := ht.1
    rw [(h.writeAll_ok _ hs).1] at he
    cases he
  rw [htrace, trace, List.append_nil]

/-- Closing hands over what is left, and the ending behind it. -/
theorem accepted_close {s : Output × δ} (hopen : s.1.closed = false) (hs : G s.2) :
    Sink.accepted (s.1.close s.2).2.2 = trace s ++ s.1.ending := by
  obtain ⟨o, d⟩ := s
  simp only [Output.close, show o.closed = false from hopen, Bool.false_eq_true, if_false]
  rw [h.accepted_flush _ hs]
  by_cases hm : o.marker = 0 <;> simp [trace, finishEncoder_eq, Output.ending, hm]

end Account

end Obliging

end ScriptChannel
