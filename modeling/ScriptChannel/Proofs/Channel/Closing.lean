import ScriptChannel.Proofs.Channel.Delivered
import ScriptChannel.Proofs.Channel.Fresh
import ScriptChannel.Proofs.Input.Closing
import ScriptChannel.Proofs.Stock

/-!
# What reads of a channel keep

A channel notes the end of its input where its input side has met it, and nowhere else. Without a
marker that is the end of the device: a script that goes on is then over.
-/

namespace ScriptChannel

namespace Transport.Rehearsed

/-- The script has been played, and a read call was answered so. -/
def Over (d : Rehearsed) : Prop := d.reads = [] ∧ ∃ n, .read n .theEnd ∈ d.log

/-- A script that goes on answers an end only when it has been played. -/
theorem rawCloses_over :
    RawCloses (fun d : Rehearsed => ∀ step ∈ d.reads, step.Continues) Over := by
  intro n d hn
  refine ⟨fun hd => RawStock.read_lasting n d hd, ?_, ?_⟩
  · rintro ⟨hnone, k, hk⟩
    refine ⟨?_, k, List.mem_cons_of_mem _ hk⟩
    simp [RawReader.read, read, play, hnone, Step.play]
  · intro hd hend
    simp only [RawReader.read, read, play] at hend ⊢
    cases hs : d.reads with
    | nil => exact ⟨rfl, n, List.mem_cons_self ..⟩
    | cons step rest =>
      have hstep := hd step (hs ▸ List.mem_cons_self ..)
      rw [hs] at hend
      cases step with
      | units us =>
        simp only [Step.play, Step.toRead, Except.ok.injEq, List.take_eq_nil_iff] at hend
        exact absurd (hend.resolve_left hn) hstep
      | theEnd => exact hstep.elim
      | delay | interruption | failure => simp [Step.play, Step.toRead] at hend

end Transport.Rehearsed

namespace Channel
open Input
variable {δ : Type} {P E : Cutoff × δ → Prop}

/-- Of the input side and the device, with `E` once the end was noted, there or here. -/
structure Held (P E : Cutoff × δ → Prop) (c : Chain) (ch : Channel δ) : Prop where
  side : Chain.Held P E (c, ch.device)
  ended : ch.ended = true → E (c.cutoff, ch.device)

theorem Held.renew {c c' : Chain} {ch : Channel δ} {d : δ} {ended : Bool} {ends : Prop}
    (hc : Held P E c ch) (h : Honest (Chain.Held P E) (Chain.Bottom E) ends (c, ch.device) (c', d))
    (he : ended = true → ch.ended = true ∨ ends ∨ c'.noted = true) (j : List Event) :
    Held P E c' (ch.renew c' d ended j) where
  side := h.keeps hc.side
  ended hended := by
    rcases he hended with hch | hends | hnoted
    · exact h.stays (hc.ended hch)
    · exact h.closes hc.side hends
    · exact (h.keeps hc.side).2 hnoted

variable [Transport δ]

/-- A read through the input side that notes the ends it meets. -/
theorem readThrough_held (h : Closes P E (Cutoff.fetch (δ := δ)))
    (hsome : ∀ n s, Latched Decoding.finished (Chain.HeldLower P E) (Chain.BottomLower E) s →
      (CharSource.fetch (n + 1) s).1 = .got [] →
      Below (Chain.BottomLower E) (CharSource.fetch (n + 1) s).2)
    (n : Option Nat) (dst : Data) {c : Chain} {ch : Channel δ} (hc : Held P E c ch) :
    ∃ c', (readThrough dst c ch n).2.input = some c' ∧ Held P E c' (readThrough dst c ch n).2 := by
  have hflag : ∀ {ended : Bool} {halt : Halt} {c' : Chain}, (ended || decide (halt = .ended)) = true →
      ended = true ∨ halt = .ended ∨ c'.noted = true := by
    intro ended halt c' he
    rw [Bool.or_eq_true, decide_eq_true_iff] at he
    exact he.imp_right .inl
  cases n with
  | some n =>
    simp only [readThrough, readUnits]
    split
    · exact ⟨_, rfl, hc.renew (Chain.readBytes_honest h n c ch.device) hflag ch.journal⟩
    · exact ⟨_, rfl, hc.renew (Chain.readText_honest h hsome n c ch.device) hflag ch.journal⟩
  | none =>
    have hline := Chain.readLine_honest h hsome ch.settings.blocking c ch.device
    simp only [readThrough, readLine]
    rcases hq : c.readLine ch.settings.blocking ch.device with ⟨l, c', d⟩
    rw [hq] at hline
    have hnoted : c'.lines.isEnded = true → ch.ended = true ∨ l = .ended ∨ c'.noted = true := by
      intro hended
      rw [Lines.isEnded, Bool.and_eq_true, Bool.and_eq_true] at hended
      refine .inr (.inr ?_)
      simp [Chain.noted, hended.1.1]
    cases l with
    | line text => exact ⟨c', rfl, hc.renew hline hnoted ch.journal⟩
    | blocked => exact ⟨c', rfl, hc.renew hline hnoted ch.journal⟩
    | ended => exact ⟨c', rfl, hc.renew hline (fun _ => .inr (.inl rfl)) ch.journal⟩
    | failed e => exact ⟨c', rfl, hc.renew hline .inl ch.journal⟩

section Readable
variable [InputDevice δ] (h : Closes P E (Cutoff.fetch (δ := δ)))
  (hopen : ∀ k d, Honest P E False (k, d) (k, (Transport.openInput d).2))
include h hopen

/-- A read of a channel notes the ends it meets. -/
theorem read_held {ch : Channel δ} (hr : ch.Readable) (hc : Held P E ch.chain ch) (kind : ReadKind)
    (dst : Data) : Held P E (read kind dst ch).2.chain (read kind dst ch).2 := by
  by_cases he : ch.ended = true
  · rw [read_ended hr he]
    exact hc
  · have hsome : ∀ n s, Latched Decoding.finished (Chain.HeldLower P E) (Chain.BottomLower E) s →
        (CharSource.fetch (n + 1) s).1 = .got [] →
        Below (Chain.BottomLower E) (CharSource.fetch (n + 1) s).2 := by
      intro n s _ hnone
      have htakes := CharStream.fetch_takes (n + 1) s (Nat.succ_pos n)
      rw [hnone] at htakes
      exact absurd rfl htakes.1
    have hbuilt : Held P E ch.chain ch.buildInput.2 := by
      obtain ⟨-, hsame⟩ := buildInput_built hr
      unfold buildInput at hsame ⊢
      cases hi : ch.input with
      | some c => exact hc
      | none =>
        have hopened : Honest (Chain.Held P E) (Chain.Bottom E) False (ch.chain, ch.device)
            (ch.chain, (Transport.openInput ch.device).2) :=
          ⟨fun hs => ⟨(hopen _ _).keeps hs.1, (hopen _ _).stays ∘ hs.2⟩, (hopen _ _).stays,
            fun _ => False.elim⟩
        have hdev := hr.opens hi
        rcases hd : Transport.openInput ch.device with ⟨e | _, d⟩
        · simp [hd] at hdev
        · rw [hd] at hopened
          exact ⟨hopened.keeps hc.side, hopened.stays ∘ hc.ended⟩
    obtain ⟨j, hj⟩ := read_eq hr (Bool.eq_false_iff.2 he) kind dst
    obtain ⟨c', hinput, hheld⟩ := readThrough_held h hsome (wanted kind) dst hbuilt
    generalize readThrough dst ch.chain ch.buildInput.2 (wanted kind) = r at hj hinput hheld
    rw [hj]
    have hchain : ({ r.2 with journal := j } : Channel δ).chain = c' := by simp [chain, hinput]
    rw [hchain]
    exact ⟨hheld.side, hheld.ended⟩

theorem serve_held {ch : Channel δ} (hr : ch.Readable) (hc : Held P E ch.chain ch)
    (requests : List (ReadKind × Data)) :
    Held P E (ch.serve requests).2.chain (ch.serve requests).2 := by
  induction requests generalizing ch with
  | nil => exact hc
  | cons request requests ih =>
    exact ih (read_keeps hr request.1 request.2).1 (read_held h hopen hr hc request.1 request.2)

end Readable

/-- Without a marker a channel that has ended is on a device whose script is over. -/
theorem over_of_ended {d : Transport.Rehearsed} {m : OpenMode} {s : Settings}
    (hscript : ∀ step ∈ d.reads, step.Continues) (hopen : (Transport.openInput d).1 = .ok ())
    (hm : m.isReadable = true) (hmark : s.inputMarker = 0) (requests : List (ReadKind × Data))
    (he : ((opened d m s).serve requests).2.ended = true) :
    ((opened d m s).serve requests).2.device.Over := by
  have hcloses := Cutoff.closes_of_unmarked Transport.Rehearsed.rawCloses_over
  have hfresh : Held (fun s : Cutoff × Transport.Rehearsed =>
      s.1.Unmarked ∧ ∀ step ∈ s.2.reads, step.Continues) (Below Transport.Rehearsed.Over)
      (opened d m s).chain (opened d m s) :=
    ⟨⟨⟨⟨hmark, rfl⟩, hscript⟩, by simp [opened, init, chain, newInput, Chain.noted, Lines.init,
      Decoding.init, ReadAhead.init]⟩, by simp [opened, init]⟩
  refine (serve_held hcloses ?_ (opened_readable hopen hm s) hfresh requests).ended he
  intro k d
  refine ⟨id, ?_, fun _ => False.elim⟩
  rintro ⟨hnone, n, hn⟩
  exact ⟨hnone, n, List.mem_cons_of_mem _ hn⟩

end Channel

end ScriptChannel
