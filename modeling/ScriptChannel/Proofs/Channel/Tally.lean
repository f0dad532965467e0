import ScriptChannel.Proofs.Channel.Ledger

/-!
# What a binary channel has handed out of its stream

On a binary channel lines are read through the line endings and everything else around them. Mixed as
they may be, the reads take the bytes of the stream from the front. Those that go around hand them
out as they are.
-/

namespace ScriptChannel

namespace Input.Chain
variable {δ : Type} [Transport δ] [StockedDevice δ]

variable {k : Decoding.Course} {told : List Char} {c : Chain} {d : δ}

theorem Tallied.readLine (h : c.Tallied k told d) (blocking : Bool) :
    let r := c.readLine blocking d
    ∃ us, r.2.1.Tallied k (told ++ us) r.2.2 ∧
      c.lines.mode.Renders us (Lines.lineText r.1 ++ (c.lineStop blocking d).closing) ∧
      (r.2.1.lines.mode = c.lines.mode ∨ c.lines.mode = .auto) ∧
      (∀ error, r.1 ≠ .failed error) ∧ (r.1 = .ended → r.2.1.lines.isEnded = true) :=
  Lines.readLine_holds (Decoding.tells k) blocking h

omit [StockedDevice δ] in
/-- A run for bytes that does not fail. Behind it no mark is looked for, unless nothing was taken. -/
theorem readBytes_eq {n : Nat} {us : List UInt8} {halt : Halt} {w : Lower δ}
    (hq : collect piece ByteSource.run (n - (c.lines.pending.take n).length) (c.lower d) =
      ((us, halt), w)) (hsound : ∀ error, halt ≠ .failed error) :
    ∃ g, (g = c.decoding.disarm ∨ g = c.decoding ∧ us = []) ∧
      c.readBytes n d = (((c.lines.pending.take n).map Encoding.lowByte ++ us, halt),
        ofWhole ((c.lines.takePending n).2, g, w)) := by
  simp only [readBytes, Lines.takePending, List.length_map, hq]
  by_cases hnone : (c.lines.pending.take n).map Encoding.lowByte ++ us = []
  · refine ⟨c.decoding, .inr ⟨rfl, (List.append_eq_nil_iff.1 hnone).2⟩, ?_⟩
    cases halt with
    | failed error => exact absurd rfl (hsound error)
    | served | wouldBlock | ended => rw [if_pos (List.isEmpty_iff.2 hnone)]
  · refine ⟨c.decoding.disarm, .inl rfl, ?_⟩
    cases halt with
    | failed error => exact absurd rfl (hsound error)
    | served | wouldBlock | ended => rw [if_neg (fun h => hnone (List.isEmpty_iff.1 h))]

/-- Bytes that are read around the line endings, with what waits there in front. -/
theorem Tallied.readBytes (h : c.Tallied k told d) (hb : k.encoding.isBinary = true) (n : Nat) :
    let r := c.readBytes n d
    let told' := told ++ r.1.1.map Encoding.charOfByte
    r.2.1.Tallied k told' r.2.2 ∧ r.2.1.lines.mode = c.lines.mode ∧
      (r.1.2 = .ended → told' = k.text) := by
  have hk := k.decoder_of_binary hb
  have hm : k.encoding.markedCharset? = none := by
    rw [show k.encoding = .binary by simpa [Encoding.isBinary] using hb]
    rfl
  obtain ⟨⟨used, bs, hacc⟩, hover⟩ := h
  change Decoding.Account k (told ++ c.lines.pending) used bs (c.decoding, c.lower d) at hacc
  have hsplit := List.take_append_drop n c.lines.pending
  -- what is taken from above is made of bytes
  have hfront : (c.lines.pending.take n).map (Encoding.charOfByte ∘ Encoding.lowByte) =
      c.lines.pending.take n := by
    rw [← List.map_map]
    apply Encoding.map_charOfByte_lowByte
    intro x hx
    obtain ⟨-, -, hspells⟩ := (Decoding.spells_of_none hk).1 hacc.spells
    have hin : x ∈ bs.map Encoding.charOfByte := by
      rw [← hspells]
      simp [List.mem_of_mem_take hx]
    obtain ⟨b, -, rfl⟩ := List.mem_map.1 hin
    exact Encoding.narrow_charOfByte b
  obtain ⟨hspent, hend, hsound⟩ := hacc.spent.collect (show 0 < piece by decide)
    (n - (c.lines.pending.take n).length)
  rcases hq : collect piece ByteSource.run (n - (c.lines.pending.take n).length) (c.lower d) with
    ⟨⟨us, halt⟩, w⟩
  rw [hq] at hspent hend hsound
  dsimp only at hspent hend hsound
  obtain ⟨g, hdis, hread⟩ := readBytes_eq hq hsound
  rw [hread]
  dsimp only
  rw [List.map_append, List.map_map, hfront]
  -- either nothing is asked for below, or nothing is left above
  have hrest : us = [] ∧ halt = .served ∨ c.lines.pending.drop n = [] := by
    rcases Nat.lt_or_ge n c.lines.pending.length with hlt | hge
    · left
      have hzero : n - (c.lines.pending.take n).length = 0 := by
        rw [List.length_take]
        omega
      rw [hzero] at hq
      have hserved : (([], .served), c.lower d) = ((us, halt), w) := hq
      simp only [Prod.mk.injEq] at hserved
      exact ⟨hserved.1.1.symm, hserved.1.2.symm⟩
    · exact .inr (List.drop_eq_nil_of_le hge)
  have hnext := hacc.around hk hm hspent hdis
  have hgoes : c.lines.pending ++ us.map Encoding.charOfByte =
      c.lines.pending.take n ++ us.map Encoding.charOfByte ++ c.lines.pending.drop n := by
    rcases hrest with ⟨hus, -⟩ | hdrop
    · simp [hus, hsplit]
    · rw [hdrop, List.append_nil] at hsplit ⊢
      rw [hsplit]
  rw [List.append_assoc, hgoes, ← List.append_assoc] at hnext
  refine ⟨⟨⟨used ++ us, bs ++ us, ?_⟩, ?_⟩, rfl, ?_⟩
  · rw [← List.append_nil (c.lines.pending.drop n)] at hnext
    exact hnext
  · intro he
    obtain ⟨hf, hs⟩ := hover he
    rcases hdis with rfl | ⟨rfl, -⟩ <;> exact ⟨hf, hs⟩
  · intro hended
    rcases hrest with ⟨-, hserved⟩ | hdrop
    · exact absurd (hserved.symm.trans hended) (by decide)
    · rw [hdrop, List.append_nil] at hnext
      exact hnext.eq_text_around hk hm (hend hended)

end Input.Chain

namespace Channel
variable {δ : Type} [Transport δ] [StockedDevice δ]

/-- So much of the text has passed the channel, and if it has ended, that is all of it. The line
endings are those of `m`, or those it has settled on. -/
structure Tally (k : Input.Decoding.Course) (m : Translation) (told : List Char)
    (ch : Channel δ) : Prop where
  readable : ch.Readable
  encoding : ch.settings.encoding = k.encoding
  tallied : ch.chain.Tallied k told ch.device
  settled : ch.chain.lines.mode = m ∨ m = .auto
  ended : ch.ended = true → told = k.text

/-- A read takes something from the front of the text and brings a rendering of it. Unless it asks
for a line it brings it as it is. -/
def Passes (k : Input.Decoding.Course) (m : Translation) (told : List Char) (kind : ReadKind)
    (brought : List Char) (r : Reading × Channel δ) : Prop :=
  ∃ us, Tally k m (told ++ us) r.2 ∧ m.Renders us brought ∧ (kind ≠ .line → brought = us) ∧
    (r.1.status = .ok .ended → r.2.ended = true)

section Tally
variable {k : Input.Decoding.Course} {m : Translation} {told : List Char} {ch : Channel δ}

theorem Tally.read_bytes (h : Tally k m told ch) (hb : k.encoding.isBinary = true)
    (he : ch.ended = false) {kind : ReadKind} {n : Nat} (hk : wanted kind = some n) (dst : Data) :
    Passes k m told kind (ch.brought kind dst) (read kind dst ch) := by
  obtain ⟨j, hj⟩ := read_bytes_eq h.readable he (by rw [h.encoding, hb]) hk dst
  obtain ⟨hready, hsettings⟩ := read_keeps h.readable kind dst
  obtain ⟨htallied, hmode, hend⟩ := (h.tallied.congr (buildInput_account ch)).readBytes hb n
  rcases hq : ch.chain.readBytes n ch.buildInput.2.device with ⟨⟨us, halt⟩, c, d⟩
  rw [hq] at hj htallied hmode hend
  have hbrought : ch.brought kind dst = us.map Encoding.charOfByte := by
    simp only [brought, dropped_of_wanted hk, hj, Data.appendBytes, Data.chars, List.map_append,
      List.append_nil]
    exact List.drop_left' (by rw [List.length_map, length_octets]; rfl)
  rw [hj] at hready hsettings
  rw [hbrought, hj]
  refine ⟨us.map Encoding.charOfByte, ⟨hready, hsettings ▸ h.encoding, htallied, ?_, ?_⟩,
    m.renders_refl _, fun _ => rfl, ?_⟩
  · exact hmode.symm ▸ h.settled
  · intro hended
    apply hend
    simpa [renew] using hended
  · intro hstatus
    have hhalt : halt = .ended := statusOf_eq_ended hstatus
    simp [renew, hhalt]

theorem Tally.read_line (h : Tally k m told ch) (hb : k.encoding.isBinary = true)
    (he : ch.ended = false) (dst : Data) :
    Passes k m told .line (ch.brought .line dst) (read .line dst ch) := by
  obtain ⟨ended, j, hj, hnote, hover⟩ := read_line_eq h.readable he dst
  obtain ⟨hready, hsettings⟩ := read_keeps h.readable .line dst
  have hread := (h.tallied.congr (buildInput_account ch)).readLine ch.settings.blocking
  obtain ⟨us, htallied, hrenders, hsettles, -, hend⟩ := hread
  have hstop : ch.lineStop = ch.chain.lineStop ch.settings.blocking ch.buildInput.2.device := rfl
  rw [← hstop] at hrenders
  rcases hq : ch.chain.readLine ch.settings.blocking ch.buildInput.2.device with ⟨l, c, d⟩
  rw [hq] at hj htallied hrenders hsettles hend hnote hover
  dsimp only at htallied hrenders hsettles hend hnote hover
  -- what is rendered is a part of the text, which is made of bytes
  have hbrought : ch.brought .line dst = Input.Lines.lineText l ++ ch.lineStop.closing := by
    rw [brought, dropped_line he, hj]
    congr 1
    apply drop_lineReading
    intro _ x hx
    have hin : x ∈ us ∨ x = '\n' := hrenders.mem (List.mem_append_left _ hx)
    rcases hin with hin | rfl
    · exact k.narrow hb (htallied.begins_text.mem (List.mem_append_right _ hin))
    · decide
  rw [hj] at hready hsettings
  rw [hbrought, hj]
  refine ⟨us, ⟨hready, hsettings ▸ h.encoding, htallied, ?_, ?_⟩, hrenders.of_settled h.settled,
    by simp, ?_⟩
  · rcases h.settled with hm | hm
    · exact hm ▸ hsettles
    · exact .inr hm
  · intro hended
    apply htallied.eq_text
    exact (hnote hended).elim hend id
  · intro hstatus
    exact hover (lineReading_eq_ended hstatus)

theorem Tally.read (h : Tally k m told ch) (hb : k.encoding.isBinary = true) (kind : ReadKind)
    (dst : Data) : Passes k m told kind (ch.brought kind dst) (read kind dst ch) := by
  by_cases he : ch.ended = true
  · have hnone : ch.brought kind dst = [] := by
      rw [brought, read_ended h.readable he]
      cases kind <;> simp [dropped, he]
    rw [hnone, read_ended h.readable he]
    refine ⟨[], ?_, .nil, fun _ => rfl, fun _ => he⟩
    rwa [List.append_nil]
  · have he : ch.ended = false := Bool.eq_false_iff.2 he
    cases kind with
    | line => exact h.read_line hb he dst
    | all => exact h.read_bytes hb he rfl dst
    | units n => exact h.read_bytes hb he rfl dst

/-- A run takes the text from the front, and all of it once it has met the end. -/
theorem Tally.serve (h : Tally k m told ch) (hb : k.encoding.isBinary = true)
    (requests : List (ReadKind × Data)) :
    ∃ us, Tally k m (told ++ us) (ch.serve requests).2 ∧ m.Renders us (ch.delivered requests) ∧
      ((∀ r ∈ requests, r.1 ≠ .line) → ch.delivered requests = us) ∧
      (ch.Exhausts requests → (ch.serve requests).2.ended = true) := by
  induction requests generalizing told ch with
  | nil =>
    refine ⟨[], by simpa [Channel.serve] using h, .nil, fun _ => rfl, ?_⟩
    rintro ⟨r, hmem, -⟩
    simp [Channel.serve] at hmem
  | cons request requests ih =>
    obtain ⟨kind, dst⟩ := request
    obtain ⟨us, hnext, hrenders, hplain, hend⟩ := h.read hb kind dst
    obtain ⟨vs, hrest, hrenders', hplain', hexh⟩ := ih hnext
    rw [List.append_assoc] at hrest
    refine ⟨us ++ vs, hrest, hrenders.append hrenders', ?_, ?_⟩
    · intro hall
      obtain ⟨hkind, hothers⟩ := List.forall_mem_cons.1 hall
      rw [delivered, hplain hkind, hplain' hothers]
    · rintro ⟨r, hmem, hstatus⟩
      rcases List.mem_cons.1 hmem with rfl | hmem
      · exact serve_ended hnext.readable (hend hstatus) requests
      · exact hexh ⟨r, hmem, hstatus⟩

end Tally

end Channel

end ScriptChannel
