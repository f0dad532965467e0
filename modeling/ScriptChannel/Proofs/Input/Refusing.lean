import ScriptChannel.Proofs.Input.Piecewise
import ScriptChannel.Proofs.Refusing

/-!
# No byte for a spent decoder

A decoder that has been told the end of its input must not be used again. Here such a use is refused, in
a machine of the same shape as the one that decodes: no byte is given and no end told but to a decoder
that has not been told one. Whatever the order of the calls it is never refused, since a decoder is told
the end only together with the note that the stream is finished, no bytes are asked for while that
stands, and whoever takes it back makes the decoder anew.
-/

namespace ScriptChannel

namespace Charset.Decoder

/-- Feeding, unless the end was told. -/
def feed? (d : Decoder) (bs : List UInt8) : Option (List Char × Decoder) :=
  if d.spent then none else some (d.feed bs)

/-- Telling the end, once. -/
def finish? (d : Decoder) : Option (List Char × Decoder) :=
  if d.spent then none else some d.finish

theorem spent_feed (d : Decoder) (bs : List UInt8) : (d.feed bs).2.spent = d.spent := by
  induction bs generalizing d with
  | nil => rfl
  | cons b bs ih =>
    simp only [feed]
    split
    · rfl
    · exact ih (d.step b).2

end Charset.Decoder

namespace Input.Decoding

/-- What a user of the stage does. -/
inductive Call
  | read (size : Nat)
  | setEncoding (e : Encoding)
  | cancelEnd
  | seekReset
  | rearm
  | disarm
  | takeSurplus
  deriving DecidableEq, Repr

/-- The decoder in place has been told the end of its input. -/
def told (d : Decoding) : Bool := d.decoder.any (·.spent)

/-- Only a stream that is noted as finished has its decoder told. -/
def Sound (d : Decoding) : Prop := d.told = true → d.finished = true

/-- Decodes bytes, if the decoder may be given any. -/
def decode? (d : Decoding) (n : Nat) (bs : List UInt8) : Option (List Char × Decoding) :=
  match d.decoder with
  | none => some ([], d)
  | some state => do
    let r ← state.feed? bs
    some (r.1.take n, { d with decoder := some r.2, surplus := d.surplus ++ r.1.drop n })

/-- Finishes the decoder, if it was not finished before. -/
def finish? (d : Decoding) (n : Nat) : Option (List Char × Decoding) :=
  match d.decoder with
  | none => some ([], { d with finished := true })
  | some state => do
    let r ← state.finish?
    some (r.1.take n,
      { d with decoder := some r.2, surplus := d.surplus ++ r.1.drop n, finished := true })

section Machine
variable {σ : Type} [ByteSource σ]

def advance? (n : Nat) :
    Decoding × Rewind × σ → Option (Option (Fetch Char) × Decoding × Rewind × σ)
  | (d, s) =>
    match ByteSource.fetch (d.bytesFor n) s with
    | (.got bs, s) => do
      let r ← d.decode? n bs
      some (if r.1.isEmpty then none else some (.got r.1), r.2, s)
    | (.ended, s) => do
      let r ← d.finish? n
      some (some (if r.1.isEmpty then .ended else .got r.1), r.2, s)
    | (.wouldBlock, s) => some (some .wouldBlock, d, s)
    | (.failed e, s) => some (some (.failed e), d, s)

/-- Each of the repeated requests may be the one that is refused. -/
def fetchText? (n : Nat) (s : Decoding × Rewind × σ) :
    Option (Fetch Char × Decoding × Rewind × σ) := do
  let r ← persist? Option.isNone (fun s => ByteSource.budget s.2) (advance? n) s
  some (r.1.getD .wouldBlock, r.2)

/-- Bytes that are characters as they stand need no decoder. -/
def fetchPlain? (n : Nat) (s : Decoding × Rewind × σ) :
    Option (Fetch Char × Decoding × Rewind × σ) :=
  match s.1.encoding with
  | .charset _ => fetchText? n s
  | _ => some (fetchBytes n s)

def fetch? (n : Nat) : Decoding × Rewind × σ → Option (Fetch Char × Decoding × Rewind × σ)
  | (d, s) =>
    if n = 0 then some (.got [], d, s)
    else if !d.surplus.isEmpty then
      some (.got (d.surplus.take n), { d with surplus := d.surplus.drop n }, s)
    else if d.finished then some (.ended, d, s)
    else if d.atStart then
      match skipMark (d, s) with
      | (some f, s) => some (f, s)
      | (none, s) => fetchPlain? n s
    else fetchPlain? n (d, s)

namespace Call

/-- What is answered with characters or news, and what the call leads to. -/
def perform : Call → Decoding × Rewind × σ → List (Fetch Char) × Decoding × Rewind × σ
  | read n, s =>
    let r := fetch n s
    ([r.1], r.2)
  | setEncoding e, (d, s) => ([], d.setEncoding e, s)
  | cancelEnd, (d, s) => ([], d.cancelEnd, s)
  | seekReset, (d, s) => ([], d.seekReset, s)
  | rearm, (d, s) => ([], d.rearm, s)
  | disarm, (d, s) => ([], d.disarm, s)
  | takeSurplus, (d, s) => ([.got d.takeSurplus.1], d.takeSurplus.2, s)

/-- Only a read makes use of the decoder. -/
def perform? : Call → Decoding × Rewind × σ → Option (List (Fetch Char) × Decoding × Rewind × σ)
  | read n, s => do
    let r ← fetch? n s
    some ([r.1], r.2)
  | call, s => some (call.perform s)

end Call

end Machine

theorem told_decoder (d : Decoding) {e : Encoding} (h : d.decoder = e.decoder?) : d.told = false := by
  cases e <;> simp [told, h, Encoding.decoder?, Charset.decoder]

theorem sound_of_untold {d : Decoding} (h : d.told = false) : d.Sound :=
  fun htold => by cases h.symm.trans htold

theorem decode?_granted {d : Decoding} (h : d.told = false) (n : Nat) (bs : List UInt8) :
    d.decode? n bs = some (d.decode n bs) ∧ (d.decode n bs).2.told = false := by
  cases hd : d.decoder with
  | none =>
    rw [decode_of_none hd]
    exact ⟨by simp [decode?, hd], h⟩
  | some state =>
    have hspent : state.spent = false := by simpa [told, hd] using h
    rw [decode_of_some hd]
    refine ⟨by simp [decode?, hd, Charset.Decoder.feed?, hspent], ?_⟩
    simpa [told, Charset.Decoder.spent_feed] using hspent

theorem finish?_granted {d : Decoding} (h : d.told = false) (n : Nat) :
    d.finish? n = some (d.finish n) := by
  cases hd : d.decoder with
  | none => simp [finish?, hd, finish_of_none hd]
  | some state =>
    have hspent : state.spent = false := by simpa [told, hd] using h
    simp [finish?, hd, finish_of_some hd, Charset.Decoder.finish?, hspent]

theorem finished_finish (d : Decoding) (n : Nat) : (d.finish n).2.finished = true := by
  unfold finish
  split <;> rfl

section Source
variable {σ : Type} [ByteSource σ]

/-- A fetch that is not refused: it goes as it does where nothing is, and after it the decoder was told
the end only if that is noted, as an end that is answered always is. -/
structure Granted (r? : Option (Fetch Char × Decoding × Rewind × σ))
    (r : Fetch Char × Decoding × Rewind × σ) : Prop where
  eq : r? = some r
  sound : r.2.1.Sound
  noted : r.1 = .ended → r.2.1.finished = true

/-- So it is with a request for bytes. If it made no character, so that there is another one, it has not
told the decoder the end. -/
theorem advance?_granted (n : Nat) {s : Decoding × Rewind × σ} (h : s.1.told = false) :
    advance? n s = some (advance n s) ∧
      ((advance n s).1 = none → (advance n s).2.1.told = false) ∧ (advance n s).2.1.Sound ∧
      ((advance n s).1 = some .ended → (advance n s).2.1.finished = true) := by
  obtain ⟨d, s⟩ := s
  simp only [advance?, advance]
  rcases ByteSource.fetch (d.bytesFor n) s with ⟨bs | _ | _ | e, s'⟩
  · obtain ⟨hgranted, huntold⟩ := decode?_granted h n bs
    refine ⟨by simp [hgranted], fun _ => huntold, sound_of_untold huntold, fun hended => ?_⟩
    dsimp only at hended
    split at hended <;> cases hended
  · exact ⟨rfl, by simp, sound_of_untold h, by simp⟩
  · have hfinished := d.finished_finish n
    exact ⟨by simp [finish?_granted h n], by simp, fun _ => hfinished, fun _ => hfinished⟩
  · exact ⟨rfl, by simp, sound_of_untold h, by simp⟩

theorem fetchText?_granted (n : Nat) {s : Decoding × Rewind × σ} (h : s.1.told = false) :
    Granted (fetchText? n s) (fetchText n s) := by
  have hnext : ∀ s : Decoding × Rewind × σ, s.1.told = false → (advance n s).1 = none →
      (advance n s).2.1.told = false := fun s hs hnone => (advance?_granted n hs).2.1 hnone
  have hgranted := persist?_granted Option.isNone (fun s => ByteSource.budget s.2)
    (fun s hs => (advance?_granted n hs).1)
    (fun s hs hnone => hnext s hs (Option.isNone_iff_eq_none.1 hnone)) h
  obtain ⟨s', hs', hlast⟩ := fetchText_eq_advance hnext h
  obtain ⟨-, -, hsound, hnoted⟩ := advance?_granted n hs'
  refine ⟨by simp [fetchText?, fetchText, hgranted], ?_, fun hended => ?_⟩
  · simpa only [hlast] using hsound
  · rw [hlast] at hended ⊢
    dsimp only at hended ⊢
    cases ha : (advance n s').1 with
    | none =>
      rw [ha] at hended
      cases hended
    | some f =>
      rw [ha] at hended
      exact hnoted (ha.trans (congrArg some hended))

theorem fetchBytes_granted (n : Nat) {s : Decoding × Rewind × σ} (h : s.1.told = false) :
    Granted (some (fetchBytes n s)) (fetchBytes n s) := by
  obtain ⟨d, s⟩ := s
  simp only [fetchBytes]
  rcases ByteSource.fetch (min n maxChunk) s with ⟨bs | _ | _ | e, s'⟩
  · exact ⟨rfl, sound_of_untold h, by simp⟩
  · exact ⟨rfl, sound_of_untold h, by simp⟩
  · exact ⟨rfl, fun _ => rfl, fun _ => rfl⟩
  · exact ⟨rfl, sound_of_untold h, by simp⟩

theorem fetchPlain?_granted (n : Nat) {s : Decoding × Rewind × σ} (h : s.1.told = false) :
    Granted (fetchPlain? n s) (fetchPlain n s) := by
  unfold fetchPlain? fetchPlain
  cases s.1.encoding with
  | charset => exact fetchText?_granted n h
  | binary | latin1 => exact fetchBytes_granted n h

theorem fetch?_granted (n : Nat) {s : Decoding × Rewind × σ} (h : s.1.Sound) :
    Granted (fetch? n s) (fetch n s) := by
  obtain ⟨d, s⟩ := s
  simp only [fetch?, fetch]
  split
  · exact ⟨rfl, h, by simp⟩
  split
  · exact ⟨rfl, h, by simp⟩
  split
  · exact ⟨rfl, h, fun _ => ‹d.finished = true›⟩
  have huntold : d.told = false := Bool.eq_false_iff.2 fun htold => ‹¬ d.finished = true› (h htold)
  split
  · obtain ⟨hkeeps, hnoend⟩ := skipMark_keeps (d, s)
    have hskip : (skipMark (d, s)).2.1.told = false := by
      rcases hkeeps with hk | hk <;> rw [hk] <;> exact huntold
    rcases hq : skipMark (d, s) with ⟨_ | f, s'⟩
    all_goals rw [hq] at hskip hnoend
    · exact fetchPlain?_granted n hskip
    · exact ⟨rfl, sound_of_untold hskip, fun hended => absurd (congrArg some hended) hnoend⟩
  · exact fetchPlain?_granted n huntold

/-- Whatever the call. -/
theorem Call.perform?_granted (c : Call) {s : Decoding × Rewind × σ} (h : s.1.Sound) :
    c.perform? s = some (c.perform s) ∧ (c.perform s).2.1.Sound := by
  obtain ⟨d, s⟩ := s
  cases c with
  | read n =>
    have hgranted := fetch?_granted n h
    exact ⟨by simp [Call.perform?, Call.perform, hgranted.eq], hgranted.sound⟩
  | setEncoding e => exact ⟨rfl, sound_of_untold (told_decoder _ rfl)⟩
  | cancelEnd =>
    refine ⟨rfl, ?_⟩
    simp only [Call.perform, Decoding.cancelEnd]
    split
    · exact sound_of_untold (told_decoder _ rfl)
    · exact h
  | seekReset => exact ⟨rfl, sound_of_untold (told_decoder _ rfl)⟩
  | rearm | disarm | takeSurplus => exact ⟨rfl, h⟩

/-- No call of any run is refused. -/
theorem askAll?_perform (e : Encoding) (s : Rewind × σ) (calls : List Call) :
    askAll? Call.perform? calls (init e, s) = some (askAll Call.perform calls (init e, s)) ∧
      (askAll Call.perform calls (init e, s)).2.1.Sound :=
  askAll?_granted (P := fun s : Decoding × Rewind × σ => s.1.Sound)
    (fun c _ h => c.perform?_granted h) calls
    (sound_of_untold (told_decoder _ rfl))

/-- What waits is handed out before anything else is looked at. -/
theorem fetch_of_surplus {d : Decoding} (h : d.surplus ≠ []) {n : Nat} (hn : 0 < n) (s : Rewind × σ) :
    fetch n (d, s) = (.got (d.surplus.take n), { d with surplus := d.surplus.drop n }, s) := by
  simp [fetch, Nat.ne_of_gt hn, h]

/-- After its end the stream is no longer asked, by no call but one that takes the end back: what the
calls bring is off the front of the surplus. -/
theorem Call.perform_finished {c : Call} (hc : c ≠ .cancelEnd ∧ c ≠ .seekReset) {d : Decoding}
    (h : d.finished = true) (s : Rewind × σ) :
    (c.perform (d, s)).2.1.finished = true ∧ (c.perform (d, s)).2.2 = s ∧
      d.surplus = (c.perform (d, s)).1.flatMap Fetch.units ++ (c.perform (d, s)).2.1.surplus := by
  cases c with
  | read n =>
    simp only [Call.perform, fetch]
    split
    · exact ⟨h, rfl, rfl⟩
    split
    · exact ⟨h, rfl, by simp [Fetch.units]⟩
    · exact ⟨h, rfl, rfl⟩
  | setEncoding | rearm | disarm => exact ⟨h, rfl, rfl⟩
  | takeSurplus => exact ⟨h, rfl, by simp [Call.perform, Decoding.takeSurplus, Fetch.units]⟩
  | cancelEnd => exact absurd rfl hc.1
  | seekReset => exact absurd rfl hc.2

/-- By induction over the calls. -/
theorem askAll_finished {calls : List Call} (hcalls : .cancelEnd ∉ calls ∧ .seekReset ∉ calls)
    {d : Decoding} (h : d.finished = true) (s : Rewind × σ) :
    let q := askAll Call.perform calls (d, s)
    q.2.1.finished = true ∧ q.2.2 = s ∧ d.surplus = q.1.flatMap Fetch.units ++ q.2.1.surplus := by
  induction calls generalizing d with
  | nil => exact ⟨h, rfl, rfl⟩
  | cons c calls ih =>
    simp only [List.mem_cons, not_or] at hcalls
    obtain ⟨hfinished, hsame, hbrings⟩ :=
      Call.perform_finished ⟨Ne.symm hcalls.1.1, Ne.symm hcalls.2.1⟩ h s
    rcases hq : c.perform (d, s) with ⟨us, d', s'⟩
    rw [hq] at hfinished hsame hbrings
    obtain rfl : s' = s := hsame
    obtain ⟨hlast, hbelow, hrest⟩ := ih ⟨hcalls.1.2, hcalls.2.2⟩ hfinished
    simp only [askAll, hq, List.flatMap_append, List.append_assoc, ← hrest]
    exact ⟨hlast, hbelow, hbrings⟩

end Source

end Input.Decoding

end ScriptChannel
