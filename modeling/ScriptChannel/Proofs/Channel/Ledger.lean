import ScriptChannel.Proofs.Channel.Delivered
import ScriptChannel.Proofs.Input.Account
import ScriptChannel.Proofs.Input.Rendering
import ScriptChannel.Proofs.Unreading

/-!
# What a channel has handed out of its stream

A channel on a device that goes on hands out the text of its stream from the front, wherever it has to
wait, as long as all reads go through the line endings. At any time it is known which characters the
text handed out came from, and once the channel has ended they are all there are.
-/

namespace ScriptChannel

/-- A device with an account of its bytes, which opening it does not change. One that goes on says
all of them, with nothing but delays in between. -/
class StockedDevice (δ : Type) [Transport δ] extends InputDevice δ, RawStock δ where
  stock_openInput (d : δ) : stock (Transport.openInput d).2 = stock d
  lasting_openInput (d : δ) (h : Lasting d) : Lasting (Transport.openInput d).2
  units_of_lasting (d : δ) (h : Lasting d) : (coming d).units = stock d
  sound_of_lasting (d : δ) (h : Lasting d) (e : IoError) : .failure e ∉ (coming d).eased

/-- The second device has the account of the first. -/
structure SameAccount {δ : Type} [Transport δ] [StockedDevice δ] (d d' : δ) : Prop where
  stock : RawStock.stock d' = RawStock.stock d
  lasting : RawStock.Lasting d → RawStock.Lasting d'
  coming : RawStream.coming d' = RawStream.coming d

namespace Transport.Step
variable {α : Type}

theorem sound_of_continues {script : List (Step α)} (h : ∀ step ∈ script, step.Continues)
    (e : IoError) : .failure e ∉ (coming script).eased := by
  induction script with
  | nil => simp [coming]
  | cons step rest ih =>
    have hstep := h _ (List.mem_cons_self ..)
    have hrest := ih fun step hmem => h step (List.mem_cons_of_mem _ hmem)
    cases step with
    | units us =>
      cases us with
      | nil => exact absurd rfl hstep
      | cons u us =>
        rw [coming_cons_units, Coming.eased_append, Coming.eased_ofUnits]
        simpa [Coming.ofUnits] using hrest
    | theEnd => exact hstep.elim
    | delay =>
      rw [coming, Coming.eased_wouldBlock rfl]
      simpa using hrest
    | interruption =>
      rw [coming, Coming.eased_interrupted rfl]
      exact hrest
    | failure error =>
      rw [coming]
      rcases hstep with hw | hi
      · rw [Coming.eased_wouldBlock hw]
        simpa using hrest
      · rw [Coming.eased_interrupted hi]
        exact hrest

end Transport.Step

instance : StockedDevice Transport.Rehearsed where
  stock_openInput _ := rfl
  lasting_openInput _ h := h
  units_of_lasting d h :=
    (Transport.Step.units_coming d.reads).trans (Transport.Step.contents_eq_payload h)
  sound_of_lasting _ h := Transport.Step.sound_of_continues h

namespace Input

theorem ReadAhead.mem_of_mem_heard {α : Type} {b : ReadAhead} {xs : Coming α} {x : Signal α}
    (h : x ∈ b.heard xs) : x ∈ xs := by
  unfold heard at h
  split at h
  · exact List.mem_of_mem_filter h
  · exact h

@[simp] theorem ReadAhead.units_heard {α : Type} (b : ReadAhead) (xs : Coming α) :
    (b.heard xs).units = xs.units := by
  unfold heard
  split <;> simp

/-- A chain that has bytes in its first stage only has spent nothing of them. -/
theorem Chain.spent_nil {δ : Type} [Transport δ] [StockedDevice δ] {c : Chain} {d : δ}
    (hd : RawStock.Lasting d) (ha : c.rewind.ahead = []) (hc : c.readAhead.cache = [])
    (he : c.readAhead.ended = false) (hr : c.cutoff.reached = false) :
    Spent (c.cutoff.held ++ RawStock.stock d) c.cutoff.marker [] (c.lower d) := by
  have hcoming : ByteStream.coming (c.lower d) = c.readAhead.heard
      ((Coming.ofUnits c.cutoff.held ++ (RawStream.coming d).eased).upTo c.cutoff.marker) := by
    change c.arriving (RawStream.coming d) = _
    simp [arriving, ha, hc, he, hr]
  refine ⟨?_, hd, ?_, ?_⟩
  · simp [Stocked.stock, Rewind.stock, ReadAhead.stock, Cutoff.stock, lower, ha, hc]
  · rw [hcoming, ReadAhead.units_heard, Coming.units_upTo, Coming.units_append,
      Coming.units_ofUnits, Coming.units_eased, StockedDevice.units_of_lasting d hd]
    rfl
  · intro e hmem
    rw [hcoming] at hmem
    have hin := Coming.mem_of_mem_upTo (ReadAhead.mem_of_mem_heard hmem)
    rcases List.mem_append.1 hin with hin | hin
    · simp [Coming.ofUnits] at hin
    · exact StockedDevice.sound_of_lasting d hd e hin

/-- All text of bytes that are characters as they stand is narrow. -/
theorem Decoding.Course.narrow (k : Decoding.Course) (hb : k.encoding.isBinary = true) {x : Char}
    (hx : x ∈ k.text) : Encoding.Narrow x := by
  simp only [Decoding.Course.text, k.decoder_of_binary hb, List.mem_map] at hx
  obtain ⟨b, -, rfl⟩ := hx
  exact Encoding.narrow_charOfByte b

namespace Chain
variable {δ : Type} [Transport δ] [StockedDevice δ]

section Congr
variable {c : Chain} {d d' : δ} (hd : SameAccount d d')
include hd

theorem coming_lower_congr (c : Chain) :
    ByteStream.coming (c.lower d') = ByteStream.coming (c.lower d) := by
  change c.arriving (RawStream.coming d') = c.arriving (RawStream.coming d)
  rw [hd.coming]

/-- Of the device below only its account matters. -/
theorem spent_congr {stream used : List UInt8} {marker : UInt8}
    (h : Spent stream marker used (c.lower d)) : Spent stream marker used (c.lower d') := by
  have hstock : Stocked.stock (c.lower d') = Stocked.stock (c.lower d) := by
    simp [Stocked.stock, Rewind.stock, ReadAhead.stock, Cutoff.stock, lower, hd.stock]
  have hcoming := coming_lower_congr hd c
  refine ⟨?_, hd.lasting h.lasting, ?_, ?_⟩
  · rw [hstock]
    exact h.stock
  · rw [hcoming]
    exact h.coming
  · rw [hcoming]
    exact h.sound

theorem handed_congr {k : Decoding.Course} {us : List Char}
    (h : Decoding.Handed k us (c.decoding, c.lower d)) :
    Decoding.Handed k us (c.decoding, c.lower d') :=
  h.congr (fun _ hspent => spent_congr hd hspent) (coming_lower_congr hd c)

end Congr

/-- So much of the text has passed the input side. -/
def Tallied (k : Decoding.Course) (told : List Char) (c : Chain) (d : δ) : Prop :=
  Lines.Holds (Decoding.Handed k) Decoding.Over told (c.whole d)

/-- What has passed has been handed out, as the line endings made it. -/
def Told (k : Decoding.Course) (start : Endings) (handed cs : List Char) (c : Chain) (d : δ) : Prop :=
  Lines.Told (Decoding.Handed k) Decoding.Over start handed cs (c.whole d)

section Tallied
variable {k : Decoding.Course} {told : List Char} {c : Chain} {d d' : δ}

theorem Tallied.congr (h : c.Tallied k told d) (hd : SameAccount d d') : c.Tallied k told d' :=
  ⟨handed_congr hd h.below, h.finish⟩

/-- What has passed is the beginning of the text. -/
theorem Tallied.begins_text (h : c.Tallied k told d) : told <+: k.text :=
  (List.prefix_append _ _).trans h.below.begins_text

/-- At the end all of the text has passed. -/
theorem Tallied.eq_text (h : c.Tallied k told d) (he : c.lines.isEnded = true) : told = k.text := by
  obtain ⟨hend, hahead, hpartial⟩ := Lines.isEnded_iff.1 he
  have hbelow := h.below
  simp only [whole, Lines.pending, hahead, hpartial, List.append_nil] at hbelow
  exact hbelow.eq_text (h.finish hend)

end Tallied

section Told
variable {k : Decoding.Course} {start : Endings} {handed cs : List Char} {c : Chain} {d d' : δ}

theorem Told.tallied (h : c.Told k start handed cs d) : c.Tallied k cs d := Lines.Told.holds h

theorem Told.congr (h : c.Told k start handed cs d) (hd : SameAccount d d') :
    c.Told k start handed cs d' := by
  obtain ⟨⟨hbelow, hmode, hfront, hended, hover⟩, hhanded, hliteral⟩ := h
  exact ⟨⟨handed_congr hd hbelow, hmode, hfront, hended, hover⟩, hhanded, hliteral⟩

/-- At the end all of the text has been handed out. -/
theorem Told.eq_text (h : c.Told k start handed cs d) (he : c.lines.isEnded = true) :
    handed = start.text k.text := by
  rw [h.handed, h.tallied.eq_text he]

/-- Until then it is the beginning of the text. -/
theorem Told.begins_text (h : c.Told k start handed cs d) : handed <+: start.text k.text :=
  h.begins (fun hus => hus.begins_text) fun hus hover => hus.eq_text hover

theorem Told.readText (h : c.Told k start handed cs d) (n : Nat) :
    let r := c.readText n d
    ∃ cs', r.2.1.Told k start (handed ++ r.1.1) cs' r.2.2 ∧
      (r.1.2 = .ended → r.2.1.lines.isEnded = true) := by
  obtain ⟨cs', htold, -, hend⟩ :=
    Lines.collect_told (Decoding.tells k) (show 0 < piece by decide) n h
  exact ⟨cs', htold, hend⟩

theorem Told.readLine (h : c.Told k start handed cs d) (blocking : Bool) :
    let r := c.readLine blocking d
    ∃ cs', r.2.1.Told k start (handed ++ Lines.lineText r.1 ++ (c.lineStop blocking d).closing) cs'
        r.2.2 ∧ (∀ error, r.1 ≠ .failed error) ∧ (r.1 = .ended → r.2.1.lines.isEnded = true) :=
  Lines.readLine_told (Decoding.tells k) blocking h

/-- What was handed out of bytes that are characters as they stand is narrow. -/
theorem Told.narrow (h : c.Told k start handed cs d)
    (hb : k.encoding.isBinary = true) : ∀ x ∈ handed, Encoding.Narrow x := by
  intro x hx
  have hin : x ∈ start.text k.text := h.begins_text.mem hx
  rcases Endings.mem_text hin with hin | rfl | rfl
  · exact k.narrow hb hin
  · decide
  · decide

end Told

end Chain

end Input

namespace Channel
variable {δ : Type} [Transport δ] [StockedDevice δ]

/-- The channel has handed out what these characters come to, and if it has ended, that is all of
the text. -/
structure Ledger (k : Input.Decoding.Course) (start : Endings) (handed cs : List Char)
    (ch : Channel δ) : Prop where
  readable : ch.Readable
  encoding : ch.settings.encoding = k.encoding
  told : ch.chain.Told k start handed cs ch.device
  ended : ch.ended = true → handed = start.text k.text

section Ledger
variable {k : Input.Decoding.Course} {start : Endings} {handed cs : List Char} {ch : Channel δ}

/-- It makes no difference that the input side is built first. -/
theorem buildInput_account (ch : Channel δ) : SameAccount ch.device ch.buildInput.2.device := by
  have hsame : ch.buildInput.2.device = ch.device ∨
      ch.buildInput.2.device = (Transport.openInput ch.device).2 := by
    unfold buildInput
    cases ch.input with
    | some c => exact .inl rfl
    | none =>
      right
      rcases Transport.openInput ch.device with ⟨e | _, d⟩ <;> rfl
  rcases hsame with hd | hd
  · rw [hd]
    exact ⟨rfl, id, rfl⟩
  · rw [hd]
    exact ⟨StockedDevice.stock_openInput _, StockedDevice.lasting_openInput _,
      InputDevice.coming_openInput _⟩

/-- What a read leaves of a channel that is read further. -/
structure Leaves (k : Input.Decoding.Course) (start : Endings) (handed : List Char)
    (r : Reading × Channel δ) : Prop where
  ledger : ∃ cs, Ledger k start handed cs r.2
  ended : r.1.status = .ok .ended → r.2.ended = true

theorem Ledger.read_text (h : Ledger k start handed cs ch) (he : ch.ended = false)
    (hb : k.encoding.isBinary = false) {kind : ReadKind} {n : Nat} (hk : wanted kind = some n)
    (dst : Data) : Leaves k start (handed ++ ch.brought kind dst) (read kind dst ch) := by
  obtain ⟨j, hj⟩ := read_text_eq h.readable he (by rw [h.encoding, hb]) hk dst
  obtain ⟨hready, hsettings⟩ := read_keeps h.readable kind dst
  obtain ⟨cs', htold, hend⟩ := (h.told.congr (buildInput_account ch)).readText n
  rcases hq : ch.chain.readText n ch.buildInput.2.device with ⟨⟨us, halt⟩, c, d⟩
  rw [hq] at hj htold hend
  have hbrought : ch.brought kind dst = us := by
    simp [brought, dropped_of_wanted hk, hj, Data.appendText, Data.chars]
  rw [hj] at hready hsettings
  rw [hbrought, hj]
  refine ⟨⟨cs', hready, hsettings ▸ h.encoding, htold, ?_⟩, ?_⟩
  · intro hended
    apply htold.eq_text
    apply hend
    simpa [renew] using hended
  · intro hstatus
    have hhalt : halt = .ended := statusOf_eq_ended hstatus
    simp [renew, hhalt]

theorem length_octets (dst : Data) : dst.octets.length = dst.chars.length := by
  cases dst <;> simp [Data.octets, Data.chars]

/-- What a line adds to its destination are its characters, if they fit. -/
theorem drop_lineReading {e : Encoding} {l : Input.LineRead}
    (h : e.isBinary = true → ∀ c ∈ Input.Lines.lineText l, Encoding.Narrow c) (dst : Data) :
    (lineReading e dst l).data.chars.drop dst.chars.length = Input.Lines.lineText l := by
  cases l with
  | line cs =>
    by_cases hb : e.isBinary = true
    · simp only [lineReading, hb, if_true, Data.appendBytes, Data.chars, List.map_append]
      rw [List.drop_left' (by rw [List.length_map, length_octets]; rfl)]
      exact Encoding.map_charOfByte_lowByte (h hb)
    · simp [lineReading, hb, Data.appendText, Data.chars, Input.Lines.lineText]
  | blocked => simp [lineReading, Input.Lines.lineText]
  | ended => simp [lineReading, Input.Lines.lineText]
  | failed error => simp [lineReading, Input.Lines.lineText]

omit [StockedDevice δ] in
theorem dropped_line {ch : Channel δ} (he : ch.ended = false) :
    ch.dropped .line = ch.lineStop.closing := by
  simp only [dropped, he]
  cases ch.lineStop <;> rfl

theorem Ledger.read_line (h : Ledger k start handed cs ch) (he : ch.ended = false) (dst : Data) :
    Leaves k start (handed ++ ch.brought .line dst) (read .line dst ch) := by
  obtain ⟨ended, j, hj, hnote, hover⟩ := read_line_eq h.readable he dst
  obtain ⟨hready, hsettings⟩ := read_keeps h.readable .line dst
  obtain ⟨cs', htold, -, hend⟩ := (h.told.congr (buildInput_account ch)).readLine ch.settings.blocking
  have hstop : ch.lineStop = ch.chain.lineStop ch.settings.blocking ch.buildInput.2.device := rfl
  rw [← hstop] at htold
  rcases hq : ch.chain.readLine ch.settings.blocking ch.buildInput.2.device with ⟨l, c, d⟩
  rw [hq] at hj htold hend hnote hover
  dsimp only at htold hend hnote hover
  have hbrought : ch.brought .line dst = Input.Lines.lineText l ++ ch.lineStop.closing := by
    rw [brought, dropped_line he, hj]
    congr 1
    apply drop_lineReading
    intro hb x hx
    rw [h.encoding] at hb
    apply htold.narrow hb
    simp [hx]
  rw [hj] at hready hsettings
  rw [hbrought, hj, ← List.append_assoc]
  refine ⟨⟨cs', hready, hsettings ▸ h.encoding, htold, ?_⟩, ?_⟩
  · intro hended
    apply htold.eq_text
    exact (hnote hended).elim hend id
  · intro hstatus
    exact hover (lineReading_eq_ended hstatus)

omit [StockedDevice δ] in
/-- An end is for good. -/
theorem serve_ended [InputDevice δ] {ch : Channel δ} (h : ch.Readable) (he : ch.ended = true)
    (requests : List (ReadKind × Data)) : (ch.serve requests).2.ended = true := by
  induction requests with
  | nil => exact he
  | cons request requests ih =>
    simp only [Channel.serve, read_ended h he]
    exact ih

theorem Ledger.read (h : Ledger k start handed cs ch) {kind : ReadKind}
    (hk : k.encoding.isBinary = true → kind = .line) (dst : Data) :
    Leaves k start (handed ++ ch.brought kind dst) (read kind dst ch) := by
  by_cases he : ch.ended = true
  · have hnone : ch.brought kind dst = [] := by
      rw [brought, read_ended h.readable he]
      cases kind <;> simp [dropped, he]
    rw [hnone, List.append_nil, read_ended h.readable he]
    exact ⟨⟨cs, h⟩, fun _ => he⟩
  · have he : ch.ended = false := Bool.eq_false_iff.2 he
    cases kind with
    | line => exact h.read_line he dst
    | all =>
      have hb : k.encoding.isBinary = false := Bool.eq_false_iff.2 fun hb => by simpa using hk hb
      exact h.read_text he hb rfl dst
    | units n =>
      have hb : k.encoding.isBinary = false := Bool.eq_false_iff.2 fun hb => by simpa using hk hb
      exact h.read_text he hb rfl dst

/-- A run hands out what it delivers, and all of the text once it has met the end. -/
theorem Ledger.serve (h : Ledger k start handed cs ch) (requests : List (ReadKind × Data))
    (hf : k.encoding.isBinary = true → ∀ r ∈ requests, r.1 = .line) :
    (∃ cs', Ledger k start (handed ++ ch.delivered requests) cs' (ch.serve requests).2) ∧
      (ch.Exhausts requests → (ch.serve requests).2.ended = true) := by
  induction requests generalizing handed cs ch with
  | nil =>
    refine ⟨⟨cs, by simpa [delivered, Channel.serve] using h⟩, ?_⟩
    rintro ⟨r, hmem, -⟩
    simp [Channel.serve] at hmem
  | cons request requests ih =>
    obtain ⟨kind, dst⟩ := request
    obtain ⟨⟨cs', hnext⟩, hend⟩ := h.read (fun hb => hf hb _ (List.mem_cons_self ..)) dst
    obtain ⟨hrest, hexh⟩ := ih hnext fun hb r hmem => hf hb r (List.mem_cons_of_mem _ hmem)
    rw [List.append_assoc] at hrest
    refine ⟨hrest, ?_⟩
    rintro ⟨r, hmem, hstatus⟩
    rcases List.mem_cons.1 hmem with rfl | hmem
    · exact serve_ended hnext.readable (hend hstatus) requests
    · exact hexh ⟨r, hmem, hstatus⟩

end Ledger

end Channel

end ScriptChannel
