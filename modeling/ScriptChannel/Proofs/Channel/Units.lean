import ScriptChannel.Proofs.Channel.Cursor
import ScriptChannel.Proofs.Channel.Ledger

/-!
# A channel read by units

Asked for units, a binary channel goes around the decoding and the line endings, and any other
through them. Either way it answers as a cursor does that goes through what is to come, whether its
reader waits or not, as long as there is nothing to wait for.
-/

namespace ScriptChannel

/-- What is taken unit by unit is taken from the changed units as well. -/
theorem Halt.Takes.map {α β : Type} {us : List α} {halt : Halt} {xs ys : Coming α}
    (h : halt.Takes Coming.Off us xs ys) (f : α → β) :
    halt.Takes Coming.Past (us.map f) (Coming.map f xs) (Coming.map f ys) := by
  have hoff : ∀ {zs}, Coming.Off us xs zs →
      Coming.Past (us.map f) (Coming.map f xs) (Coming.map f zs) := by
    rintro zs rfl
    exact Coming.Off.past (Coming.map_ofUnits_append f us zs)
  cases halt <;> exact hoff h

/-- Bytes of narrow characters are those characters. -/
theorem Data.map_octets {dst : Data} (h : ∀ c ∈ dst.chars, Encoding.Narrow c) :
    dst.octets.map Encoding.charOfByte = dst.chars := by
  cases dst with
  | text cs => exact Encoding.map_charOfByte_lowByte h
  | bytes bs => rfl

namespace Input.Chain
variable {δ : Type} [RawReader δ] [RawStream δ]

/-- With nothing left above, bytes are taken from what is to come below. -/
theorem readBytes_run {c : Chain} (h : c.lines.pending = []) (n : Nat) (d : δ) :
    let r := c.readBytes n d
    r.1.2.Takes Coming.Off r.1.1 (ByteStream.coming (c.lower d))
        (ByteStream.coming (r.2.1.lower r.2.2)) ∧
      Fulfils n r.1 ∧ r.2.1.lines.pending = [] := by
  obtain ⟨⟨htakes, -⟩, -⟩ := ByteSource.collect_takes (show 0 < piece by decide) n (c.lower d)
  refine ⟨?_, c.readBytes_fulfils n d, ?_⟩
  · simp only [readBytes, Lines.takePending, h, List.take_nil, List.map_nil, List.length_nil,
      Nat.sub_zero, List.nil_append]
    exact htakes
  · simp only [readBytes, Lines.takePending, h, List.drop_nil]
    rfl

end Input.Chain

namespace Channel
variable {δ : Type} [Transport δ] [InputDevice δ]

/-- What is to come for a reader of units. -/
def flow (ch : Channel δ) : Coming Char :=
  if ch.settings.encoding.isBinary then
    if ch.ended then []
    else Coming.map Encoding.charOfByte (ByteStream.coming (ch.chain.lower ch.device))
  else ch.coming

theorem flow_of_ended {ch : Channel δ} (he : ch.ended = true) : ch.flow = [] := by
  unfold flow coming
  rw [if_pos he, if_pos he]
  split <;> rfl

/-- A channel with this text and nothing else to come for a reader of units. -/
structure Offers (text : List Char) (ch : Channel δ) : Prop where
  readable : ch.Readable
  clear : ch.settings.encoding.isBinary = true → ch.chain.lines.pending = []
  flow : ch.flow = Coming.ofUnits text

/-- The units that a read brings come off the flow. -/
structure Draws (n : Nat) (dst : Data) (us : List Char) (halt : Halt) (ch : Channel δ)
    (r : Reading × Channel δ) : Prop where
  run : Input.Lines.Run us halt ch.flow r.2.flow
  fulfils : Fulfils n (us, halt)
  status : r.1.status = statusOf us.length halt
  brings : r.1.data.chars.drop dst.chars.length = us
  appends : (ch.settings.encoding.isBinary = true → ∀ c ∈ dst.chars, Encoding.Narrow c) →
    r.1.data.chars = dst.chars ++ us
  clear : ch.settings.encoding.isBinary = true → r.2.chain.lines.pending = []

section Single
variable {ch : Channel δ} (h : ch.Readable) (he : ch.ended = false) {kind : ReadKind} {n : Nat}
  (hk : wanted kind = some n) (dst : Data)
include h he hk

theorem read_text_draws (hb : ch.settings.encoding.isBinary = false) :
    ∃ us halt, Draws n dst us halt ch (read kind dst ch) := by
  obtain ⟨us, halt, hrun, hful, hread, hafter⟩ := read_units h he hb hk dst
  refine ⟨us, halt, ?_, hful, by rw [hread], ?_, fun _ => by rw [hread]; rfl, by simp [hb]⟩
  · simp only [flow, hafter.settings, hb, Bool.false_eq_true, if_false]
    exact hrun
  · simp [hread, Data.appendText, Data.chars]

theorem read_bytes_draws (hb : ch.settings.encoding.isBinary = true)
    (hclear : ch.chain.lines.pending = []) :
    ∃ us halt, Draws n dst us halt ch (read kind dst ch) := by
  obtain ⟨j, hj⟩ := read_bytes_eq h he hb hk dst
  obtain ⟨-, hbuilt⟩ := buildInput_built h
  obtain ⟨htakes, hful, hclear'⟩ := ch.chain.readBytes_run hclear n ch.buildInput.2.device
  have hsame : ByteStream.coming (ch.chain.lower ch.buildInput.2.device) =
      ByteStream.coming (ch.chain.lower ch.device) :=
    congrArg ch.chain.arriving hbuilt.device
  rcases hq : ch.chain.readBytes n ch.buildInput.2.device with ⟨⟨us, halt⟩, c, d⟩
  rw [hq] at hj htakes hful hclear'
  rw [hsame] at htakes
  dsimp only at hj htakes hclear'
  have hchars : (dst.appendBytes us).chars =
      dst.octets.map Encoding.charOfByte ++ us.map Encoding.charOfByte := List.map_append
  rw [hj]
  refine ⟨us.map Encoding.charOfByte, halt, ?_, ?_, by rw [List.length_map], ?_, ?_,
    fun _ => hclear'⟩
  · have hflow : ch.flow =
        Coming.map Encoding.charOfByte (ByteStream.coming (ch.chain.lower ch.device)) := by
      simp [flow, hb, he]
    have hflow' : (ch.buildInput.2.renew c d (halt = .ended) j).flow =
        if halt = .ended then []
        else Coming.map Encoding.charOfByte (ByteStream.coming (c.lower d)) := by
      simp [flow, renew, hbuilt.settings, hb, chain]
    have hmapped := htakes.map Encoding.charOfByte
    rw [hflow, hflow']
    constructor
    · cases halt <;> exact hmapped
    · intro hend
      rw [if_pos hend]
  · exact ⟨fun hs => (List.length_map _).trans (hful.all_of_served hs),
      fun hs => (List.length_map _).symm ▸ hful.short hs⟩
  · rw [hchars]
    exact List.drop_left' (by rw [List.length_map, length_octets])
  · intro hnarrow
    rw [hchars, Data.map_octets (hnarrow hb)]

theorem read_draws (hclear : ch.settings.encoding.isBinary = true → ch.chain.lines.pending = []) :
    ∃ us halt, Draws n dst us halt ch (read kind dst ch) := by
  cases hb : ch.settings.encoding.isBinary with
  | false => exact read_text_draws h he hk dst hb
  | true => exact read_bytes_draws h he hk dst hb (hclear hb)

end Single

/-- One request goes on in the text as a cursor does. -/
structure Advances (n : Nat) (dst : Data) (text us rest : List Char) (ch : Channel δ)
    (r : Reading × Channel δ) : Prop where
  split : text = us ++ rest
  fits : us.length = n ∨ us.length < n ∧ rest = []
  offers : r.2.Offers rest
  status : 0 < n → r.1.status = .ok (if us = [] then .ended else .data us.length)
  atEnd : r.1.status = .ok .ended → text = []
  brings : r.1.data.chars.drop dst.chars.length = us
  appends : (ch.settings.encoding.isBinary = true → ∀ c ∈ dst.chars, Encoding.Narrow c) →
    r.1.data.chars = dst.chars ++ us

/-- Once the end was seen nothing is left, and nothing happens. -/
theorem Offers.advances_of_ended {text : List Char} {ch : Channel δ} (h : ch.Offers text)
    (he : ch.ended = true) (kind : ReadKind) (n : Nat) (dst : Data) :
    Advances n dst text [] [] ch (read kind dst ch) := by
  obtain rfl : text = [] := Coming.ofUnits_eq_nil.1 (h.flow.symm.trans (flow_of_ended he))
  rw [read_ended h.readable he]
  refine ⟨rfl, ?_, h, fun _ => rfl, fun _ => rfl, by simp, by simp⟩
  rcases Nat.eq_zero_or_pos n with rfl | hn
  · exact .inl rfl
  · exact .inr ⟨hn, rfl⟩

/-- Units off a flow that is a text and nothing else come off the text. -/
theorem Draws.advances {n : Nat} {dst : Data} {us text : List Char} {halt : Halt} {ch : Channel δ}
    {r : Reading × Channel δ} (h : Draws n dst us halt ch r)
    (hflow : ch.flow = Coming.ofUnits text) (hready : r.2.Readable)
    (hsettings : r.2.settings = ch.settings) : ∃ rest, Advances n dst text us rest ch r := by
  obtain ⟨htakes, hend⟩ := h.run
  have hstatus := h.status
  have hclear := fun hb => h.clear (hsettings ▸ hb)
  rw [hflow] at htakes
  cases halt with
  | served =>
    obtain ⟨rest, hsplit, hrest⟩ := Coming.Past.of_ofUnits htakes
    have hlen : us.length = n := h.fulfils.all_of_served rfl
    refine ⟨rest, hsplit, .inl hlen, ⟨hready, hclear, hrest⟩, fun hn => ?_, fun hover => ?_,
      h.brings, h.appends⟩
    · have hus : us ≠ [] := by
        rintro rfl
        exact absurd hlen.symm (Nat.ne_of_gt hn)
      rw [hstatus, if_neg hus]
      rfl
    · rw [hstatus] at hover
      simp [statusOf] at hover
  | ended =>
    obtain ⟨rest, hsplit, hnil⟩ := Coming.Past.of_ofUnits htakes
    obtain rfl := Coming.ofUnits_eq_nil.1 hnil.symm
    have hlen : us.length < n := h.fulfils.short (by simp)
    refine ⟨[], hsplit, .inr ⟨hlen, rfl⟩, ⟨hready, hclear, hend rfl⟩, fun _ => ?_, fun hover => ?_,
      h.brings, h.appends⟩
    · rw [hstatus, statusOf]
      simp only [List.length_eq_zero_iff]
    · rw [hstatus, statusOf] at hover
      rw [hsplit, List.append_nil]
      simpa using hover
  | wouldBlock | failed =>
    -- nothing but characters is to come
    obtain ⟨vs, -, hvs⟩ := Coming.Past.of_ofUnits htakes
    cases vs <;> simp at hvs

theorem Offers.read {text : List Char} {ch : Channel δ} (h : ch.Offers text) {kind : ReadKind}
    {n : Nat} (hk : wanted kind = some n) (dst : Data) :
    ∃ us rest, Advances n dst text us rest ch (read kind dst ch) := by
  by_cases he : ch.ended = true
  · exact ⟨[], [], h.advances_of_ended he kind n dst⟩
  · obtain ⟨us, halt, hdraws⟩ := read_draws h.readable (Bool.eq_false_iff.2 he) hk dst h.clear
    obtain ⟨hready, hsettings⟩ := read_keeps h.readable kind dst
    exact ⟨us, hdraws.advances h.flow hready hsettings⟩

/-- A request that is not for a line is for a number of units. -/
theorem exists_wanted {kind : ReadKind} (h : kind ≠ .line) :
    ∃ n, wanted kind = some n ∧ Portion.ofKind kind = Portion.next n ∧
      (kind ≠ .units 0 → 0 < n) := by
  cases kind with
  | line => exact absurd rfl h
  | all => exact ⟨ReadKind.everything, rfl, rfl, fun _ => by decide⟩
  | units n => exact ⟨n, rfl, rfl, fun hn => Nat.pos_of_ne_zero fun h0 => hn (by rw [h0])⟩

section Serve
variable {text : List Char} {ch : Channel δ} {requests : List (ReadKind × Data)}

/-- What a run for units delivers comes off the text, and is all of it once the end is met. -/
theorem Offers.delivered (h : ch.Offers text) (hr : ∀ r ∈ requests, r.1 ≠ .line) :
    ∃ rest, text = ch.delivered requests ++ rest ∧ (ch.Exhausts requests → rest = []) := by
  induction requests generalizing text ch with
  | nil =>
    refine ⟨text, rfl, ?_⟩
    rintro ⟨r, hmem, -⟩
    simp [Channel.serve] at hmem
  | cons request requests ih =>
    obtain ⟨kind, dst⟩ := request
    obtain ⟨hkind, hothers⟩ := List.forall_mem_cons.1 hr
    obtain ⟨n, hk, -, -⟩ := exists_wanted hkind
    obtain ⟨us, left, hread⟩ := h.read hk dst
    obtain ⟨rest, hleft, hover⟩ := ih hread.offers hothers
    have hbrought : ch.brought kind dst = us := by
      rw [brought, dropped_of_wanted hk, List.append_nil, hread.brings]
    refine ⟨rest, ?_, ?_⟩
    · rw [Channel.delivered, hbrought, List.append_assoc, ← hleft]
      exact hread.split
    · rintro ⟨r, hmem, hstatus⟩
      rcases List.mem_cons.1 hmem with rfl | hmem
      · have hnil := hread.atEnd hstatus
        rw [hread.split, hleft] at hnil
        exact (List.append_eq_nil_iff.1 (List.append_eq_nil_iff.1 hnil).2).2
      · exact hover ⟨r, hmem, hstatus⟩

/-- Each request for something brings something, until nothing is left. -/
theorem Offers.exhausts (h : ch.Offers text) (hr : ∀ r ∈ requests, r.1 ≠ .line)
    (hsome : ∀ r ∈ requests, r.1 ≠ .units 0) (hlen : text.length < requests.length) :
    ch.Exhausts requests := by
  induction requests generalizing text ch with
  | nil => simp at hlen
  | cons request requests ih =>
    obtain ⟨kind, dst⟩ := request
    obtain ⟨hkind, hothers⟩ := List.forall_mem_cons.1 hr
    obtain ⟨hunits, hrest⟩ := List.forall_mem_cons.1 hsome
    obtain ⟨n, hk, -, hn⟩ := exists_wanted hkind
    obtain ⟨us, left, hread⟩ := h.read hk dst
    by_cases hus : us = []
    · have hstatus := hread.status (hn hunits)
      rw [if_pos hus] at hstatus
      exact ⟨_, List.mem_cons_self .., hstatus⟩
    · have hpos := List.length_pos_iff.2 hus
      have hshorter : left.length < requests.length := by
        rw [hread.split, List.length_append, List.length_cons] at hlen
        omega
      obtain ⟨r, hmem, hstatus⟩ := ih hread.offers hothers hrest hshorter
      exact ⟨r, List.mem_cons_of_mem _ hmem, hstatus⟩

/-- A run for units is served from the text as a cursor serves it. -/
theorem Offers.serve (h : ch.Offers text) (hr : ∀ r ∈ requests, r.1 ≠ .line)
    (hsome : ∀ r ∈ requests, r.1 ≠ .units 0)
    (hdst : ch.settings.encoding.isBinary = true →
      ∀ r ∈ requests, ∀ c ∈ r.2.chars, Encoding.Narrow c) :
    (ch.serve requests).1.map Reading.seen = (Portion.serve requests text).1 := by
  induction requests generalizing text ch with
  | nil => rfl
  | cons request requests ih =>
    obtain ⟨kind, dst⟩ := request
    obtain ⟨hkind, hothers⟩ := List.forall_mem_cons.1 hr
    obtain ⟨hunits, hrest⟩ := List.forall_mem_cons.1 hsome
    obtain ⟨n, hk, hportion, hn⟩ := exists_wanted hkind
    obtain ⟨us, left, hread⟩ := h.read hk dst
    obtain ⟨-, hsettings⟩ := read_keeps h.readable kind dst
    have hnext := Portion.next_append (hn hunits) hread.fits
    have hseen : (Channel.read kind dst ch).1.seen =
        (.ok (if us = [] then .ended else .data us.length), dst.chars ++ us) := by
      rw [Reading.seen, hread.status (hn hunits),
        hread.appends fun hb => hdst hb _ (List.mem_cons_self ..)]
    have hlast := ih hread.offers hothers hrest fun hb r hmem =>
      hdst (hsettings ▸ hb) r (List.mem_cons_of_mem _ hmem)
    simp only [Channel.serve, Portion.serve, List.map_cons, hseen, hportion, hread.split, hnext,
      hlast]

end Serve

/-- What a reader of units gets of a whole stream: on a binary channel no line endings. -/
def unitsOf (s : Settings) (bs : List UInt8) : List Char :=
  if s.encoding.isBinary then s.encoding.decode (s.encoding.skipMark (upToMarker s.inputMarker bs))
  else s.encoding.textOf s.inputMarker s.inputTranslation bs

/-- Bytes and nothing else come in up to the marker, whether one waits or not. -/
theorem arriving_newInput (s : Settings) (bs : List UInt8) :
    (newInput s).arriving (Coming.ofUnits bs) = Coming.ofUnits (upToMarker s.inputMarker bs) := by
  have harriving : (newInput s).arriving (Coming.ofUnits bs) =
      if s.blocking then ((Coming.ofUnits bs).eased.upTo s.inputMarker).patient
      else (Coming.ofUnits bs).eased.upTo s.inputMarker := rfl
  rw [harriving, Coming.eased_ofUnits, Coming.upTo_ofUnits, Coming.patient_ofUnits, ite_self]

/-- A channel just opened on a device that says nothing but bytes. -/
theorem opened_offers {d : δ} {m : OpenMode} {bs : List UInt8}
    (hd : RawStream.coming d = Coming.ofUnits bs) (hopen : (Transport.openInput d).1 = .ok ())
    (hm : m.isReadable = true) (s : Settings) : (opened d m s).Offers (unitsOf s bs) where
  readable := opened_readable hopen hm s
  clear _ := rfl
  flow := by
    have hlower : ByteStream.coming ((newInput s).lower d) =
        Coming.ofUnits (upToMarker s.inputMarker bs) := by
      rw [← arriving_newInput, ← hd]
      rfl
    have hspelled : (newInput s).spelled (RawStream.coming d) = Coming.ofUnits
        (s.encoding.decode (s.encoding.skipMark (upToMarker s.inputMarker bs))) := by
      rw [← Input.Decoding.reading_ofUnits, ← Input.Decoding.entering_ofUnits,
        ← arriving_newInput, ← hd]
      rfl
    change (if s.encoding.isBinary then
      Coming.map Encoding.charOfByte (ByteStream.coming ((newInput s).lower d))
      else (opened d m s).coming) = _
    unfold unitsOf
    by_cases hb : s.encoding.isBinary = true
    · have hbinary : s.encoding = .binary := by simpa [Encoding.isBinary] using hb
      have hmap := Coming.map_ofUnits_append Encoding.charOfByte (upToMarker s.inputMarker bs) []
      rw [List.append_nil] at hmap
      rw [if_pos hb, if_pos hb, hlower, hmap, hbinary]
      exact List.append_nil _
    · rw [if_neg hb, if_neg hb, opened_coming, hspelled, Endings.coming_ofUnits,
        Input.Lines.text_init]
      rfl

end Channel

end ScriptChannel
