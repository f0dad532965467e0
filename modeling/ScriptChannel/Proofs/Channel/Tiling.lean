import ScriptChannel.Channel.Configure
import ScriptChannel.Proofs.Channel.Units
import ScriptChannel.Proofs.Input.Frugal
import ScriptChannel.Proofs.Tile

/-!
# Reads go through the stream tile by tile

Where no line ending takes more than one character, nothing is kept back from one read to the next: the
bytes that a read goes through are those of the characters it takes, and the next read begins with the
byte behind them, whatever the encoding is then. So text can be followed by binary data, and reads of
different encodings by each other, with no byte read twice and none passed over.
-/

namespace ScriptChannel

namespace ReadKind
variable {kind : ReadKind} {n : Nat}

theorem reach_of_wanted (h : Channel.wanted kind = some n) (t : Translation) (cs : List Char) :
    kind.reach t cs = cs.take n := by
  cases kind with
  | line => cases h
  | all | units =>
    obtain rfl := Option.some.inj h
    rfl

theorem within_iff_of_wanted (h : Channel.wanted kind = some n) (t : Translation) (cs : List Char) :
    kind.Within t cs ↔ n ≤ cs.length := by
  cases kind with
  | line => cases h
  | all | units =>
    obtain rfl := Option.some.inj h
    rfl

/-- Only a request for no units is for nothing. -/
theorem wanted_eq_zero_iff (h : Channel.wanted kind = some n) : n = 0 ↔ kind = .units 0 := by
  cases kind with
  | line => cases h
  | all =>
    obtain rfl := Option.some.inj h
    simp [everything]
  | units k =>
    obtain rfl := Option.some.inj h
    simp

end ReadKind

namespace Input.Chain
open Decoding Lines
variable {δ : Type} [RawReader δ] [RawStream δ]

/-- The input side has these bytes in front of it, so far into the stream. Nothing that was read is kept
back. -/
structure Level (e : Encoding) (t : Translation) (offset : Nat) (bs : List UInt8) (c : Chain) (d : δ) :
    Prop where
  bare : c.lines.Bare
  translation : c.lines.translation = t
  encoding : c.decoding.encoding = e
  decoder : c.decoding.decoder = e.decoder?
  waiting : c.decoding.Waiting
  start : c.decoding.atStart = true ↔ offset = 0
  below : ByteStream.coming (c.lower d) = Coming.ofUnits bs

theorem Level.setEncoding {e : Encoding} {t : Translation} {offset : Nat} {bs : List UInt8} {c : Chain}
    {d : δ} (h : c.Level e t offset bs d) (e' : Encoding) :
    Level e' t offset bs { c with decoding := c.decoding.setEncoding e' } d :=
  ⟨h.bare, h.translation, rfl, rfl, h.waiting, h.start, h.below⟩

/-- Of the device it only matters what it will say. -/
theorem Level.congr {e : Encoding} {t : Translation} {offset : Nat} {bs : List UInt8} {c : Chain}
    {d d' : δ} (h : c.Level e t offset bs d) (hd : RawStream.coming d' = RawStream.coming d) :
    c.Level e t offset bs d' :=
  { h with below := (congrArg c.arriving hd).trans h.below }

/-- Bytes that go around the decoding leave it as it was, but that no mark can follow if there are
any. -/
theorem Level.around {e : Encoding} {t : Translation} {offset : Nat} {bs us rest : List UInt8}
    {c c' : Chain} {d d' : δ} (h : c.Level e t offset bs d) (hlines : c'.lines = c.lines)
    (hdecoding : c'.decoding = if us = [] then c.decoding else c.decoding.disarm)
    (hbelow : ByteStream.coming (c'.lower d') = Coming.ofUnits rest) :
    c'.Level e t (offset + us.length) rest d' := by
  have hbare : c'.lines.Bare := hlines ▸ h.bare
  have htranslation : c'.lines.translation = t := hlines ▸ h.translation
  by_cases hnil : us = []
  · rw [if_pos hnil] at hdecoding
    rw [hnil, List.length_nil, Nat.add_zero]
    exact ⟨hbare, htranslation, hdecoding ▸ h.encoding, hdecoding ▸ h.decoder, hdecoding ▸ h.waiting,
      hdecoding ▸ h.start, hbelow⟩
  · have hpos := List.length_pos_iff.2 hnil
    rw [if_neg hnil] at hdecoding
    have hstart : c'.decoding.atStart = true ↔ offset + us.length = 0 := by
      rw [hdecoding]
      exact ⟨fun hstart => by simp [disarm] at hstart, fun hzero => by omega⟩
    exact ⟨hbare, htranslation, hdecoding ▸ h.encoding, hdecoding ▸ h.decoder, hdecoding ▸ h.waiting,
      hstart, hbelow⟩

/-- Between two characters, with bytes read already, the input side is level. -/
theorem level_of_poised {e : Encoding} {t : Translation} {offset : Nat} {cs : List Char}
    {others : List UInt8} {l : Lines} {g : Decoding} {s : Lower δ} (h : Poised e cs others (g, s))
    (hg : g.Whole) (hl : l.Bare) (ht : l.translation = t) (hoffset : offset ≠ 0) :
    (ofWhole (l, g, s)).1.Level e t offset (e.unread cs ++ others) (ofWhole (l, g, s)).2 := by
  obtain ⟨r, b, c, d⟩ := s
  obtain ⟨hhalf, ha⟩ := hg
  obtain ⟨henc, hw, bs, hfront, hcoming⟩ := h
  obtain ⟨hdec, rfl⟩ := hfront.whole hhalf
  rw [entering_of_atStart ha] at hcoming
  have hstart : g.atStart = true ↔ offset = 0 :=
    ⟨fun hstart => absurd (ha.symm.trans hstart) Bool.false_ne_true, fun h => absurd h hoffset⟩
  exact ⟨hl, ht, henc, hdec, hw, hstart, hcoming⟩

section Tile
variable {p : Tile} {after : List Char} {others : List UInt8} {c : Chain} {d : δ}

/-- Before a read that is for something, what is in front of the decoding is its text, and what is
behind that. -/
theorem Level.poised (h : c.Level p.encoding p.translation p.offset p.found d)
    (hp : p.Divided after others) (hkind : p.kind ≠ .units 0) :
    Poised p.encoding (p.text ++ after) others (c.decoding, c.lower d) := by
  refine ⟨h.encoding, h.waiting, p.encoding.unread (p.text ++ after), ?_, ?_⟩
  · rw [h.decoder]
    exact .of_exact hp.exact
  · rw [← hp.body, h.below, Tile.body]
    by_cases hstart : p.offset = 0
    · rw [if_pos ⟨hstart, hkind⟩, ← entering_ofUnits, ← h.encoding]
      simp [entering, Decoding.init, h.start.2 hstart]
    · rw [if_neg fun hboth => hstart hboth.1]
      exact entering_of_atStart (Bool.eq_false_iff.2 fun ha => hstart (h.start.1 ha)) _

/-- A run of characters takes the text of the tile, and meets the end if that is less than was asked
for. -/
theorem Level.readText (h : c.Level p.encoding p.translation p.offset p.found d)
    (hp : p.Divided after others) {n : Nat} (hn : Channel.wanted p.kind = some n) :
    let r := c.readText n d
    (p.text.length = n ∧ r.1 = (p.translation.read p.text, .served) ∧
      r.2.1.Level p.encoding p.translation (p.offset + p.bytes.length) p.left r.2.2) ∨
    p.text.length < n ∧ p.left = [] ∧ r.1 = (p.translation.read p.text, .ended) := by
  have hsingle : p.translation.Single := h.translation ▸ h.bare.single
  rcases Nat.eq_zero_or_pos n with rfl | hpos
  · obtain ⟨htext, hbytes, hleft⟩ := p.of_no_units ((ReadKind.wanted_eq_zero_iff hn).1 rfl)
    have hnothing : c.readText 0 d = (([], .served), c, d) := rfl
    have hread : p.translation.read [] = [] := hsingle.read_eq []
    rw [hnothing, htext, hbytes, hleft, hread]
    exact .inl ⟨rfl, rfl, h⟩
  · have hkind : p.kind ≠ .units 0 := fun h0 =>
      absurd ((ReadKind.wanted_eq_zero_iff hn).2 h0) (Nat.pos_iff_ne_zero.1 hpos)
    have htext := hp.text
    have hwithin := hp.within
    rw [ReadKind.reach_of_wanted hn] at htext
    rw [ReadKind.within_iff_of_wanted hn] at hwithin
    obtain ⟨hmore, hfewer⟩ := collectIn_frugal h.bare (frugal hp.unit others)
      (show 0 < piece by decide) (Nat.le_refl n) (fun h0 => absurd h0 (Nat.pos_iff_ne_zero.1 hpos))
      (h.poised hp hkind) hwithin.symm
    generalize hq : collectIn piece Lines.read n n (c.lines, c.decoding, c.lower d) = q at hmore hfewer
    have hrun : c.readText n d = (q.1, ofWhole q.2) := by
      rw [← hq]
      rfl
    rw [hrun]
    rw [h.translation, ← htext, ← hsingle.read_eq] at hmore
    rw [h.translation, ← hsingle.read_eq] at hfewer
    obtain ⟨r, l, g, s⟩ := q
    by_cases hlong : n ≤ (p.text ++ after).length
    · have hlen : p.text.length = n := by
        rw [htext, List.length_take, Nat.min_eq_left hlong]
      obtain ⟨rfl, rfl, hposed, hwhole⟩ := hmore hlong
      rw [← hlen, List.drop_left] at hposed
      have hne : p.text ≠ [] := by
        rw [← List.length_pos_iff, hlen]
        exact hpos
      rw [hp.left]
      exact .inl ⟨hlen, rfl, level_of_poised hposed hwhole h.bare h.translation (hp.offset_ne_zero hne)⟩
    · have hshort := Nat.lt_of_not_le hlong
      obtain ⟨hothers, hr⟩ := hfewer hshort
      rw [List.take_of_length_le (Nat.le_of_lt hshort)] at htext
      obtain ⟨hafter, hleft⟩ := hp.left_of_all hothers htext
      rw [hafter, List.append_nil] at hr hshort
      exact .inr ⟨hshort, hleft, hr⟩

/-- A line takes the text of the tile, and none is read only if there is no more. -/
theorem Level.readLine (h : c.Level p.encoding p.translation p.offset p.found d)
    (hp : p.Divided after others) (hkind : p.kind = .line) (blocking : Bool) :
    let r := c.readLine blocking d
    (p.text ≠ [] ∧ r.1 = .line p.delivered ∧
      (r.2.1.lines.isEnded = true ∧ p.left = [] ∨ r.2.1.lines.isEnded = false ∧
        r.2.1.Level p.encoding p.translation (p.offset + p.bytes.length) p.left r.2.2)) ∨
    p.text = [] ∧ p.left = [] ∧ r.1 = .ended := by
  have hsingle : p.translation.Single := h.translation ▸ h.bare.single
  have htext := hp.text
  have hwithin := hp.within
  have hdelivered : p.delivered = (p.translation.read p.text).takeWhile (· != '\n') := by
    rw [Tile.delivered, hkind]
  have hposed := h.poised hp (by simp [hkind])
  have hfrugal := frugal (σ := ReadAhead × Cutoff × δ) hp.unit others
  have hrun : ∀ q, Lines.readLine blocking (c.lines, c.decoding, c.lower d) = q →
      c.readLine blocking d = (q.1, ofWhole q.2) := by
    rintro q rfl
    rfl
  rw [hkind] at htext hwithin
  by_cases hending : ReadKind.line.Within p.translation (p.text ++ after)
  · obtain ⟨as, x, bs, hsplit, has, hx⟩ := ReadKind.exists_line hsingle hending
    obtain ⟨hreach, hline⟩ := ReadKind.reach_line hsingle bs has hx
    rw [hsplit, hreach] at htext
    rw [← htext] at hline
    have hafter : after = bs := by
      have hall := hsplit
      rw [htext, List.append_assoc] at hall
      exact List.cons.inj (List.append_cancel_left hall) |>.2
    rw [hsplit] at hposed
    rw [← h.translation] at has hx
    obtain ⟨⟨g, s⟩, hread, hthen, hwhole⟩ :=
      readLine_line (s := (c.decoding, c.lower d)) h.bare hfrugal blocking hposed has hx
    have hne : p.text ≠ [] := by simp [htext]
    rw [hrun _ hread, hdelivered, hline, hp.left, hafter, h.translation]
    refine .inl ⟨hne, rfl, .inr ⟨?_, ?_⟩⟩
    · simp [ofWhole, isEnded, h.bare.ended]
    · exact level_of_poised hthen hwhole h.bare h.translation (hp.offset_ne_zero hne)
  · have hothers := hwithin.resolve_right hending
    have hfree : ∀ x ∈ p.text ++ after, p.translation.turn x ≠ '\n' := by
      intro x hx heq
      refine hending ?_
      rw [ReadKind.Within, hsingle.read_eq]
      exact List.mem_map.2 ⟨x, hx, heq⟩
    obtain ⟨hreach, hline⟩ := ReadKind.reach_line_last hsingle hfree
    rw [hreach] at htext
    obtain ⟨hafter, hleft⟩ := hp.left_of_all hothers htext
    rw [hafter, List.append_nil] at hline hfree hposed
    rw [← h.translation] at hfree
    obtain ⟨hread, hended⟩ :=
      readLine_last (s := (c.decoding, c.lower d)) h.bare hfrugal blocking hposed hothers hfree
    rw [hrun _ rfl, hdelivered, hline]
    by_cases hnil : p.text = []
    · rw [if_pos hnil] at hread
      exact .inr ⟨hnil, hleft, hread⟩
    · rw [if_neg hnil, h.translation] at hread
      exact .inl ⟨hnil, hread, .inl ⟨hended, hleft⟩⟩

/-- Bytes are taken around the decoding, and are the tile. -/
theorem Level.readBytes (h : c.Level p.encoding p.translation p.offset p.found d)
    (he : p.encoding = .binary) {n : Nat} (hn : Channel.wanted p.kind = some n) :
    let r := c.readBytes n d
    (p.bytes.length = n ∧ r.1 = (p.bytes, .served) ∧
      r.2.1.Level p.encoding p.translation (p.offset + p.bytes.length) p.left r.2.2) ∨
    p.bytes.length < n ∧ p.left = [] ∧ r.1 = (p.bytes, .ended) := by
  obtain ⟨htext, hbytes⟩ := p.bytes_of_binary he (ReadKind.reach_of_wanted hn p.translation)
  obtain ⟨htakes, hful, -⟩ := c.readBytes_run h.bare.pending_eq n d
  have hsides : (c.readBytes n d).2.1.lines = c.lines := by
    simp only [Chain.readBytes, h.bare.takePending, ofWhole]
  have hdecoding : (c.readBytes n d).1.2 = .served → (c.readBytes n d).2.1.decoding =
      if (c.readBytes n d).1.1 = [] then c.decoding else c.decoding.disarm := by
    simp only [Chain.readBytes, ofWhole]
    intro hserved
    rw [hserved]
    simp
  rcases hq : c.readBytes n d with ⟨⟨us, halt⟩, c', d'⟩
  rw [hq] at htakes hful hsides hdecoding
  dsimp only at htakes hful hsides hdecoding ⊢
  rw [h.below] at htakes
  cases halt with
  | served =>
    obtain ⟨rest, hfound, hbelow⟩ := Coming.Past.of_ofUnits (Coming.Off.past htakes)
    have hlen : us.length = n := hful.all_of_served rfl
    have hus : p.bytes = us := by rw [hbytes, hfound, ← hlen, List.take_left]
    have hleft : p.left = rest := by rw [Tile.left, hus, hfound, List.drop_left]
    rw [hus, hleft]
    exact .inl ⟨hlen, rfl, h.around hsides (hdecoding rfl) hbelow⟩
  | ended =>
    obtain ⟨rest, hfound, hnil⟩ := Coming.Past.of_ofUnits (Coming.Off.past htakes)
    obtain rfl := Coming.ofUnits_eq_nil.1 hnil.symm
    have hlen : us.length < n := hful.short (by simp)
    rw [List.append_nil] at hfound
    have hus : p.bytes = us := by
      rw [hbytes, hfound, List.take_of_length_le (Nat.le_of_lt hlen)]
    rw [Tile.left, hus, hfound, List.drop_length]
    exact .inr ⟨hlen, rfl, rfl⟩
  | wouldBlock | failed =>
    -- nothing but bytes is to come
    obtain ⟨rest, -, hrest⟩ := Coming.Past.of_ofUnits (Coming.Off.past htakes)
    cases rest <;> simp at hrest

end Tile

end Input.Chain

/-- What a read answers tells of its tile. Where nothing is left it answers that the stream has ended,
and then the destination may be of its old sort. -/
inductive Tile.Tells (p : Tile) : Channel.Reading → Prop
  | brings (h : p.text ≠ [] ∨ p.kind = .units 0) : p.Tells ⟨.ok (.data p.delivered.length), p.data⟩
  | ends {data : Data} (htext : p.text = []) (hleft : p.left = [])
    (hdata : data = p.dst ∨ data = p.data) : p.Tells ⟨.ok .ended, data⟩

namespace Channel
variable {δ : Type}

/-- What a script does with a channel between reads is choosing another encoding. -/
inductive Action
  | read (kind : ReadKind) (dst : Data)
  | setEncoding (name : Option String)

/-- Carries out actions one after the other; what each of the reads comes to. -/
def carryOut [Transport δ] : List Action → Channel δ → List Reading × Channel δ
  | [], ch => ([], ch)
  | .read kind dst :: actions, ch =>
    let r := read kind dst ch
    let rs := carryOut actions r.2
    (r.1 :: rs.1, rs.2)
  | .setEncoding name :: actions, ch => carryOut actions (ch.setEncoding name).2

/-- The encoding behind the choice of a name. One that is not known changes nothing. -/
def chosen (name : Option String) (e : Encoding) : Encoding :=
  match name with
  | none => .binary
  | some name => (Encoding.lookup? name).getD e

/-- The tiles of the reads among some actions, each behind the last. -/
def tiles (t : Translation) : List Action → Encoding → (offset : Nat) → List UInt8 → List Tile
  | [], _, _, _ => []
  | .read kind dst :: actions, e, offset, bs =>
    let p : Tile := ⟨e, t, kind, dst, offset, bs⟩
    p :: tiles t actions e (offset + p.bytes.length) p.left
  | .setEncoding name :: actions, e, offset, bs => tiles t actions (chosen name e) offset bs

variable [Transport δ] [InputDevice δ]

/-- The bytes in front of the decoding. -/
def undecoded (ch : Channel δ) : List UInt8 :=
  if ch.ended then [] else (ByteStream.coming (ch.chain.lower ch.device)).units

/-- So far into the stream the channel has these bytes in front of it, and keeps nothing back of what
was read. Once the end was seen there are none. -/
structure Abuts (t : Translation) (offset : Nat) (bs : List UInt8) (ch : Channel δ) : Prop where
  readable : ch.Readable
  side : ch.ended = true ∧ bs = [] ∨
    ch.ended = false ∧ ch.chain.Level ch.settings.encoding t offset bs ch.device

section Abuts
variable {t : Translation} {offset : Nat} {bs : List UInt8} {ch : Channel δ}

theorem Abuts.undecoded_eq (h : ch.Abuts t offset bs) : ch.undecoded = bs := by
  unfold undecoded
  rcases h.side with ⟨he, rfl⟩ | ⟨he, hlevel⟩
  · rw [if_pos he]
  · rw [if_neg (by simp [he]), hlevel.below, Coming.units_ofUnits]

/-- Another encoding is for the bytes that are in front. -/
theorem Abuts.setEncodingTo (h : ch.Abuts t offset bs) (e : Encoding) :
    (ch.setEncodingTo e).Abuts t offset bs := by
  obtain ⟨⟨hopened, hmode, hquiet, hopens⟩, hside⟩ := h
  have hchain : (ch.setEncodingTo e).chain =
      { ch.chain with decoding := ch.chain.decoding.setEncoding e } := by
    cases hi : ch.input <;> simp [chain, Channel.setEncodingTo, configure, hi, newInput,
      Input.Decoding.init, Input.Decoding.setEncoding]
  refine ⟨⟨hopened, hmode, ?_, ?_⟩, ?_⟩
  · simp [Channel.setEncodingTo, configure, hquiet]
  · intro hnone
    exact hopens (Option.map_eq_none_iff.1 hnone)
  · rcases hside with hnone | ⟨he, hlevel⟩
    · exact .inl hnone
    · refine .inr ⟨he, ?_⟩
      rw [hchain]
      exact hlevel.setEncoding e

theorem Abuts.setEncoding (h : ch.Abuts t offset bs) (name : Option String) :
    (ch.setEncoding name).2.Abuts t offset bs ∧
      (ch.setEncoding name).2.settings.encoding = chosen name ch.settings.encoding := by
  cases name with
  | none => exact ⟨h.setEncodingTo .binary, rfl⟩
  | some name =>
    simp only [Channel.setEncoding, chosen]
    split
    · rename_i e hname
      rw [hname]
      exact ⟨h.setEncodingTo e, rfl⟩
    · rename_i hname
      rw [hname]
      exact ⟨h, rfl⟩

end Abuts

/-- A run that was served leaves the channel in front of the bytes behind the tile, and one that met the
end leaves none. -/
theorem abuts_renew {c : Input.Chain} {d : δ} {ended : Bool} {t : Translation} {offset : Nat}
    {bs : List UInt8} {ch : Channel δ} (hready : ch.Readable)
    (hside : ended = true ∧ bs = [] ∨ ended = false ∧ c.Level ch.settings.encoding t offset bs d)
    (j : List Event) : (ch.buildInput.2.renew c d ended j).Abuts t offset bs := by
  obtain ⟨-, hbuilt⟩ := buildInput_built hready
  refine ⟨hbuilt.readable hready c d ended j, hside.imp_right fun ⟨he, hlevel⟩ => ⟨he, ?_⟩⟩
  rw [← hbuilt.settings] at hlevel
  exact hlevel

section Units
variable {p : Tile} {n : Nat} (hn : wanted p.kind = some n)
include hn

omit [Transport δ] [InputDevice δ] in
/-- Units are handed out as they are on a binary channel, and translated on any other. -/
theorem delivered_of_wanted :
    p.delivered = if p.encoding.isBinary then p.text else p.translation.read p.text := by
  unfold Tile.delivered
  split
  · rename_i hkind
    rw [hkind] at hn
    cases hn
  · rfl

omit [Transport δ] [InputDevice δ] in
theorem length_delivered (ht : p.translation.Single) : p.delivered.length = p.text.length := by
  rw [delivered_of_wanted hn, ht.read_eq]
  split
  · rfl
  · exact List.length_map _

omit [Transport δ] [InputDevice δ] in
theorem tells_served (hlen : p.text.length = n) :
    p.Tells ⟨statusOf p.delivered.length .served, p.data⟩ := by
  refine .brings ?_
  rcases Nat.eq_zero_or_pos n with h0 | hpos
  · exact .inr ((ReadKind.wanted_eq_zero_iff hn).1 h0)
  · left
    rw [← List.length_pos_iff, hlen]
    exact hpos

omit [Transport δ] [InputDevice δ] in
theorem tells_ended (ht : p.translation.Single) (hleft : p.left = []) :
    p.Tells ⟨statusOf p.delivered.length .ended, p.data⟩ := by
  have hlength := length_delivered hn ht
  by_cases htext : p.text = []
  · rw [htext, List.length_nil] at hlength
    rw [hlength]
    exact .ends htext hleft (.inr rfl)
  · rw [statusOf, hlength, if_neg (by simpa using htext), ← hlength]
    exact .brings (.inl htext)

end Units

section Read
variable {p : Tile} {ch : Channel δ} (hready : ch.Readable) (he : ch.ended = false)
  (hcode : ch.settings.encoding = p.encoding)
  (hlevel : ch.chain.Level p.encoding p.translation p.offset p.found ch.device)
include hready he hcode hlevel

theorem read_text_tells {after : List Char} {others : List UInt8} (hp : p.Divided after others)
    (hb : p.encoding.isBinary = false) {n : Nat} (hn : wanted p.kind = some n) :
    p.Tells (read p.kind p.dst ch).1 ∧
      (read p.kind p.dst ch).2.Abuts p.translation (p.offset + p.bytes.length) p.left := by
  obtain ⟨j, hj⟩ := read_text_eq hready he (hcode ▸ hb) hn p.dst
  obtain ⟨-, hbuilt⟩ := buildInput_built hready
  have hsingle : p.translation.Single := hlevel.translation ▸ hlevel.bare.single
  have hdelivered : p.translation.read p.text = p.delivered := by
    rw [delivered_of_wanted hn, hb, if_neg Bool.false_ne_true]
  have hdata : p.dst.appendText p.delivered = p.data := by
    rw [Tile.data, hb, if_neg Bool.false_ne_true]
  have hread := (hlevel.congr hbuilt.device).readText hp hn
  rcases hq : ch.chain.readText n ch.buildInput.2.device with ⟨r, c, d⟩
  rw [hq, hdelivered] at hread
  rw [hj, hq]
  rcases hread with ⟨hlen, rfl, hthen⟩ | ⟨-, hleft, rfl⟩
  · rw [← hcode] at hthen
    dsimp only
    rw [hdata]
    exact ⟨tells_served hn hlen, abuts_renew hready (.inr ⟨rfl, hthen⟩) j⟩
  · dsimp only
    rw [hdata]
    exact ⟨tells_ended hn hsingle hleft, abuts_renew hready (.inl ⟨rfl, hleft⟩) j⟩

theorem read_bytes_tells (hb : p.encoding.isBinary = true) {n : Nat} (hn : wanted p.kind = some n) :
    p.Tells (read p.kind p.dst ch).1 ∧
      (read p.kind p.dst ch).2.Abuts p.translation (p.offset + p.bytes.length) p.left := by
  obtain ⟨j, hj⟩ := read_bytes_eq hready he (hcode ▸ hb) hn p.dst
  obtain ⟨-, hbuilt⟩ := buildInput_built hready
  have hsingle : p.translation.Single := hlevel.translation ▸ hlevel.bare.single
  have hbinary : p.encoding = .binary := by simpa [Encoding.isBinary] using hb
  obtain ⟨htext, hbytes⟩ := p.bytes_of_binary hbinary (ReadKind.reach_of_wanted hn p.translation)
  rw [← hbytes] at htext
  have hdelivered : p.delivered = p.bytes.map Encoding.charOfByte := by
    rw [delivered_of_wanted hn, hb, if_pos rfl, htext]
  have hcount : p.bytes.length = p.delivered.length := by rw [hdelivered, List.length_map]
  have hlength : p.text.length = p.bytes.length := by rw [htext, List.length_map]
  have hdata : p.dst.appendBytes p.bytes = p.data := by
    rw [Tile.data, hb, if_pos rfl, hdelivered, Encoding.map_lowByte_charOfByte]
  have hread := (hlevel.congr hbuilt.device).readBytes hbinary hn
  rcases hq : ch.chain.readBytes n ch.buildInput.2.device with ⟨r, c, d⟩
  rw [hq] at hread
  rw [hj, hq]
  rcases hread with ⟨hlen, rfl, hthen⟩ | ⟨-, hleft, rfl⟩
  · rw [← hcode] at hthen
    refine ⟨?_, abuts_renew hready (.inr ⟨rfl, hthen⟩) j⟩
    dsimp only
    rw [hcount, hdata]
    exact tells_served hn (hlength.trans hlen)
  · refine ⟨?_, abuts_renew hready (.inl ⟨rfl, hleft⟩) j⟩
    dsimp only
    rw [hcount, hdata]
    exact tells_ended hn hsingle hleft

theorem read_line_tells {after : List Char} {others : List UInt8} (hp : p.Divided after others)
    (hkind : p.kind = .line) :
    p.Tells (read p.kind p.dst ch).1 ∧
      (read p.kind p.dst ch).2.Abuts p.translation (p.offset + p.bytes.length) p.left := by
  obtain ⟨-, hbuilt⟩ := buildInput_built hready
  have hread := (hlevel.congr hbuilt.device).readLine hp hkind ch.settings.blocking
  rw [hkind]
  rcases hq : ch.chain.readLine ch.settings.blocking ch.buildInput.2.device with ⟨l, c, d⟩
  rw [hq] at hread
  dsimp only at hread
  rcases hread with ⟨htext, rfl, hthen⟩ | ⟨htext, hleft, rfl⟩
  · obtain ⟨j, hj⟩ := read_line_of_line hready he hq p.dst
    have hdata : lineReading ch.settings.encoding p.dst (.line p.delivered) =
        ⟨.ok (.data p.delivered.length), p.data⟩ := by rw [lineReading, hcode, Tile.data]
    rw [hj, hdata]
    rw [← hcode] at hthen
    exact ⟨.brings (.inl htext), abuts_renew hready hthen j⟩
  · obtain ⟨ended, j, hj, -, hnote⟩ := read_line_eq hready he p.dst
    rw [hq] at hj hnote
    rw [hj]
    exact ⟨.ends htext hleft (.inl rfl), abuts_renew hready (.inl ⟨hnote rfl, hleft⟩) j⟩

end Read

/-- A read tells of its tile, and leaves the channel in front of the bytes behind it. -/
theorem Abuts.read {p : Tile} {ch : Channel δ} (h : ch.Abuts p.translation p.offset p.found)
    (hcode : ch.settings.encoding = p.encoding) (ht : p.translation.Single) (hp : p.Legible) :
    p.Tells (Channel.read p.kind p.dst ch).1 ∧ p.found = p.bytes ++ p.left ∧
      (Channel.read p.kind p.dst ch).2.Abuts p.translation (p.offset + p.bytes.length) p.left := by
  obtain ⟨hready, hside⟩ := h
  obtain ⟨after, others, hdivided⟩ := hp.divided ht
  rw [and_left_comm]
  refine ⟨hdivided.found, ?_⟩
  rcases hside with ⟨he, hnil⟩ | ⟨he, hlevel⟩
  · -- nothing was left to read
    have hall := hdivided.found
    rw [hnil] at hall
    obtain ⟨hbytes, hleft⟩ := List.append_eq_nil_iff.1 hall.symm
    have htext : p.text = [] := by
      by_contra hne
      exact hdivided.bytes_ne_nil hne hbytes
    rw [read_ended hready he, hleft]
    exact ⟨.ends htext hleft (.inl rfl), hready, .inl ⟨he, rfl⟩⟩
  · rw [hcode] at hlevel
    cases hw : wanted p.kind with
    | none =>
      have hkind : p.kind = .line := by
        cases hk : p.kind <;> simp [hk, wanted] at hw ⊢
      exact read_line_tells hready he hcode hlevel hdivided hkind
    | some n =>
      cases hb : p.encoding.isBinary with
      | false => exact read_text_tells hready he hcode hlevel hdivided hb hw
      | true => exact read_bytes_tells hready he hcode hlevel hb hw

/-- Reads between which the encoding may change tell of their tiles, which make up the stream together
with the bytes in front of the decoding then. -/
theorem Abuts.carryOut {t : Translation} (ht : t.Single) (actions : List Action) {offset : Nat}
    {bs : List UInt8} {ch : Channel δ} (h : ch.Abuts t offset bs)
    (hp : ∀ p ∈ tiles t actions ch.settings.encoding offset bs, p.Legible) :
    let ps := tiles t actions ch.settings.encoding offset bs
    List.Forall₂ Tile.Tells ps (ch.carryOut actions).1 ∧
      bs = ps.flatMap Tile.bytes ++ (ch.carryOut actions).2.undecoded := by
  induction actions generalizing offset bs ch with
  | nil => exact ⟨.nil, h.undecoded_eq.symm⟩
  | cons action actions ih =>
    cases action with
    | read kind dst =>
      obtain ⟨hlegible, hothers⟩ := List.forall_mem_cons.1 hp
      obtain ⟨htells, hfound, hnext⟩ := h.read (p := ⟨_, t, kind, dst, offset, bs⟩) rfl ht hlegible
      obtain ⟨-, hsettings⟩ := read_keeps h.readable kind dst
      have hrest := ih hnext
      rw [hsettings] at hrest
      obtain ⟨hrun, hcover⟩ := hrest hothers
      refine ⟨.cons htells hrun, ?_⟩
      rw [tiles, List.flatMap_cons, List.append_assoc]
      exact hfound.trans (congrArg _ hcover)
    | setEncoding name =>
      obtain ⟨hnext, hcode⟩ := h.setEncoding name
      have hrest := ih hnext
      rw [hcode] at hrest
      exact hrest hp

/-- A channel just opened without an end marker is in front of all that its device says, if its reader
waits. -/
theorem opened_abuts {d : δ} {m : OpenMode} {s : Settings} {bs : List UInt8}
    (hd : (RawStream.coming d).eased.patient = Coming.ofUnits bs)
    (hopen : (Transport.openInput d).1 = .ok ()) (hm : m.isReadable = true) (hb : s.blocking = true)
    (hmarker : s.inputMarker = 0) (ht : s.inputTranslation.Single) :
    (opened d m s).Abuts s.inputTranslation 0 bs := by
  refine ⟨opened_readable hopen hm s, .inr ⟨rfl, ?_⟩⟩
  refine ⟨⟨rfl, rfl, rfl, ht⟩, rfl, rfl, rfl, ⟨rfl, rfl⟩, ⟨fun _ => rfl, fun _ => rfl⟩, ?_⟩
  have hlower : ByteStream.coming ((newInput s).lower d) =
      if s.blocking then ((RawStream.coming d).eased.upTo s.inputMarker).patient
      else (RawStream.coming d).eased.upTo s.inputMarker := rfl
  change ByteStream.coming ((newInput s).lower d) = _
  rw [hlower, if_pos hb, Coming.patient_upTo, hd, Coming.upTo_ofUnits, hmarker, upToMarker, if_pos rfl]

/-- The reads of a channel go through its stream tile by tile, whatever the pieces in which the device
says it and however the encoding changes between them. -/
theorem readings_tell_of_tiles {d : Transport.Rehearsed}
    (hscript : ∀ step ∈ d.reads, step.Harmless) (hopen : (Transport.openInput d).1 = .ok ())
    {m : OpenMode} (hm : m.isReadable = true) {s : Settings} (hb : s.blocking = true)
    (hmarker : s.inputMarker = 0) (ht : s.inputTranslation.Single) {actions : List Action}
    (hlegible : ∀ p ∈ tiles s.inputTranslation actions s.encoding 0 (Transport.Step.contents d.reads),
      p.Legible) :
    let stream := Transport.Step.contents d.reads
    let ps := tiles s.inputTranslation actions s.encoding 0 stream
    let run := (opened d m s).carryOut actions
    List.Forall₂ Tile.Tells ps run.1 ∧ stream = ps.flatMap Tile.bytes ++ run.2.undecoded ∧
      ∀ p ∈ ps, p.mark = [] ∨ p.offset = 0 ∧ p.encoding = .utf8 ∧ p.mark = Encoding.utf8Mark := by
  intro stream ps run
  have habuts : (opened d m s).Abuts s.inputTranslation 0 stream :=
    opened_abuts (Transport.Step.patient_coming hscript) hopen hm hb hmarker ht
  obtain ⟨htells, hcover⟩ := habuts.carryOut ht actions hlegible
  exact ⟨htells, hcover, fun p hmem => (hlegible p hmem).mark_eq⟩

/-- A header in UTF-8 behind a mark, two bytes, a line in Latin-1 and the rest in UTF-8, in pieces that
end in the middle of a mark and of characters. -/
theorem readings_tell_of_tiles_header :
    let d := { Transport.Rehearsed.quiet with
      reads := [.units [0xEF, 0xBB], .delay, .units [0xBF, 0xC3], .interruption,
        .units [0xA9, 0x0D, 0xFF], .units [0x0D, 0xE9, 0x0D, 0xC3], .units [0x9F]] }
    let s := { Settings.default with inputTranslation := .cr }
    let actions : List Action := [.read .line (.text []), .setEncoding none,
      .read (.units 2) (.bytes []), .setEncoding (some "latin1"), .read .line (.text ['>']),
      .setEncoding (some "utf-8"), .read .all (.text []), .read (.units 1) (.text [])]
    let ps := tiles s.inputTranslation actions s.encoding 0 (Transport.Step.contents d.reads)
    let run := (opened d .readOnly s).carryOut actions
    ps.map Tile.bytes = [[0xEF, 0xBB, 0xBF, 0xC3, 0xA9, 0x0D], [0xFF, 0x0D], [0xE9, 0x0D],
        [0xC3, 0x9F], []] ∧
      ps.map Tile.data = [.text ['é'], .bytes [0xFF, 0x0D], .text ['>', 'é'], .text ['ß'], .text []] ∧
      List.Forall₂ Tile.Tells ps run.1 ∧ run.2.undecoded = [] := by
  intro d s actions ps run
  have hps : ps =
      [⟨.utf8, .cr, .line, .text [], 0,
          [0xEF, 0xBB, 0xBF, 0xC3, 0xA9, 0x0D, 0xFF, 0x0D, 0xE9, 0x0D, 0xC3, 0x9F]⟩,
        ⟨.binary, .cr, .units 2, .bytes [], 6, [0xFF, 0x0D, 0xE9, 0x0D, 0xC3, 0x9F]⟩,
        ⟨.latin1, .cr, .line, .text ['>'], 8, [0xE9, 0x0D, 0xC3, 0x9F]⟩,
        ⟨.utf8, .cr, .all, .text [], 10, [0xC3, 0x9F]⟩,
        ⟨.utf8, .cr, .units 1, .text [], 12, []⟩] := by decide +kernel
  have hlegible : ∀ p ∈ ps, p.Legible := by
    rw [hps]
    simp only [List.forall_mem_cons]
    refine ⟨⟨Charset.Utf8.bytes ['é', '\r'], [0xFF, 0x0D, 0xE9, 0x0D, 0xC3, 0x9F], ?_, .utf8 _,
        .inr ?_⟩,
      Tile.legible_of_bytes (.inr rfl), Tile.legible_of_bytes (.inl rfl),
      ⟨Charset.Utf8.bytes ['ß'], [], ?_, .utf8 _, .inl rfl⟩,
      ⟨Charset.Utf8.bytes [], [], ?_, .utf8 _, .inl rfl⟩, by simp⟩
    all_goals decide +kernel
  obtain ⟨htells, hcover, -⟩ :=
    readings_tell_of_tiles (d := d) (s := s) (m := .readOnly) (by decide) rfl rfl rfl rfl (by decide)
      hlegible
  have hbytes : ps.map Tile.bytes = [[0xEF, 0xBB, 0xBF, 0xC3, 0xA9, 0x0D], [0xFF, 0x0D], [0xE9, 0x0D],
      [0xC3, 0x9F], []] := by
    rw [hps]
    decide +kernel
  refine ⟨hbytes, by rw [hps]; decide +kernel, htells, ?_⟩
  have hall : Transport.Step.contents d.reads = ps.flatMap Tile.bytes := by
    rw [List.flatMap_def, hbytes]
    decide
  exact List.self_eq_append_right.1 (hall.symm.trans hcover)

end Channel

end ScriptChannel
