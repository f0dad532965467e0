import ScriptChannel.Proofs.Channel.Units
import ScriptChannel.Proofs.Input.Paging
import ScriptChannel.Proofs.Input.Rendering

/-!
# What a binary input side has left

Where bytes are characters as they stand the stages lose none of them: those handed out, those kept in
any stage and those still on the device are always the same bytes. A run for bytes takes as many as it
brings; a line may take one more than it has, for its ending.
-/

namespace ScriptChannel.Input
open Transport

namespace Decoding
variable {σ : Type} [ByteSource σ] [Stocked σ]

/-- What was handed up, what is left over here and what is in stock below make up all of it. -/
structure Conserves (all cs : List Char) (s : Decoding × Rewind × σ) : Prop where
  encoding : s.1.encoding = .binary
  all : all = cs ++ (s.1.surplus ++ (Stocked.stock s.2).map Encoding.charOfByte)

variable {all cs : List Char} {s : Decoding × Rewind × σ}

theorem conserves_fetchBytes (h : Conserves all cs s) (hsur : s.1.surplus = []) (n : Nat) :
    Conserves all (cs ++ (fetchBytes n s).1.units) (fetchBytes n s).2 := by
  obtain ⟨d, s⟩ := s
  obtain ⟨hb, hall⟩ := h
  have hstock := Stocked.fetch_stock (min n maxChunk) s
  dsimp only at hsur hb hall
  rw [hsur, List.nil_append] at hall
  simp only [fetchBytes]
  rcases hq : ByteSource.fetch (min n maxChunk) s with ⟨us | _ | _ | e, s'⟩
  all_goals
    rw [hq] at hstock
    refine ⟨hb, ?_⟩
    rw [hall, hstock]
    simp [Fetch.units, hsur]

theorem conserves_fetch {n : Nat} (hn : 0 < n) (h : Conserves all cs s) :
    Conserves all (cs ++ (fetch n s).1.units) (fetch n s).2 := by
  obtain ⟨d, s⟩ := s
  obtain ⟨hb, hall⟩ := h
  dsimp only at hb hall
  simp only [fetch]
  rw [if_neg (Nat.pos_iff_ne_zero.1 hn)]
  split
  · refine ⟨hb, ?_⟩
    simp only [Fetch.units]
    rw [hall, List.append_assoc, ← List.append_assoc (d.surplus.take n), List.take_append_drop]
  have hsur : d.surplus = [] := by simpa using ‹¬ (!d.surplus.isEmpty) = true›
  split
  · exact ⟨hb, by simpa [Fetch.units] using hall⟩
  have hplain : ∀ d' : Decoding, d'.encoding = .binary → d'.surplus = [] →
      Conserves all (cs ++ (fetchPlain n (d', s)).1.units) (fetchPlain n (d', s)).2 := by
    intro d' hb' hsur'
    simp only [fetchPlain, hb']
    exact conserves_fetchBytes ⟨hb', by rw [hall, hsur, hsur']⟩ hsur' n
  split
  · have hmark : skipMark (d, s) = (none, d.disarm, s) := by
      simp [skipMark, hb, Encoding.markedCharset?]
    rw [hmark]
    exact hplain d.disarm hb hsur
  · exact hplain d hb hsur

/-- Where only bytes are to come every answer is one to go by. -/
theorem tells_conserved {σ : Type} [ByteSource σ] [ByteStream σ] [Stocked σ] [Settled σ]
    (hprompt : ∀ s : Rewind × σ, (ByteStream.coming s).Prompt) (all : List Char) :
    Lines.Tells (Conserves (σ := σ) all) fun _ => True := by
  intro n cs s hn h
  refine ⟨conserves_fetch hn h, ?_, fun _ => trivial⟩
  rintro error hfailed
  have htakes := CharStream.fetch_takes n s hn
  rcases htakes.prompt (prompt_coming (hprompt s.2)) with ⟨us, hus, -⟩ | hended
  · simp [hfailed] at hus
  · simp [hfailed] at hended

end Decoding

/-- Without a marker the first stage stays as it was built. -/
theorem Cutoff.closes_init {δ : Type} [RawReader δ] :
    Closes (fun s => s.1 = init 0) (fun _ => True) (fetch (δ := δ)) := by
  intro n s
  refine ⟨?_, fun _ => trivial, fun _ _ => trivial⟩
  obtain ⟨c, d⟩ := s
  rintro rfl
  simp only [fetch, take, init, List.isEmpty_nil, if_true, Bool.false_eq_true, if_false]
  split
  · rfl
  rcases Fetch.ofRead (persist interrupted RawReader.budget (RawReader.read n) d).1 with
    us | _ | _ | e
  · simp only [screen, true_or, if_true]
  all_goals rfl

namespace Chain

/-- How many bytes the stages keep and the memory has ahead. -/
def remaining (c : Chain) (d : Complete) : Nat := c.backlog .binary + d.rest.length

variable {c : Chain} {d : Complete}

theorem remaining_eq (c : Chain) (d : Complete) :
    c.remaining d = c.lines.pending.length + c.decoding.surplus.length +
      (Stocked.stock (c.lower d)).length := by
  have hstock : (Stocked.stock (c.lower d)).length = c.rewind.ahead.length +
      (c.readAhead.cache.length + (c.cutoff.held.length + d.rest.length)) := by
    simp [Stocked.stock, Rewind.stock, ReadAhead.stock, Cutoff.stock, lower, RawStock.stock]
  have hdecoded : (Encoding.unread .binary c.decoded).length =
      c.lines.pending.length + c.decoding.surplus.length := by
    simp [Encoding.unread, Encoding.encoder, Encoding.Encoder.feed, Encoding.Encoder.finish, decoded]
  rw [remaining, backlog, hdecoded, hstock]
  omega

/-- A line takes no more than there is. -/
theorem readLine_remaining (hb : c.decoding.encoding = .binary) (blocking : Bool) :
    let r := c.readLine blocking d
    r.2.1.decoding.encoding = .binary ∧ r.2.1.remaining r.2.2 ≤ c.remaining d := by
  have hholds : Lines.Holds (Decoding.Conserves (c.lines.pending ++ (c.decoding.surplus ++
      (Stocked.stock (c.lower d)).map Encoding.charOfByte))) (fun _ => True) [] (c.whole d) :=
    ⟨⟨hb, rfl⟩, fun _ => trivial⟩
  obtain ⟨us, ⟨hbelow, -⟩, -⟩ :=
    Lines.readLine_holds (Decoding.tells_conserved prompt_lower _) blocking hholds
  have hwhole : (Lines.readLine blocking (c.whole d)).2 =
      (c.readLine blocking d).2.1.whole (c.readLine blocking d).2.2 := rfl
  rw [hwhole] at hbelow
  dsimp only
  generalize (c.readLine blocking d).2.1 = c', (c.readLine blocking d).2.2 = d' at hbelow ⊢
  refine ⟨hbelow.encoding, ?_⟩
  have hall := congrArg List.length hbelow.all
  simp only [List.nil_append, List.length_append, List.length_map] at hall
  change _ = us.length + c'.lines.pending.length +
    (c'.decoding.surplus.length + (Stocked.stock (c'.lower d')).length) at hall
  rw [remaining_eq, remaining_eq]
  omega

/-- A run for bytes takes what it brings. -/
theorem readBytes_remaining (n : Nat) :
    let r := c.readBytes n d
    r.2.1.decoding.encoding = c.decoding.encoding ∧
      r.2.1.decoding.surplus = c.decoding.surplus ∧
      r.1.1.length + r.2.1.remaining r.2.2 = c.remaining d := by
  obtain ⟨hstock, -⟩ := collect_spec (σ := Lower Complete)
    (Q := fun us _ s s' => Stocked.stock s = us ++ Stocked.stock s') piece ByteSource.run
    (fun _ => rfl) (fun hu hv => by rw [hu, hv, List.append_assoc]) (by decide)
    (fun n s hn => by
      have hfetch := Stocked.fetch_stock n s
      refine ⟨?_, (Fetch.run_takes hn (ByteStream.fetch_takes n s hn)).2⟩
      simp only [ByteSource.run]
      rw [hfetch]
      cases (ByteSource.fetch n s).1 <;> rfl)
    (n - (c.lines.pending.take n).length) (c.lower d)
  have hcount := congrArg List.length hstock
  have hcut := congrArg List.length (List.take_append_drop n c.lines.pending)
  have hsound : ∀ error, (c.readBytes n d).1.2 ≠ .failed error := by
    intro error hfailed
    rcases c.readBytes_prompt n d with ⟨hserved, -⟩ | ⟨hended, -⟩ <;> simp_all
  rcases hq : collect piece ByteSource.run (n - (c.lines.pending.take n).length) (c.lower d) with
    ⟨⟨us, halt⟩, w⟩
  rw [hq] at hcount
  have hhalt : (c.readBytes n d).1.2 = halt := by
    simp only [readBytes, Lines.takePending, List.length_map, hq]
  rw [hhalt] at hsound
  obtain ⟨g, hg, hread⟩ := readBytes_eq hq hsound
  rw [hread]
  dsimp only
  have hkept : g.encoding = c.decoding.encoding ∧ g.surplus = c.decoding.surplus := by
    rcases hg with rfl | ⟨rfl, -⟩ <;> exact ⟨rfl, rfl⟩
  refine ⟨hkept.1, hkept.2, ?_⟩
  rw [remaining_eq, remaining_eq]
  change _ + ((c.lines.pending.drop n ++ []).length + g.surplus.length +
    (Stocked.stock w).length) = _
  rw [hkept.2]
  simp only [List.length_append, List.length_map, List.length_nil] at hcount hcut ⊢
  omega

/-- An input side for bytes behind the read cursor of a memory with these bytes, written to last up to
here. No more is left over than lies in front of the cursor. -/
structure Trails (bs : List UInt8) (pos : Nat) (c : Chain) (m : Memory) : Prop where
  encoding : c.decoding.encoding = .binary
  bytes : m.bytes = bs
  writePos : m.writePos = pos
  within : m.readPos ≤ bs.length
  backlog : c.backlog .binary ≤ m.readPos

section Trails
variable {bs : List UInt8} {pos : Nat}

/-- What read calls of a memory keep. -/
abbrev Reached (bs : List UInt8) (pos : Nat) (m : Complete) : Prop :=
  m.memory.bytes = bs ∧ m.memory.writePos = pos ∧ m.memory.readPos ≤ bs.length

theorem closes_reached (bs : List UInt8) (pos : Nat) :
    Closes (Below (Reached bs pos)) (fun _ => True) (Cutoff.fetch (δ := Complete)) := by
  refine Cutoff.closes_of_kept ?_
  rintro n m ⟨hbytes, hpos, -⟩
  have hwithin := m.readPos_read_le n
  rw [hbytes] at hwithin
  rw [Reached, m.memory_read n] at *
  exact ⟨hbytes, hpos, hwithin⟩

/-- Where no more remains than before, no more is left over than was read. -/
theorem Trails.step {c' : Chain} {d' : Complete} (h : Trails bs pos c d.memory)
    (hencoding : c'.decoding.encoding = .binary) (hreached : Reached bs pos d')
    (hremaining : c'.remaining d' ≤ c.remaining d) : Trails bs pos c' d'.memory := by
  obtain ⟨hbytes, hpos, hwithin⟩ := hreached
  refine ⟨hencoding, hbytes, hpos, hwithin, ?_⟩
  have hbacklog := h.backlog
  have hbefore := h.within
  simp only [remaining, Complete.rest, List.length_drop, hbytes, h.bytes] at hremaining
  omega

theorem Trails.readLine (h : Trails bs pos c d.memory) (blocking : Bool) :
    Trails bs pos (c.readLine blocking d).2.1 (c.readLine blocking d).2.2.memory := by
  obtain ⟨hencoding, hremaining⟩ := c.readLine_remaining (d := d) h.encoding blocking
  have hheld := (Chain.readLine_honest (closes_reached bs pos) (fun _ _ _ _ => trivial) blocking c
    d).keeps ⟨⟨h.bytes, h.writePos, h.within⟩, fun _ => trivial⟩
  exact h.step hencoding hheld.1 hremaining

theorem Trails.readBytes (h : Trails bs pos c d.memory) (n : Nat) :
    Trails bs pos (c.readBytes n d).2.1 (c.readBytes n d).2.2.memory := by
  obtain ⟨hencoding, -, hremaining⟩ := c.readBytes_remaining (d := d) n
  have hheld := (Chain.readBytes_honest (closes_reached bs pos) n c d).keeps
    ⟨⟨h.bytes, h.writePos, h.within⟩, fun _ => trivial⟩
  exact h.step (hencoding.trans h.encoding) hheld.1 (by omega)

end Trails

section Streaming

/-- The bytes that were read ahead. -/
def kept (c : Chain) : List UInt8 := c.rewind.ahead ++ c.readAhead.cache

/-- What is to come without a marker: what was read ahead, and unless the end was met what the memory
has behind it. -/
theorem coming_lower (h : c.cutoff = .init 0) : ByteStream.coming (c.lower d) =
    Coming.ofUnits (c.kept ++ if c.readAhead.ended then [] else d.rest) := by
  have hbottom : ByteStream.coming (c.cutoff, d) = Coming.ofUnits d.rest := by
    rw [h]
    change (Coming.ofUnits [] ++ (Coming.ofUnits d.rest).eased).upTo 0 = _
    rw [Coming.eased_ofUnits]
    rfl
  have hheard : c.readAhead.heard (Coming.ofUnits d.rest) = Coming.ofUnits d.rest := by
    have happend := c.readAhead.heard_ofUnits_append d.rest []
    rwa [List.append_nil, ReadAhead.heard_nil, List.append_nil] at happend
  change Coming.ofUnits c.rewind.ahead ++ (Coming.ofUnits c.readAhead.cache ++
    if c.readAhead.ended then [] else c.readAhead.heard (ByteStream.coming (c.cutoff, d))) = _
  rw [hbottom, hheard, kept, List.append_assoc, Coming.ofUnits_append, Coming.ofUnits_append]
  split <;> rfl

/-- An input side without a marker that only bytes were read of: none waits above the stages that read
ahead. -/
structure Streaming (c : Chain) : Prop where
  pending : c.lines.pending = []
  surplus : c.decoding.surplus = []
  cutoff : c.cutoff = .init 0

theorem Streaming.remaining (h : c.Streaming) (d : Complete) :
    c.remaining d = c.kept.length + d.rest.length := by
  rw [remaining_eq, h.pending, h.surplus]
  simp [Stocked.stock, Rewind.stock, ReadAhead.stock, Cutoff.stock, lower, RawStock.stock, h.cutoff,
    Cutoff.init, kept, Nat.add_assoc]

/-- A run for bytes brings what was read ahead, and unless the end was met what the memory has behind
it. -/
theorem Streaming.readBytes (h : c.Streaming) (n : Nat) (d : Complete) :
    let r := c.readBytes n d
    r.1.1 = (c.kept ++ if c.readAhead.ended then [] else d.rest).take n ∧ r.2.1.Streaming ∧
      r.1.1.length + (r.2.1.kept.length + r.2.2.rest.length) = c.kept.length + d.rest.length := by
  obtain ⟨htakes, -, hpending⟩ := c.readBytes_run h.pending n d
  obtain ⟨-, hsurplus, hremaining⟩ := c.readBytes_remaining (d := d) n
  have hcutoff := (Chain.readBytes_honest Cutoff.closes_init n c d).keeps ⟨h.cutoff, fun _ => trivial⟩
  have hstreaming : (c.readBytes n d).2.1.Streaming :=
    ⟨hpending, hsurplus.trans h.surplus, hcutoff.1⟩
  rw [h.remaining, hstreaming.remaining] at hremaining
  refine ⟨?_, hstreaming, hremaining⟩
  rw [coming_lower h.cutoff] at htakes
  generalize c.kept ++ (if c.readAhead.ended then [] else d.rest) = ahead at htakes
  rcases c.readBytes_prompt n d with ⟨hserved, hlen⟩ | ⟨hended, hlen⟩
  · rw [hserved] at htakes
    obtain ⟨rest, hsplit, -⟩ := Coming.Past.of_ofUnits (Coming.Off.past htakes)
    rw [hsplit, List.take_left' hlen]
  · rw [hended] at htakes
    obtain ⟨rest, hsplit, hnil⟩ := Coming.Past.of_ofUnits (Coming.Off.past htakes)
    rw [Coming.ofUnits_eq_nil.1 hnil.symm, List.append_nil] at hsplit
    rw [← hsplit, List.take_of_length_le (Nat.le_of_lt (hsplit ▸ hlen))]

end Streaming

end Chain

end ScriptChannel.Input
