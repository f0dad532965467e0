import ScriptChannel.Proofs.Channel.Tally
import ScriptChannel.Proofs.Input.Closing
import ScriptChannel.Proofs.Input.Telling
import ScriptChannel.Proofs.Transport.Complete

/-!
# The input side at a bookmark

Over a memory that does not go on only bytes are to come, wherever the stages keep them. So all of
them together tell the text of that memory, and each read of theirs is a read of the bookmark.
-/

namespace ScriptChannel

namespace Transport.Complete

instance : RawStock Complete where
  stock := rest
  Lasting _ := True
  read_stock n m := by
    obtain ⟨hread, hrest⟩ := read_rest n m
    rw [hread, hrest, Fetch.units_plain_ok, List.take_append_drop]
  read_lasting _ _ _ := trivial

instance : StockedDevice Complete where
  stock_openInput _ := rfl
  lasting_openInput _ _ := trivial
  units_of_lasting m _ := Coming.units_ofUnits m.rest
  sound_of_lasting m _ e := by
    have hcoming : RawStream.coming m = Coming.ofUnits m.rest := rfl
    rw [hcoming, Coming.eased_ofUnits]
    simp [Coming.ofUnits]

end Transport.Complete

open Transport Input

namespace Input

/-- A memory with these bytes that is only read, and the end marker on the way to it. -/
structure Pristine (bs : List UInt8) (marker : UInt8) (s : Cutoff × Complete) : Prop where
  bytes : s.2.memory.bytes = bs
  readLast : s.2.memory.wroteLast = false
  within : s.2.memory.readPos ≤ bs.length
  marker : s.1.marker = marker

theorem Cutoff.marker_fetch {δ : Type} [RawReader δ] (n : Nat) (s : Cutoff × δ) :
    (Cutoff.fetch n s).2.1.marker = s.1.marker := by
  obtain ⟨c, d⟩ := s
  have htake : (take n (c, d)).2.1.marker = c.marker := by
    simp only [take]
    split <;> rfl
  have hscreen : ∀ (c : Cutoff) (bs : List UInt8), (c.screen bs).2.marker = c.marker := by
    intro c bs
    unfold screen
    split <;> rfl
  simp only [fetch]
  split
  · rfl
  split
  · rfl
  rcases hq : take n (c, d) with ⟨bs | _ | _ | e, c', d'⟩
  all_goals rw [hq] at htake
  · exact (hscreen c' bs).trans htake
  · exact htake
  · exact htake
  · exact htake

/-- Reading a memory changes nothing but how far it was read. -/
theorem closes_pristine (bs : List UInt8) (marker : UInt8) :
    Closes (Pristine bs marker) (fun _ => True) (Cutoff.fetch (δ := Complete)) := by
  have hkept : Closes (Below fun m : Complete => m.memory.bytes = bs ∧ m.memory.wroteLast = false ∧
      m.memory.readPos ≤ bs.length) (fun _ => True) (Cutoff.fetch (δ := Complete)) := by
    refine Cutoff.closes_of_kept ?_
    rintro n m ⟨hbytes, -, -⟩
    have hwithin := m.readPos_read_le n
    rw [hbytes] at hwithin
    rw [m.memory_read n] at hwithin ⊢
    exact ⟨hbytes, rfl, hwithin⟩
  intro n s
  refine ⟨fun hs => ?_, fun _ => trivial, fun _ _ => trivial⟩
  obtain ⟨hbytes, hlast, hwithin⟩ := (hkept n s).keeps ⟨hs.bytes, hs.readLast, hs.within⟩
  exact ⟨hbytes, hlast, hwithin, (Cutoff.marker_fetch n s).trans hs.marker⟩

/-- Whatever the stages keep, only bytes are to come from a memory that does not go on. -/
theorem prompt_lower (s : Rewind × ReadAhead × Cutoff × Complete) : (ByteStream.coming s).Prompt := by
  obtain ⟨r, b, c, m⟩ := s
  have hbottom : (ByteStream.coming (c, m)).Prompt := by
    change (if c.reached then [] else (Coming.ofUnits c.held ++
      (Coming.ofUnits m.rest).eased).upTo c.marker : Coming UInt8).Prompt
    split
    · exact Coming.prompt_nil
    · rw [Coming.eased_ofUnits, ← Coming.ofUnits_append, Coming.upTo_ofUnits]
      exact Coming.prompt_ofUnits _
  change (Coming.ofUnits r.ahead ++ (Coming.ofUnits b.cache ++
    if b.ended then [] else b.heard (ByteStream.coming (c, m)))).Prompt
  refine (Coming.prompt_ofUnits _).append ((Coming.prompt_ofUnits _).append ?_)
  split
  · exact Coming.prompt_nil
  · obtain ⟨us, hus⟩ := hbottom
    rw [hus]
    unfold ReadAhead.heard
    split
    · rw [Coming.patient_ofUnits]
      exact Coming.prompt_ofUnits us
    · exact Coming.prompt_ofUnits us

/-- What is told along a course that begins at a place of a memory. It is at its start only where the
memory is. -/
abbrev Chain.telling (k : Decoding.Course) (before behind : List Char) (place : Nat) :
    Lines.Telling (Decoding × Lower Complete) :=
  Decoding.telling k before behind (place = 0 ∧ before = [])

theorem Chain.telling_sound {k : Decoding.Course} {behind : List Char} (hp : k.Plain behind)
    (before : List Char) (place : Nat) : (Chain.telling k before behind place).Sound :=
  Decoding.telling_sound prompt_lower hp _

/-- A run of text brings the characters behind the bookmark. -/
theorem Chain.readText_at {k : Decoding.Course} {before behind : List Char} {place : Nat}
    {b : Bookmark} {c : Chain} {d : Complete} (hp : k.Plain behind) (hb : k.encoding.isBinary = false)
    (h : Lines.At (Chain.telling k before behind place) 0 b (c.whole d))
    (hpart : c.lines.partialLine = []) (n : Nat) :
    let r := c.readText n d
    r.1.1 = (b.chars n).1 ∧ Lines.Kept c.lines r.2.1.lines ∧
      Lines.At (Chain.telling k before behind place) 0 (b.chars n).2 (r.2.1.whole r.2.2) ∧
      (r.1.2 = .served ∧ r.1.1.length = n ∨
        r.1.2 = .ended ∧ (b.chars n).2.left = [] ∧ r.2.1.lines.ended = true ∧
          r.2.1.lines.ahead = []) :=
  Lines.collect_at (Chain.telling_sound hp before place) hb (show 0 < Chain.piece by decide) n h hpart

/-- A line is the one behind the bookmark. -/
theorem Chain.readLine_at {k : Decoding.Course} {before behind : List Char} {place : Nat}
    {b : Bookmark} {c : Chain} {d : Complete} (hp : k.Plain behind)
    (h : Lines.At (Chain.telling k before behind place) 0 b.gathered (c.whole d))
    (hpart : c.lines.partialLine = b.aside) :
    let r := c.readLine true d
    r.2.1.lines.partialLine = [] ∧ r.2.1.lines.translation = c.lines.translation ∧
      Lines.At (Chain.telling k before behind place) 0 b.line.2 (r.2.1.whole r.2.2) ∧
      (b.line.1.2 = true ∨ b.line.1.1 ≠ [] → r.1 = .line b.line.1.1) ∧
      (b.line.1.2 = false → b.line.2.left = [] ∧ r.2.1.lines.ended = true ∧ r.2.1.lines.ahead = [] ∧
        (b.line.1.1 = [] → r.1 = .ended)) :=
  Lines.readLine_at (Chain.telling_sound hp before place) (h.of_le (Nat.zero_le 1)) hpart

/-- A run for bytes brings all of them or says that the stream has ended. -/
theorem Chain.readBytes_prompt (n : Nat) (c : Chain) (d : Complete) :
    let r := c.readBytes n d
    r.1.2 = .served ∧ r.1.1.length = n ∨ r.1.2 = .ended ∧ r.1.1.length < n := by
  obtain ⟨⟨htakes, -⟩, hful⟩ := ByteSource.collect_takes (show 0 < piece by decide)
    (n - (c.lines.pending.take n).length) (c.lower d)
  simp only [readBytes, Lines.takePending, List.length_map, List.length_append]
  rcases hq : collect piece ByteSource.run (n - (c.lines.pending.take n).length) (c.lower d) with
    ⟨⟨us, halt⟩, w⟩
  rw [hq] at htakes hful
  have hprompt := prompt_lower (c.lower d)
  have hlen := List.length_take_le n c.lines.pending
  cases halt with
  | served =>
    have hall := hful.all_of_served rfl
    dsimp only at hall ⊢
    exact .inl ⟨rfl, by omega⟩
  | ended =>
    have hshort := hful.short (by simp)
    dsimp only at hshort ⊢
    exact .inr ⟨rfl, by omega⟩
  | wouldBlock | failed =>
    obtain ⟨ts, hts⟩ := hprompt
    rw [hts] at htakes
    obtain ⟨vs, -, hvs⟩ := Coming.Past.of_ofUnits (Coming.Off.past htakes)
    obtain ⟨u, hu⟩ := (Coming.prompt_ofUnits vs).not_cons hvs.symm
    exact absurd hu (by simp)

/-- A run for bytes brings the next of the text, and says that it has ended where that is all of it. -/
theorem Chain.readBytes_brings {k : Decoding.Course} {told rest : List Char} {c : Chain} {d : Complete}
    (hp : k.Plain (told ++ rest)) (hb : k.encoding.isBinary = true) (h : c.Tallied k told d) (n : Nat) :
    let r := c.readBytes n d
    r.1.1.map Encoding.charOfByte = rest.take n ∧
      (r.1.2 = .ended → rest = r.1.1.map Encoding.charOfByte) := by
  obtain ⟨hnext, -, hend⟩ := h.readBytes hb n
  have hcount := c.readBytes_prompt n d
  rcases hq : c.readBytes n d with ⟨⟨bs, halt⟩, c', d'⟩
  rw [hq] at hnext hend hcount
  dsimp only at hnext hend hcount ⊢
  have hall : halt = .ended → rest = bs.map Encoding.charOfByte := by
    intro hended
    have htext := hend hended
    rw [hp.text_eq] at htext
    exact (List.append_cancel_left htext).symm
  refine ⟨?_, hall⟩
  rcases hcount with ⟨-, hlen⟩ | ⟨hended, hlen⟩
  · have hbegins := hnext.begins_text
    rw [hp.text_eq, List.prefix_append_right_inj] at hbegins
    have hfirst := List.prefix_iff_eq_take.1 hbegins
    rwa [List.length_map, hlen] at hfirst
  · rw [hall hended, List.take_of_length_le (by rw [List.length_map]; omega)]

/-- It does not go back to the start. -/
theorem Chain.atStart_of_readBytes {c : Chain} {d : Complete} {n : Nat}
    (hs : (c.readBytes n d).2.1.decoding.atStart = true) : c.decoding.atStart = true := by
  simp only [readBytes, ofWhole] at hs
  split at hs
  · exact hs
  · split at hs
    · exact hs
    · simp [Decoding.disarm] at hs

/-- At a bookmark for bytes, what waits above the decoding was set aside or looked at. What was told
before it is in front of the bookmark. -/
theorem Chain.told_at {k : Decoding.Course} {before behind : List Char} {place : Nat}
    {b : Bookmark} {c : Chain} {d : Complete} (hp : k.Plain behind) (hb : k.encoding.isBinary = true)
    (h : Lines.At (Chain.telling k before behind place) 0 b.gathered (c.whole d))
    (hpart : c.lines.partialLine = b.aside) (hbegins : before <+: b.taken) :
    ∃ told, b.taken = before ++ told ∧ behind = told ++ (b.aside ++ b.left) ∧ c.Tallied k told d ∧
      c.lines.pending =
        (b.aside ++ b.left).take (b.aside.length + if b.peeked then 1 else 0) := by
  obtain ⟨told, htold⟩ := hbegins
  obtain ⟨us, hus, hhanded, -, -⟩ := h.below
  have hall := h.text
  change before ++ behind = b.taken ++ b.aside ++ b.left at hall
  change b.taken ++ b.aside ++ c.lines.ahead = before ++ us at hus
  rw [← htold, List.append_assoc, List.append_assoc, List.append_cancel_left_eq] at hus hall
  have hpending : c.lines.pending = b.aside ++ c.lines.ahead := by rw [Lines.pending, hpart]
  rw [← hpending] at hus
  rw [← hus] at hhanded
  have hseen := hhanded.begins_text
  rw [hp.text_eq, hall, List.prefix_append_right_inj] at hseen
  have hlen : c.lines.pending.length = b.aside.length + if b.peeked then 1 else 0 := by
    rw [hpending, List.length_append]
    exact congrArg _ (h.peeked hb)
  rw [← hlen]
  exact ⟨told, htold.symm, hall, ⟨hhanded, h.ended⟩, List.prefix_iff_eq_take.1 hseen⟩

/-- A run for bytes brings those behind the bookmark, what was set aside among them. -/
theorem Chain.readBytes_at {k : Decoding.Course} {before behind : List Char} {place : Nat}
    {b : Bookmark} {c : Chain} {d : Complete} (hp : k.Plain behind) (hb : k.encoding.isBinary = true)
    (h : Lines.At (Chain.telling k before behind place) 0 b.gathered (c.whole d))
    (hpart : c.lines.partialLine = b.aside) (hbegins : before <+: b.taken) (n : Nat) :
    let r := c.readBytes n d
    let q := b.plain n
    r.1.1.map Encoding.charOfByte = q.1 ∧
      Lines.At (Chain.telling k before behind place) 0 q.2.gathered (r.2.1.whole r.2.2) ∧
      r.2.1.lines.partialLine = q.2.aside ∧ r.2.1.lines.translation = c.lines.translation ∧
      (r.1.2 = .served ∧ r.1.1.length = n ∨
        r.1.2 = .ended ∧ r.1.1.length < n ∧ q.2.aside = [] ∧ q.2.left = []) := by
  obtain ⟨told, htold, rfl, htallied, hseen⟩ := Chain.told_at hp hb h hpart hbegins
  obtain ⟨hbrings, hall⟩ := Chain.readBytes_brings hp hb htallied n
  obtain ⟨hnext, -, -⟩ := htallied.readBytes hb n
  obtain ⟨-, -, -, -, hfirst⟩ := h.below
  have hcount := c.readBytes_prompt n d
  have hlines : (c.readBytes n d).2.1.lines = (c.lines.takePending n).2 := rfl
  have hstart := Chain.atStart_of_readBytes (c := c) (d := d) (n := n)
  have hplain := b.plain_all n
  rcases hq : c.readBytes n d with ⟨⟨bs, halt⟩, c', d'⟩
  rw [hq] at hbrings hall hnext hcount hlines hstart
  dsimp only at hbrings hall hnext hcount hlines hstart
  have hread : bs.map Encoding.charOfByte = (b.plain n).1 := hbrings
  have hrest : c'.lines.pending = (b.plain n).2.aside := by
    rw [hlines]
    change c.lines.pending.drop n ++ [] = _
    rw [List.append_nil, hseen]
    rfl
  obtain ⟨hbelow, hover⟩ := hnext
  change Decoding.Handed k (told ++ bs.map Encoding.charOfByte ++ c'.lines.pending)
    (c'.whole d').2 at hbelow
  rw [hread, hrest] at hbelow
  have htidy := hbelow.tidy (k.decoder_of_binary hb)
  refine ⟨hread, ?_, ?_, ?_, ?_⟩
  · exact
      { below := by
          refine ⟨told ++ (b.plain n).1 ++ (b.plain n).2.aside, ?_, hbelow, fun _ => htidy.1,
            fun hs => hfirst (hstart hs)⟩
          change b.taken ++ (b.plain n).1 ++ (b.plain n).2.aside ++ c'.lines.ahead = _
          rw [hlines, htold]
          simp [Lines.takePending]
        text := by
          change before ++ (told ++ (b.aside ++ b.left)) =
            b.taken ++ (b.plain n).1 ++ (b.plain n).2.aside ++ (b.plain n).2.left
          rw [← hplain, htold]
          simp
        mode := by
          change c'.lines.mode = b.mode
          rw [hlines]
          exact h.mode
        ended := hover
        whole := .inl fun _ => htidy.2
        peeked := fun _ => by
          change c'.lines.ahead.length = 0
          rw [hlines]
          rfl }
  · rw [← hrest, hlines]
    exact (List.append_nil _).symm
  · rw [hlines]
    rfl
  · rcases hcount with hserved | ⟨hended, hlen⟩
    · exact .inl hserved
    · rw [hread] at hall
      rw [← hall hended] at hplain
      obtain ⟨haside, hleft⟩ := List.append_eq_nil_iff.1 (List.append_right_eq_self.1 hplain)
      exact .inr ⟨hended, hlen, haside, hleft⟩

end Input

end ScriptChannel
