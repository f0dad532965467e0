import ScriptChannel.Proofs.Channel.Standing

/-!
# Reads at a bookmark

A channel that stands at a bookmark in the text of its memory reads as the bookmark does, whatever is
asked for, and stands at the bookmark behind what it has read.
-/

namespace ScriptChannel.Channel
open Transport Input

section Read
variable {bs mark : List UInt8} {text : List Char} {begun : Bool} {b : Bookmark}
  {ch : Channel Complete}

/-- Opening a memory for reading does nothing to it. -/
theorem device_buildInput (ch : Channel Complete) : ch.buildInput.2.device = ch.device := by
  unfold buildInput
  cases ch.input <;> rfl

/-- What has begun cannot begin again: a decoding at its start has handed up nothing. -/
theorem not_atStart {k : Decoding.Course} {before behind us : List Char} {place : Nat}
    {b b' : Bookmark} {c : Chain} {d : Complete} {n : Nat} (hreads : b.Reads us b')
    (h : Lines.At (Chain.telling k before behind place) n b' (c.whole d))
    (hasked : us ≠ [] ∨ c.lines.ended = true) : c.decoding.atStart = false := by
  refine Bool.eq_false_iff.2 fun hstart => ?_
  obtain ⟨vs, hvs, hhanded, -, hfirst⟩ := h.below
  obtain ⟨-, rfl⟩ := hfirst hstart
  have hbegun : vs ≠ [] ∨ Decoding.Over (c.decoding, c.lower d) := by
    rcases hasked with hus | hended
    · left
      rintro rfl
      have hlen := hreads.length_taken
      have hpos := List.length_pos_iff.2 hus
      have hnil := congrArg List.length hvs
      simp only [List.append_nil, List.length_append, List.length_nil] at hnil
      omega
    · exact .inr (h.ended hended)
  exact absurd ((hhanded.begun hbegun).symm.trans hstart) (by decide)

/-- A read that leaves the stages at a bookmark leaves the channel there. -/
theorem Stands.renew (h : Stands bs mark text begun b ch) {kind : ReadKind} {dst : Data}
    {k : Decoding.Course} {before behind : List Char} {place : Nat} (htext : text = before ++ behind)
    (halong : Along bs mark begun b ch k before behind place) {c : Chain} {d : Complete}
    {ended : Bool} {j : List Event}
    (hread : (read kind dst ch).2 = ch.buildInput.2.renew c d ended j) {begun' : Bool}
    {b' : Bookmark}
    (hfacing : Lines.At (Chain.telling k before behind place) 0 b'.gathered (c.whole d))
    (htranslation : c.lines.translation = ch.chain.lines.translation)
    (hpartial : c.lines.partialLine = b'.aside)
    (haside : ch.settings.encoding.isBinary = false → b'.aside = [])
    (hended : ended = true → begun' = true ∧ b'.aside = [] ∧ b'.left = [])
    (hfresh : begun' = false → c.decoding.atStart = true)
    (hstart : c.decoding.atStart = true → begun' = true → mark = [])
    (htaken : b.taken <+: b'.taken) :
    Stands bs mark text begun' b' (read kind dst ch).2 := by
  obtain ⟨hready, hsettings⟩ := read_keeps h.readable kind dst
  have hheld := read_held (closes_pristine bs ch.settings.inputMarker)
    (fun _ _ => ⟨id, id, fun _ he => he.elim⟩) h.readable
    ⟨⟨h.pristine, fun _ => trivial⟩, fun _ => trivial⟩ kind dst
  have hpristine := hheld.side.1
  rw [hread] at hready hsettings hpristine ⊢
  exact
    { readable := hready
      blocking := hsettings ▸ h.blocking
      pristine := hsettings ▸ hpristine
      translation := by rw [hsettings]; exact htranslation.trans h.translation
      partialLine := hpartial
      aside := hsettings ▸ haside
      ended := hended
      fresh := hfresh
      along := ⟨k, before, behind, place, htext,
        { encoding := hsettings ▸ halong.encoding
          marker := hsettings ▸ halong.marker
          stream := halong.stream
          within := halong.within
          plain := halong.plain
          facing := hfacing
          front := halong.front
          start := hstart
          begins := halong.begins.trans htaken }⟩ }

/-- The status of a run that brings all it was asked for, unless the stream ends. -/
theorem statusOf_run {us : List Char} {n : Nat} {halt : Halt} (hn : n ≠ 0)
    (h : halt = .served ∧ us.length = n ∨ halt = .ended) :
    statusOf us.length halt = .ok (.of (us, false)) := by
  rcases h with ⟨rfl, hlen⟩ | rfl
  · have hne : us ≠ [] := by
      rintro rfl
      exact hn hlen.symm
    simp [statusOf, ReadStatus.of, hne]
  · simp [statusOf, ReadStatus.of, List.length_eq_zero_iff]

/-- A read that asks for nothing leaves the decoding as it is. With any other the page is begun. -/
theorem Stands.begun_units (h : Stands bs mark text begun b ch) {n : Nat} {d : Decoding}
    (hidle : n = 0 → d = ch.chain.decoding) (hasked : n ≠ 0 → d.atStart = true → mark = []) :
    ((begun || n != 0) = false → d.atStart = true) ∧
      (d.atStart = true → (begun || n != 0) = true → mark = []) := by
  by_cases hn : n = 0
  · obtain ⟨k, before, behind, place, -, halong⟩ := h.along
    rw [hidle hn, bne_eq_false_iff_eq.2 hn, Bool.or_false]
    exact ⟨h.fresh, halong.start⟩
  · rw [bne_iff_ne.2 hn, Bool.or_true]
    exact ⟨fun hf => Bool.noConfusion hf, fun hs _ => hasked hn hs⟩

/-- Units of text are read from the bookmark on. -/
theorem Stands.read_text (h : Stands bs mark text begun b ch) (he : ch.ended = false)
    (hb : ch.settings.encoding.isBinary = false) {kind : ReadKind} {n : Nat}
    (hk : wanted kind = some n) (dst : Data) :
    let q := b.chars n
    let r := read kind dst ch
    Stands bs mark text (begun || n != 0) q.2 r.2 ∧ r.1.data.chars.drop dst.chars.length = q.1 ∧
      (n ≠ 0 → r.1.status = .ok (.of (q.1, false))) := by
  obtain ⟨k, before, behind, place, htext, halong⟩ := h.along
  obtain ⟨j, hj⟩ := read_text_eq h.readable he hb hk dst
  rw [device_buildInput] at hj
  have haside := h.aside hb
  have hfacing := halong.facing
  rw [Bookmark.gathered_of_nil haside] at hfacing
  obtain ⟨hus, hkept, hat, hend⟩ := Chain.readText_at halong.plain (by rw [halong.encoding, hb])
    hfacing (h.partialLine.trans haside) n
  have hreads := b.reads_chars n
  have haside' : (b.chars n).2.aside = [] := hreads.aside_eq.trans haside
  rcases hq : ch.chain.readText n ch.device with ⟨⟨us, halt⟩, c, d⟩
  rw [hq] at hj hus hkept hat hend
  dsimp only at hj hus hkept hat hend
  dsimp only
  rw [← hus] at hreads ⊢
  have hlast : halt = .ended → (b.chars n).2.left = [] ∧ c.lines.ended = true := by
    rintro rfl
    obtain ⟨hserved, -⟩ | ⟨-, hleft, hended, -⟩ := hend
    · exact absurd hserved (by decide)
    · exact ⟨hleft, hended⟩
  have hserved : halt ≠ .ended → halt = .served ∧ us.length = n := fun hne =>
    hend.resolve_right fun hn => hne hn.1
  -- asked for a character, the decoding has begun
  have hasked : n ≠ 0 → c.decoding.atStart = false := by
    intro hn
    apply not_atStart hreads hat
    by_cases hh : halt = .ended
    · exact .inr (hlast hh).2
    · left
      rintro rfl
      exact hn (hserved hh).2.symm
  obtain ⟨hfresh, hstart⟩ := h.begun_units (n := n) (d := c.decoding)
    (by
      rintro rfl
      exact (congrArg (fun r => r.2.1.decoding) hq).symm)
    fun hn hs => absurd ((hasked hn).symm.trans hs) (by decide)
  have hrenew : (read kind dst ch).2 = ch.buildInput.2.renew c d (halt = .ended) j := by rw [hj]
  refine ⟨h.renew htext halong hrenew ?_ hkept.translation ?_ (fun _ => haside') ?_ hfresh hstart
    hreads.taken_prefix, ?_, ?_⟩
  · rwa [Bookmark.gathered_of_nil haside']
  · exact hkept.partialLine.trans (h.partialLine.trans (haside.trans haside'.symm))
  · intro hh
    obtain rfl : halt = .ended := by simpa using hh
    refine ⟨?_, haside', (hlast rfl).1⟩
    cases n with
    | zero => exact absurd (congrArg (fun r => r.1.2) hq) (by simp [Chain.readText, collect, collectIn])
    | succ n => simp
  · rw [hj]
    exact List.drop_left
  · intro hn
    rw [hj]
    exact statusOf_run hn (Decidable.byCases .inr fun hh => .inl (hserved hh))

/-- So are units of bytes. -/
theorem Stands.read_bytes (hpage : Page ch.settings.encoding ch.settings.inputMarker bs mark text)
    (h : Stands bs mark text begun b ch) (he : ch.ended = false)
    (hb : ch.settings.encoding.isBinary = true) {kind : ReadKind} {n : Nat}
    (hk : wanted kind = some n) (dst : Data) :
    let q := b.plain n
    let r := read kind dst ch
    Stands bs mark text (begun || n != 0) q.2 r.2 ∧ r.1.data.chars.drop dst.chars.length = q.1 ∧
      (n ≠ 0 → r.1.status = .ok (.of (q.1, false))) := by
  obtain ⟨k, before, behind, place, htext, halong⟩ := h.along
  obtain ⟨j, hj⟩ := read_bytes_eq h.readable he hb hk dst
  rw [device_buildInput] at hj
  obtain ⟨hus, hat, hpartial, htranslation, hend⟩ :=
    Chain.readBytes_at halong.plain (by rw [halong.encoding, hb]) halong.facing h.partialLine
      halong.begins n
  have hmark : mark = [] := (hpage.narrow (by
    rw [show ch.settings.encoding = .binary by simpa [Encoding.isBinary] using hb]
    rfl)).1
  obtain ⟨hfresh, hstart⟩ := h.begun_units (n := n) (d := (ch.chain.readBytes n ch.device).2.1.decoding)
    (by
      rintro rfl
      rfl)
    fun _ _ => hmark
  rcases hq : ch.chain.readBytes n ch.device with ⟨⟨us, halt⟩, c, d⟩
  rw [hq] at hj hus hat hpartial htranslation hend hfresh hstart
  dsimp only at hj hus hat hpartial htranslation hend hfresh hstart
  have hrenew : (read kind dst ch).2 = ch.buildInput.2.renew c d (halt = .ended) j := by rw [hj]
  refine ⟨h.renew htext halong hrenew hat htranslation hpartial (fun hn => by simp [hb] at hn) ?_ hfresh
    hstart (List.prefix_append _ _), ?_, ?_⟩
  · intro hh
    rcases hend with ⟨rfl, -⟩ | ⟨-, hlen, hlast⟩
    · simp at hh
    · have hn : n ≠ 0 := by omega
      exact ⟨by simp [hn], hlast⟩
  · rw [hj, ← hus]
    simp only [Data.appendBytes, Data.chars, List.map_append]
    exact List.drop_left' (by rw [List.length_map, length_octets]; rfl)
  · intro hn
    rw [hj, ← hus]
    have hstatus : statusOf (us.map Encoding.charOfByte).length halt =
        .ok (.of (us.map Encoding.charOfByte, false)) :=
      statusOf_run hn (hend.imp (fun hs => ⟨hs.1, by rw [List.length_map]; exact hs.2⟩) And.left)
    rwa [List.length_map] at hstatus

/-- What is said of a line is what was found of it, and that the stream has ended where nothing
was. -/
theorem lineReading_of {e : Encoding} {q : List Char × Bool} {l : Input.LineRead}
    (hline : q.2 = true ∨ q.1 ≠ [] → l = .line q.1) (hended : q.2 = false → q.1 = [] → l = .ended)
    (hnarrow : e.isBinary = true → ∀ x ∈ q.1, Encoding.Narrow x) (dst : Data) :
    (lineReading e dst l).data.chars.drop dst.chars.length = q.1 ∧
      (lineReading e dst l).status = .ok (.of q) := by
  by_cases hnone : q.1 = [] ∧ q.2 = false
  · rw [hended hnone.2 hnone.1, ReadStatus.of, if_pos hnone, hnone.1]
    exact ⟨List.drop_length, rfl⟩
  · have hfound : q.2 = true ∨ q.1 ≠ [] := by
      rcases not_and_or.1 hnone with hne | hmet
      · exact .inr hne
      · exact .inl (by simpa using hmet)
    rw [hline hfound, ReadStatus.of, if_neg hnone]
    exact ⟨drop_lineReading hnarrow dst, rfl⟩

/-- Of bytes only those characters are left that stand for one. -/
theorem Stands.narrow (hpage : Page ch.settings.encoding ch.settings.inputMarker bs mark text)
    (h : Stands bs mark text begun b ch) (hb : ch.settings.encoding.isBinary = true) :
    ∀ x ∈ b.aside ++ b.left, Encoding.Narrow x := by
  obtain ⟨k, before, behind, place, htext, halong⟩ := h.along
  have hdec : ch.settings.encoding.decoder? = none := by
    rw [show ch.settings.encoding = .binary by simpa [Encoding.isBinary] using hb]
    rfl
  have hall := halong.facing.text
  change before ++ behind = b.taken ++ b.aside ++ b.left at hall
  intro x hx
  refine (hpage.narrow hdec).2 x ?_
  rw [htext, hall, List.append_assoc]
  exact List.mem_append_right _ hx

/-- A line is read from the bookmark on. -/
theorem Stands.read_line (hpage : Page ch.settings.encoding ch.settings.inputMarker bs mark text)
    (h : Stands bs mark text begun b ch) (he : ch.ended = false) (dst : Data) :
    let q := b.line
    let r := read .line dst ch
    Stands bs mark text true q.2 r.2 ∧ r.1.data.chars.drop dst.chars.length = q.1.1 ∧
      r.1.status = .ok (.of q.1) := by
  obtain ⟨k, before, behind, place, htext, halong⟩ := h.along
  obtain ⟨ended, j, hj, hnote, -⟩ := read_line_eq h.readable he dst
  rw [device_buildInput, h.blocking] at hj hnote
  obtain ⟨hpartial, htranslation, hat, hline, hlast⟩ :=
    Chain.readLine_at halong.plain halong.facing h.partialLine
  obtain ⟨us, hus, hreads⟩ := b.reads_line
  have haside : b.line.2.aside = [] := hreads.aside_eq
  have hnarrow : ch.settings.encoding.isBinary = true → ∀ x ∈ b.line.1.1, Encoding.Narrow x := by
    intro hb x hx
    rcases Bookmark.mem_line hx with rfl | hin
    · decide
    · exact h.narrow hpage hb x hin
  have hasked : us ++ (if b.line.1.2 then ['\n'] else []) ≠ [] ∨
      (ch.chain.readLine true ch.device).2.1.lines.ended = true := by
    cases hmet : b.line.1.2 with
    | true => exact .inl (by simp)
    | false => exact .inr (hlast hmet).2.1
  have hbegun := not_atStart hreads hat hasked
  rcases hq : ch.chain.readLine true ch.device with ⟨l, c, d⟩
  rw [hq] at hj hnote hpartial htranslation hat hline hlast hbegun
  dsimp only at hj hnote hpartial htranslation hat hline hlast hbegun
  have hleft : ended = true → b.line.2.left = [] := by
    intro hended
    rcases hnote hended with rfl | hover
    · cases hmet : b.line.1.2 with
      | true => exact absurd (hline (.inl hmet)) (by simp)
      | false => exact (hlast hmet).1
    · obtain ⟨hend, hahead, -⟩ := Lines.isEnded_iff.1 hover
      exact hat.left_of_over (Chain.telling_sound halong.plain before place) (hat.ended hend) hahead
  have hrenew : (read .line dst ch).2 = ch.buildInput.2.renew c d ended j := by rw [hj]
  refine ⟨h.renew htext halong hrenew ?_ htranslation (hpartial.trans haside.symm) (fun _ => haside)
    (fun hended => ⟨rfl, haside, hleft hended⟩) (fun hn => by simp at hn)
    (fun hs _ => absurd (hbegun.symm.trans hs) (by decide))
    ((List.prefix_append _ _).trans hreads.taken_prefix), ?_⟩
  · rwa [Bookmark.gathered_of_nil haside]
  · rw [hj]
    exact lineReading_of hline (fun hmet hnil => (hlast hmet).2.2.2 hnil) hnarrow dst

/-- A channel that has ended is read as the bookmark is, with nothing left behind it. -/
theorem Stands.bookmark_of_ended (h : Stands bs mark text begun b ch) (he : ch.ended = true)
    (kind : ReadKind) :
    b.read ch.settings.encoding.isBinary kind = (([], false), b) := by
  obtain ⟨-, haside, hleft⟩ := h.ended he
  have hnone := b.next_eq_none.2 hleft
  have hchars : ∀ n, b.chars n = ([], b) := by
    intro n
    cases n <;> simp [Bookmark.chars, hnone]
  have hplain : ch.settings.encoding.isBinary = true → ∀ n, b.plain n = ([], b) := by
    intro hb n
    obtain ⟨k, before, behind, place, -, halong⟩ := h.along
    have hahead : ch.chain.lines.ahead = [] := by
      obtain ⟨more, hmore⟩ := halong.facing.ahead_prefix (Chain.telling_sound halong.plain before place)
      change ch.chain.lines.ahead ++ more = b.left at hmore
      exact (List.append_eq_nil_iff.1 (hmore.trans hleft)).1
    have hpeeked := halong.facing.peeked (by
      change k.encoding.isBinary = true
      rw [halong.encoding, hb])
    have hfalse : b.peeked = false := by
      cases hp : b.peeked with
      | false => rfl
      | true => simp [Chain.whole, hahead, Bookmark.gathered, hp] at hpeeked
    obtain ⟨mode, taken, aside, left, peeked⟩ := b
    simp_all [Bookmark.plain]
  cases kind with
  | line => simp [Bookmark.read, Bookmark.line, Bookmark.gathered_of_nil haside, hleft, haside,
      Bookmark.upToNewline]
  | all | units n =>
    cases hb : ch.settings.encoding.isBinary with
    | false => simp [Bookmark.read, hchars]
    | true => simp [Bookmark.read, hplain hb]

/-- Whatever is read is read from the bookmark on. -/
theorem Stands.read (hpage : Page ch.settings.encoding ch.settings.inputMarker bs mark text)
    (h : Stands bs mark text begun b ch) (kind : ReadKind) (dst : Data) :
    let q := b.read ch.settings.encoding.isBinary kind
    let r := read kind dst ch
    Stands bs mark text (begun || kind.asks) q.2 r.2 ∧
      r.1.data.chars.drop dst.chars.length = q.1.1 ∧
      (kind.asks = true → r.1.status = .ok (.of q.1)) := by
  by_cases he : ch.ended = true
  · have hbegun := (h.ended he).1
    rw [read_ended h.readable he, h.bookmark_of_ended he, hbegun, Bool.true_or]
    exact ⟨hbegun ▸ h, List.drop_length, fun _ => rfl⟩
  · have he := Bool.eq_false_iff.2 he
    have hunits : ∀ n, wanted kind = some n →
        b.read ch.settings.encoding.isBinary kind =
          (((if ch.settings.encoding.isBinary then b.plain n else b.chars n).1, false),
            (if ch.settings.encoding.isBinary then b.plain n else b.chars n).2) ∧
        kind.asks = (n != 0) := by
      rintro n hk
      cases kind with
      | line => simp [wanted] at hk
      | all =>
        obtain rfl := Option.some.inj hk
        exact ⟨rfl, by decide⟩
      | units m =>
        obtain rfl := Option.some.inj hk
        exact ⟨rfl, rfl⟩
    cases hk : wanted kind with
    | none =>
      obtain rfl : kind = .line := by cases kind <;> simp [wanted] at hk ⊢
      obtain ⟨hstands, hdata, hstatus⟩ := h.read_line hpage he dst
      rw [ReadKind.asks, Bool.or_true]
      exact ⟨hstands, hdata, fun _ => hstatus⟩
    | some n =>
      obtain ⟨hread, hasks⟩ := hunits n hk
      rw [hread, hasks]
      simp only [bne_iff_ne, ne_eq]
      cases hb : ch.settings.encoding.isBinary with
      | true => exact h.read_bytes hpage he hb hk dst
      | false => exact h.read_text he hb hk dst

end Read

end ScriptChannel.Channel
