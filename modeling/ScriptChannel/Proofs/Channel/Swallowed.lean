import ScriptChannel.Proofs.Channel.Delivered
import ScriptChannel.Proofs.Channel.InputSide
import ScriptChannel.Proofs.Channel.Unencoded
import ScriptChannel.Proofs.Input.Paging
import ScriptChannel.Proofs.Input.Probing

/-!
# Where a byte order mark is swallowed

A channel that was sent to a place before anything was read of it looks for a byte order mark there,
as it does at the start of the stream. Once something was read it does not, wherever it is sent, until
it is sent back to the start.
-/

namespace ScriptChannel

/-- A mark read as text is a character like any other. -/
theorem Charset.decode_mark {c : Charset} {mark : List UInt8} (h : c.mark? = some mark)
    (bs : List UInt8) : c.decode (mark ++ bs) = '\uFEFF' :: c.decode bs := by
  have hfeed : c.decoder.feed mark = (['\uFEFF'], c.decoder) := by
    cases c with
    | utf8 =>
      obtain rfl := Option.some.inj h
      decide
    | utf16 order =>
      cases order <;>
      · obtain rfl := Option.some.inj h
        decide
    | _ => simp [mark?] at h
  simp [decode, Decoder.feed_append, hfeed]

theorem Charset.mark_ne_nil {c : Charset} {mark : List UInt8} (h : c.mark? = some mark) :
    mark ≠ [] := by
  rintro rfl
  cases c with
  | utf16 order => cases order <;> simp [mark?] at h
  | _ => simp [mark?] at h

/-- No translation concerns it. -/
theorem Endings.text_mark (m : Translation) (cs : List Char) :
    text ⟨m, false⟩ ('\uFEFF' :: cs) = '\uFEFF' :: text ⟨m, false⟩ cs := by
  cases m <;> rfl

namespace Channel
open Transport Input
variable {δ : Type} [Transport δ]

/-- Calls that look at the stream and change nothing but how it is looked at. -/
def Op.browses : Op → Bool
  | .read _ _ | .setEncoding _ | .seek _ => true
  | _ => false

/-- A read takes something from the stream: a line or characters that it asks for, or bytes that
there are. -/
def takes (kind : ReadKind) (dst : Data) (ch : Channel δ) : Bool :=
  !ch.ended && match wanted kind with
    | none => true
    | some n => if ch.settings.encoding.isBinary then !(ch.octets [(kind, dst)]).isEmpty else n ≠ 0

/-- Whether something was taken since the stream was at its start, after a call and before it. -/
def Op.begun (ch : Channel δ) (b : Bool) : Op → Bool
  | .read kind dst => b || ch.takes kind dst
  | .seek p => b && (ch.seek p).1.toOption ≠ some 0
  | _ => b

/-- Whether something was taken since the stream was at its start, after some calls. -/
def begun : List Op → Channel δ → Bool → Bool
  | [], _, b => b
  | op :: ops, ch, b => begun ops (op.perform ch) (op.begun ch b)

section Complete
variable {ch : Channel Complete} {b : Bool}

/-- A memory that is browsed: a byte order mark is looked for just if nothing was taken yet. -/
structure Browsed (bs : List UInt8) (b : Bool) (ch : Channel Complete) : Prop where
  readable : ch.Readable
  bytes : ch.device.memory.bytes = bs
  start : ch.chain.decoding.atStart = !b
  unbegun : b = false → ch.chain.Unbegun

variable {bs : List UInt8}

theorem browsed_opened {mode : OpenMode} (hm : mode.isReadable = true) (s : Settings) :
    (opened (⟨Memory.ofBytes bs, rfl⟩ : Complete) mode s).Browsed bs false where
  readable := opened_readable rfl hm s
  bytes := by simp [opened, init, Memory.ofBytes, Memory.bytes]
  start := rfl
  unbegun _ := ⟨rfl, rfl, rfl⟩

theorem Browsed.recoded (h : ch.Browsed bs b) (e : Encoding) :
    (ch.setEncodingTo e).Browsed bs b where
  readable := by
    obtain ⟨hopened, hmode, hquiet, -⟩ := h.readable
    exact ⟨hopened, hmode, by simp [setEncodingTo, configure, hquiet], fun _ => rfl⟩
  bytes := h.bytes
  start := by
    rw [← h.start]
    cases hi : ch.input <;> simp [chain, setEncodingTo, configure, hi, newInput, Decoding.init,
      Decoding.setEncoding]
  unbegun hb := by
    obtain ⟨hpending, hended, hdecoding⟩ := h.unbegun hb
    cases hi : ch.input with
    | none =>
      simp only [chain, setEncodingTo, configure, hi, Option.map_none, Option.getD_none]
      exact ⟨rfl, rfl, rfl⟩
    | some c =>
      simp only [chain, hi, Option.getD_some] at hpending hended hdecoding
      simp only [chain, setEncodingTo, configure, hi, Option.map_some, Option.getD_some]
      refine ⟨hpending, hended, ?_⟩
      rw [hdecoding]
      rfl

theorem Browsed.seek (h : ch.Browsed bs b) (p : Place) :
    (ch.seek p).2.Browsed bs (b && (ch.seek p).1.toOption ≠ some 0) := by
  have hflush : ch.flushOutput = (.ok (), ch) := by simp [flushOutput, h.readable.quiet]
  rcases Complete.seek_cases (ch.deviceRelative p) ch.device with ⟨e, hd⟩ | ⟨d, hd, hmemory⟩
  · rw [seek_eq_error h.readable.opened hflush hd]
    have hkept : (b && decide ((none : Option Nat) ≠ some 0)) = b := by simp
    exact hkept.symm ▸ h
  · generalize (ch.device.memory.address (ch.deviceRelative p)).toNat = n at hd hmemory
    obtain ⟨j, hj⟩ := seek_eq h.readable.opened hflush hd
    rw [hj]
    obtain ⟨hopened, hmode, hquiet, -⟩ := h.readable
    have hbytes : d.memory.bytes = bs := by
      rw [hmemory]
      exact h.bytes
    have hclear : ((ch.input.map (·.resumed n)).getD (newInput ch.settings)).Clear := by
      cases ch.input with
      | none => exact clear_newInput ch.settings
      | some c => exact c.clear_resumed n
    have hstart : ((ch.input.map (·.resumed n)).getD (newInput ch.settings)).decoding.atStart =
        !(b && decide (some n ≠ some 0)) := by
      have hbefore := h.start
      cases hi : ch.input with
      | none =>
        simp only [chain, hi, Option.getD_none, Option.map_none] at hbefore ⊢
        obtain rfl : b = false := by simpa [newInput, Decoding.init] using hbefore
        rfl
      | some c =>
        simp only [chain, hi, Option.getD_some, Option.map_some] at hbefore ⊢
        unfold Chain.resumed
        split
        · simp [*, Decoding.rearm]
        · simp [*, Chain.seekReset, Decoding.seekReset]
    exact ⟨⟨hopened, hmode, hquiet, fun _ => rfl⟩, hbytes, hstart, fun hb =>
      ⟨hclear.pending, hclear.lines, hclear.fresh (by rw [hstart]; exact congrArg Bool.not hb)⟩⟩

theorem closes_bytes (bs : List UInt8) : Closes (Below fun m : Complete => m.memory.bytes = bs)
    (fun _ => True) (Cutoff.fetch (δ := Complete)) := by
  refine Cutoff.closes_of_kept fun n m hm => ?_
  rw [Complete.memory_read]
  exact hm

/-- A read of the input side leaves the channel browsed if that side is as it should be. -/
theorem Browsed.renew (h : ch.Browsed bs b) {c : Chain} {d : Complete} (ended : Bool) (j : List Event)
    {b' : Bool} (hbytes : d.memory.bytes = bs) (hstart : c.decoding.atStart = !b')
    (hunbegun : b' = false → c.Unbegun) : (ch.buildInput.2.renew c d ended j).Browsed bs b' where
  readable := (buildInput_built h.readable).2.readable h.readable c d ended j
  bytes := hbytes
  start := hstart
  unbegun := hunbegun

theorem Browsed.read (h : ch.Browsed bs b) (kind : ReadKind) (dst : Data) :
    (Channel.read kind dst ch).2.Browsed bs (b || ch.takes kind dst) := by
  by_cases he : ch.ended = true
  · rw [read_ended h.readable he]
    simpa [takes, he] using h
  have he : ch.ended = false := Bool.eq_false_iff.2 he
  have hdevice : ch.buildInput.2.device.memory.bytes = bs := by
    rw [← h.bytes]
    unfold buildInput
    cases ch.input <;> rfl
  have hprompt := prompt_lower (ch.chain.lower ch.buildInput.2.device)
  cases hk : wanted kind with
  | none =>
    obtain rfl : kind = .line := by cases kind <;> simp [wanted] at hk ⊢
    obtain ⟨ended, j, hj, -⟩ := read_line_eq h.readable he dst
    rw [hj]
    have htakes : ch.takes .line dst = true := by simp [takes, he, wanted]
    rw [htakes, Bool.or_true]
    refine h.renew ended j ?_ ?_ (by simp)
    · exact ((Chain.readLine_honest (closes_bytes bs) (fun _ _ _ _ => trivial) _ _ _).keeps
        ⟨hdevice, fun _ => trivial⟩).1
    · cases hb : b with
      | true => exact Chain.readLine_keeps_begun (by simp [h.start, hb]) _ _
      | false => exact (h.unbegun hb).readLine hprompt.choose_spec _
  | some n =>
    cases hb : ch.settings.encoding.isBinary with
    | true =>
      obtain ⟨j, hj⟩ := read_bytes_eq h.readable he hb hk dst
      have hbegun := ch.chain.readBytes_begun n ch.buildInput.2.device fun e hf => by
        have := ch.chain.readBytes_prompt n ch.buildInput.2.device
        simp_all
      have hoctets : ch.octets [(kind, dst)] = (ch.chain.readBytes n ch.buildInput.2.device).1.1 := by
        simp only [octets, hj, List.append_nil]
        exact List.drop_left
      have htakes : ch.takes kind dst =
          !(ch.chain.readBytes n ch.buildInput.2.device).1.1.isEmpty := by
        simp [takes, he, hk, hb, hoctets]
      rw [hj, htakes]
      refine h.renew _ j ?_ ?_ ?_
      · exact ((Chain.readBytes_honest (closes_bytes bs) _ _ _).keeps ⟨hdevice, fun _ => trivial⟩).1
      · rw [hbegun, h.start]
        cases b <;> simp
      · intro hnone
        obtain ⟨hb, hempty⟩ := Bool.or_eq_false_iff.1 hnone
        exact (h.unbegun hb).readBytes (by simpa using hempty)
    | false =>
      obtain ⟨j, hj⟩ := read_text_eq h.readable he hb hk dst
      have htakes : ch.takes kind dst = decide (n ≠ 0) := by simp [takes, he, hk, hb]
      rw [hj, htakes]
      by_cases hn : n = 0
      · subst hn
        rw [show (b || decide (0 ≠ 0)) = b by simp]
        exact h.renew _ j hdevice h.start h.unbegun
      · have hsome : decide (n ≠ 0) = true := decide_eq_true hn
        rw [hsome, Bool.or_true]
        refine h.renew _ j ?_ ?_ (by simp)
        · exact ((Chain.readText_honest (closes_bytes bs) (fun _ _ _ _ => trivial) _ _ _).keeps
            ⟨hdevice, fun _ => trivial⟩).1
        · cases hb : b with
          | true => exact Chain.readText_keeps_begun (by simp [h.start, hb]) _ _
          | false => exact (h.unbegun hb).readText hprompt.choose_spec (Nat.pos_of_ne_zero hn)

theorem Browsed.perform (h : ch.Browsed bs b) {op : Op} (hop : op.browses = true) :
    (op.perform ch).Browsed bs (op.begun ch b) := by
  cases op with
  | read kind dst => exact h.read kind dst
  | seek p => exact h.seek p
  | setEncoding name =>
    simp only [Op.perform, setEncoding, Op.begun]
    split
    · exact h.recoded _
    · split
      · exact h.recoded _
      · exact h
  | _ => cases hop

theorem Browsed.after (h : ch.Browsed bs b) {ops : List Op} (hops : ∀ op ∈ ops, op.browses = true) :
    (after ops ch).Browsed bs (begun ops ch b) := by
  induction ops generalizing ch b with
  | nil => exact h
  | cons op ops ih =>
    exact ih (h.perform (hops op List.mem_cons_self)) fun op hmem =>
      hops op (List.mem_cons_of_mem _ hmem)

/-- Text is about to be read from this offset: nothing decoded waits, the decoder is as new, and the
bytes from there on, up to the end marker, are what it will be given. -/
structure Faces (bs : List UInt8) (p : Nat) (ch : Channel Complete) : Prop where
  running : ch.ended = false
  decoded : ch.chain.decoded = []
  decoder : ch.chain.decoding.decoder = ch.settings.encoding.decoder?
  stream : ByteStream.coming (ch.chain.lower ch.device) =
    Coming.ofUnits (upToMarker ch.settings.inputMarker (bs.drop p))

/-- Sent to an offset a channel faces it. -/
theorem Browsed.faces_seek (h : ch.Browsed bs b) (htuned : ch.chain.tuning = ch.settings.tuning)
    {p : Nat}
    (hok : (ch.seek (.fromStart p)).1 = .ok p) : (ch.seek (.fromStart p)).2.Faces bs p := by
  have hflush : ch.flushOutput = (.ok (), ch) := by simp [flushOutput, h.readable.quiet]
  rcases Complete.seek_cases (ch.deviceRelative (.fromStart p)) ch.device with
    ⟨e, hd⟩ | ⟨d, hd, hmemory⟩
  · rw [seek_eq_error h.readable.opened hflush hd] at hok
    cases hok
  · have haddress : (ch.device.memory.address (ch.deviceRelative (.fromStart p))).toNat = p := rfl
    rw [haddress] at hd hmemory
    obtain ⟨j, hj⟩ := seek_eq h.readable.opened hflush hd
    have hbytes : d.memory.bytes = bs := by
      rw [hmemory]
      exact h.bytes
    have hrest : RawStream.coming d = Coming.ofUnits (bs.drop p) := by
      change Coming.ofUnits (d.memory.bytes.drop d.memory.readPos) = _
      rw [hbytes, hmemory]
    rw [hj]
    -- the input side is cleared, or it will be new
    have hchain : ∀ c, (ch.input.map (·.resumed p)).getD (newInput ch.settings) = c →
        c.Clear ∧ c.decoding.decoder = ch.settings.encoding.decoder? ∧
          c.cutoff = .init ch.settings.inputMarker := by
      rintro c rfl
      cases hi : ch.input with
      | none => exact ⟨clear_newInput ch.settings, rfl, rfl⟩
      | some c =>
        simp only [chain, hi, Option.getD_some, Chain.tuning, Settings.tuning, Prod.mk.injEq]
          at htuned
        obtain ⟨-, -, hdecoder, hcutoff⟩ := c.resumed_keeps p
        refine ⟨c.clear_resumed p, hdecoder.trans (by rw [htuned.2.1]), hcutoff.trans ?_⟩
        rw [Cutoff.seekReset, htuned.2.2.2, Cutoff.init]
    obtain ⟨hclear, hdecoder, hcutoff⟩ := hchain _ rfl
    refine ⟨rfl, ?_, hdecoder, ?_⟩
    · exact List.append_eq_nil_iff.2 ⟨hclear.pending, hclear.waiting.1⟩
    · exact hclear.coming_lower hcutoff hrest

/-- Where bytes are to come no stage has noted an end. -/
theorem unfinished_of_coming {c : Chain} {d : Complete} (hc : c.Sealed) {us : List UInt8}
    (hcoming : ByteStream.coming (c.lower d) = Coming.ofUnits us) (hus : us ≠ []) :
    c.decoding.finished = false ∧ c.lines.ended = false := by
  have hfinished : c.decoding.finished = false := by
    refine Bool.eq_false_iff.2 fun hf => hus ?_
    have hdry := hc.dry hf
    have hnone : ByteStream.coming (c.lower d) = Coming.ofUnits c.rewind.ahead ++
        (Coming.ofUnits c.readAhead.cache ++ if c.readAhead.ended then [] else
          c.readAhead.heard (ByteStream.coming (c.cutoff, d))) := rfl
    rw [hnone, hdry.ahead, hdry.cache, hdry.ended] at hcoming
    exact Coming.ofUnits_eq_nil.1 hcoming.symm
  refine ⟨hfinished, Bool.eq_false_iff.2 fun hl => ?_⟩
  exact absurd (hfinished.symm.trans (hc.decoded hl).2) Bool.false_ne_true

/-- What is to come from where a mark is faced. -/
theorem Faces.coming {p : Nat} (h : ch.Faces bs p) (hb : ch.Browsed bs b) (hsealed : ch.chain.Sealed)
    (htuned : ch.chain.tuning = ch.settings.tuning) {c : Charset}
    (hc : ch.settings.encoding = .charset c) {mark rest : List UInt8} (hmark : c.mark? = some mark)
    (hstream : upToMarker ch.settings.inputMarker (bs.drop p) = mark ++ rest) :
    ch.coming = Coming.ofUnits ((if b then ['\uFEFF'] else []) ++
      Endings.text ⟨ch.chain.lines.mode, false⟩ (c.decode rest)) := by
  obtain ⟨hpending, hsurplus⟩ := List.append_eq_nil_iff.1 h.decoded
  obtain ⟨hpartial, hahead⟩ := List.append_eq_nil_iff.1 hpending
  have hcoming := h.stream
  rw [hstream] at hcoming
  have hne : mark ++ rest ≠ [] := fun hnil =>
    Charset.mark_ne_nil hmark (List.append_eq_nil_iff.1 hnil).1
  obtain ⟨hfinished, hended⟩ := unfinished_of_coming hsealed hcoming hne
  have hencoding : ch.chain.decoding.encoding = .charset c := by
    rw [← hc]
    exact congrArg (fun t => t.2.1) htuned
  have hmarked : ch.chain.decoding.encoding.markedCharset? = some c := by
    simp [hencoding, Encoding.markedCharset?, hmark]
  have hreading : ∀ us, ch.chain.decoding.reading (Coming.ofUnits us) = Coming.ofUnits (c.decode us) := by
    intro us
    have hsame := Decoding.reading_ofUnits (.charset c) us
    have hdecoder : ch.chain.decoding.decoder = some c.decoder := by rw [h.decoder, hc]; rfl
    rw [Decoding.reading_of_some (c := c) rfl rfl] at hsame
    rw [Decoding.reading_of_some hencoding hdecoder]
    exact hsame
  have hall : ch.coming = Endings.coming ⟨ch.chain.lines.mode, false⟩
      (ch.chain.decoding.reading (ch.chain.decoding.entering (Coming.ofUnits (mark ++ rest)))) := by
    rw [← hcoming, Channel.coming, h.running, Chain.coming_eq, hpartial, hahead, hended]
    simp only [Chain.spelled, hsurplus, hfinished, Bool.false_eq_true, if_false]
    rfl
  rw [hall]
  have hstart := hb.start
  cases b with
  | true =>
    have hentering : ch.chain.decoding.entering (Coming.ofUnits (mark ++ rest)) =
        Coming.ofUnits (mark ++ rest) := by simp [Decoding.entering, hstart]
    rw [hentering, hreading, Charset.decode_mark hmark, Endings.coming_ofUnits, Endings.text_mark]
    rfl
  | false =>
    have hentering : ch.chain.decoding.entering (Coming.ofUnits (mark ++ rest)) =
        Coming.ofUnits rest := by
      simp only [Decoding.entering, hstart, hmarked, Bool.not_false]
      rw [Charset.opening_ofUnits hmark, Charset.withoutMark_of_marked hmark (List.prefix_append _ _),
        List.drop_left]
    rw [hentering, hreading, Endings.coming_ofUnits]
    rfl

end Complete

/-- However a memory was browsed, a byte order mark that a reader of text faces is delivered as a
character just if something was taken since the stream was at its start. -/
theorem mark_delivered_iff_begun {bs : List UInt8} {mode : OpenMode} (hm : mode.isReadable = true)
    {s : Settings} {ops : List Op} (hops : ∀ op ∈ ops, op.browses = true) {p : Nat} {c : Charset}
    {mark rest : List UInt8} (hmark : c.mark? = some mark) :
    let fresh := opened (⟨Memory.ofBytes bs, rfl⟩ : Complete) mode s
    let ch := after ops fresh
    ch.Faces bs p → ch.settings.encoding = .charset c →
    upToMarker ch.settings.inputMarker (bs.drop p) = mark ++ rest →
    ∀ requests : List (ReadKind × Data),
      let left := (ch.serve requests).2.coming.units
      let text := Endings.text ⟨ch.chain.lines.mode, false⟩ (c.decode rest)
      ch.delivered requests ++ left = (if begun ops fresh false then ['\uFEFF'] else []) ++ text ∧
        (ch.Exhausts requests → left = []) := by
  intro fresh ch hfaces hc hstream requests left text
  have hbrowsed : ch.Browsed bs (begun ops fresh false) := (browsed_opened hm s).after hops
  have hclosed : ch.Upholds Closed := (Upholds.opened _ mode s).after closed_invariant ops
  have htuned : ch.Upholds fun s _ c => c.tuning = s.tuning :=
    (Upholds.opened _ mode s).after tuned_invariant ops
  have hcoming := hfaces.coming hbrowsed (hclosed.chain closed_invariant hfaces.running).1
    (htuned.chain tuned_invariant hfaces.running) hc hmark hstream
  have hbinary : ch.settings.encoding.isBinary = false := by simp [hc, Encoding.isBinary]
  have hall := units_coming_eq_delivered hbrowsed.readable hbinary requests
  refine ⟨by rw [← hall, hcoming, Coming.units_ofUnits], fun hexhausts => ?_⟩
  rw [delivered_of_exhausts hbrowsed.readable hbinary hexhausts] at hall
  exact List.self_eq_append_right.1 hall

/-- Behind a read a mark in the midst of the bytes is a character. -/
theorem mark_delivered_behind_read :
    let bs := [0x61, 0x62, 0x63, 0xEF, 0xBB, 0xBF, 0x64]
    let fresh := opened (⟨Memory.ofBytes bs, rfl⟩ : Complete) .readOnly .default
    let ch := after [.read (.units 1) (.text []), .seek (.fromStart 3)] fresh
    ch.delivered [(.all, .text []), (.all, .text [])] = ['\uFEFF', 'd'] := by
  intro bs fresh ch
  have hread : ∀ op ∈ [Op.read (.units 1) (.text [])], op.browses = true := by decide
  have hops : ∀ op ∈ [Op.read (.units 1) (.text []), .seek (.fromStart 3)], op.browses = true := by
    decide
  -- what the first read leaves is browsed and tuned, so that the seek may be followed from there
  have hbrowsed : (after [.read (.units 1) (.text [])] fresh).Browsed bs true :=
    (browsed_opened rfl .default).after hread
  have htuned : (after [.read (.units 1) (.text [])] fresh).Upholds fun s _ c => c.tuning = s.tuning :=
    (Upholds.opened _ .readOnly .default).after tuned_invariant _
  have hfaces : ch.Faces bs 3 :=
    hbrowsed.faces_seek (htuned.chain tuned_invariant (by decide)) (by decide)
  obtain ⟨hall, hend⟩ := @mark_delivered_iff_begun bs .readOnly rfl .default _ hops 3 .utf8 _ [0x64]
    rfl hfaces (by decide) (by decide) [(.all, .text []), (.all, .text [])]
  rw [hend (by decide), List.append_nil] at hall
  exact hall.trans (by decide)

/-- Before any read it is swallowed. -/
theorem mark_swallowed_before_read :
    let bs := [0x61, 0x62, 0x63, 0xEF, 0xBB, 0xBF, 0x64]
    let fresh := opened (⟨Memory.ofBytes bs, rfl⟩ : Complete) .readOnly .default
    let ch := after [.seek (.fromStart 3)] fresh
    bs.drop 3 = [0xEF, 0xBB, 0xBF, 0x64] ∧ ch.device.memory.readPos = 3 ∧
      ch.delivered [(.all, .text []), (.all, .text [])] = ['d'] := by
  decide

end Channel

end ScriptChannel
