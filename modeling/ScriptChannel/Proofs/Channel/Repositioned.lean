import ScriptChannel.Proofs.Channel.Alike
import ScriptChannel.Proofs.Channel.Duplex
import ScriptChannel.Proofs.Channel.InputSide

/-!
# A seek makes history irrelevant

A channel over a memory that was sent to a place reads as one just opened there, whatever was done to
it before. Only one thing is kept of its history: that something was read already, so that no byte order
mark is looked for. At the start of the stream it is looked for again, and where there is none to be
found it makes no difference.
-/

namespace ScriptChannel.Channel
open Transport Input

/-- What may be done to a channel over a memory, and to the memory under it. -/
inductive Deed
  | call (op : Op)
  /-- More bytes come to the end of the memory. -/
  | feed (bs : List UInt8)
  /-- The memory leaves open mode. -/
  | complete
  deriving DecidableEq, Repr

namespace Deed

/-- The channel behind it, whatever a call answered. -/
def perform : Deed → Channel Memory → Channel Memory
  | call op, ch => op.perform ch
  | feed bs, ch => { ch with device := ch.device.feed bs }
  | complete, ch => { ch with device := ch.device.complete }

end Deed

/-- The channel behind some deeds. -/
def undergo (deeds : List Deed) (ch : Channel Memory) : Channel Memory :=
  deeds.foldl (fun ch deed => deed.perform ch) ch

variable {ch : Channel Memory}

/-- What no call breaks nothing does. -/
theorem Upholds.undergo {I : Settings → Bool → Chain → Prop} (hI : Invariant Memory I)
    (h : ch.Upholds I) (deeds : List Deed) : (undergo deeds ch).Upholds I := by
  induction deeds generalizing ch with
  | nil => exact h
  | cons deed deeds ih =>
    cases deed with
    | call op => exact ih (h.perform hI op)
    | feed bs =>
      have hfed : ((Deed.feed bs).perform ch).Upholds I := h
      exact ih hfed
    | complete =>
      have hcomplete : (Deed.complete.perform ch).Upholds I := h
      exact ih hcomplete

theorem mode_undergo (deeds : List Deed) (ch : Channel Memory) :
    (undergo deeds ch).mode = ch.mode := by
  induction deeds generalizing ch with
  | nil => rfl
  | cons deed deeds ih =>
    refine (ih (deed.perform ch)).trans ?_
    cases deed with
    | call op => exact mode_perform op ch
    | feed bs => rfl
    | complete => rfl

/-- The input sides differ at most in a search for a byte order mark that finds nothing. -/
def SameButSearch (_ : Settings) (x y : Chain × Memory) : Prop := x.1.idle = y.1.idle ∧ x.2 = y.2

theorem sameButSearch_of_idle {α : Type} (s : Settings) {x y : α × Chain × Memory}
    (h : Prod.map id (Prod.map Chain.idle id) x = Prod.map id (Prod.map Chain.idle id) y) :
    x.1 = y.1 ∧ SameButSearch s x.2 y.2 :=
  ⟨(congrArg Prod.fst h :), (congrArg (·.2.1) h :), (congrArg (·.2.2) h :)⟩

theorem likeness_sameButSearch : Likeness SameButSearch where
  text := by
    rintro s ⟨c, d⟩ ⟨c', d'⟩ ⟨hidle, hd⟩ - n
    obtain rfl : d = d' := hd
    apply sameButSearch_of_idle
    rw [← Chain.readText_idle, ← Chain.readText_idle, show c.idle = c'.idle from hidle]
  bytes := by
    rintro s ⟨c, d⟩ ⟨c', d'⟩ ⟨hidle, hd⟩ - n
    obtain rfl : d = d' := hd
    apply sameButSearch_of_idle
    rw [← Chain.readBytes_idle, ← Chain.readBytes_idle, show c.idle = c'.idle from hidle]
  line := by
    rintro s ⟨c, d⟩ ⟨c', d'⟩ ⟨hidle, hd⟩
    obtain rfl : d = d' := hd
    obtain ⟨hsame, hkept⟩ := sameButSearch_of_idle s (x := c.readLine s.blocking d)
      (y := c'.readLine s.blocking d) (by
        rw [← Chain.readLine_idle, ← Chain.readLine_idle, show c.idle = c'.idle from hidle])
    exact ⟨hsame, congrArg (·.lines.isEnded) hkept.1, hkept⟩

/-- The input sides remember the same of a text, and the same of it is to come. -/
def SameText (s : Settings) (x y : Chain × Memory) : Prop :=
  s.encoding.isBinary = false ∧ ∃ (v : Lines × Prospect Char) (d d' : Complete), d.memory = x.2 ∧
    d'.memory = y.2 ∧ Lines.Shows v (x.1.whole d) ∧ Lines.Shows v (y.1.whole d')

theorem likeness_sameText : Likeness SameText where
  text := by
    rintro s ⟨c, m⟩ ⟨c', m'⟩ ⟨hb, v, d, d', rfl, rfl, hv, hv'⟩ - n
    have hd := Chain.readText_mirror Complete.mirrors.toMirrors n c d
    have hd' := Chain.readText_mirror Complete.mirrors.toMirrors n c' d'
    obtain ⟨hsame, hkept⟩ := Chain.readText_shows hv n
    obtain ⟨hsame', hkept'⟩ := Chain.readText_shows hv' n
    dsimp only
    rw [hd, hd']
    exact ⟨hsame.trans hsame'.symm, hb, _, _, _, rfl, rfl, hkept, hkept'⟩
  bytes h hb := by simp [h.1] at hb
  line := by
    rintro s ⟨c, m⟩ ⟨c', m'⟩ ⟨hb, v, d, d', rfl, rfl, hv, hv'⟩
    have hd := Chain.readLine_mirror Complete.mirrors.toMirrors s.blocking c d
    have hd' := Chain.readLine_mirror Complete.mirrors.toMirrors s.blocking c' d'
    obtain ⟨hsame, hkept⟩ := Chain.readLine_shows hv s.blocking
    obtain ⟨hsame', hkept'⟩ := Chain.readLine_shows hv' s.blocking
    dsimp only
    rw [hd, hd']
    refine ⟨hsame.trans hsame'.symm, ?_, hb, _, _, _, rfl, rfl, hkept, hkept'⟩
    exact hkept.isEnded.trans hkept'.isEnded.symm

/-- An input side just built, which searches for a byte order mark only if it is told to. -/
def rebuilt (search : Bool) (s : Settings) : Chain :=
  { newInput s with decoding := { Decoding.init s.encoding with atStart := search } }

/-- Behind a seek an input side is as one just built, but for the search. -/
theorem resumed_of_tuned {c : Chain} {s : Settings} (h : c.tuning = s.tuning) (n : Nat) :
    c.resumed n = rebuilt (n = 0 || c.decoding.atStart) s := by
  obtain ⟨⟨t, detected, ahead, partialLine, ended⟩, ⟨e, decoder, surplus, atStart, finished⟩, r,
    ⟨cache, size, buffering, blocking, ended', starved⟩, ⟨marker, reached, held⟩⟩ := c
  obtain ⟨rfl, rfl, ⟨rfl, rfl, rfl⟩, rfl⟩ :
      t = s.inputTranslation ∧ e = s.encoding ∧
        (size = s.bufferSize ∧ buffering = s.buffering ∧ blocking = s.blocking) ∧
        marker = s.inputMarker := by
    simpa [Chain.tuning, ReadAhead.tuning, Settings.tuning] using h
  unfold Chain.resumed
  split
  · rename_i hn
    simp [rebuilt, hn, Chain.seekReset, newInput, Lines.seekReset, Decoding.seekReset, Decoding.rearm,
      Decoding.init, ReadAhead.seekReset, ReadAhead.init, Cutoff.seekReset, Cutoff.init]
  · rename_i hn
    simp [rebuilt, hn, Chain.seekReset, newInput, Lines.seekReset, Decoding.seekReset, Decoding.init,
      ReadAhead.seekReset, ReadAhead.init, Cutoff.seekReset, Cutoff.init]

/-- A seek from the start that is not refused goes where it was told to. -/
theorem seek_fromStart {p n : Nat} (h : (ch.seek (.fromStart p)).1 = .ok n) :
    n = p ∧ ch.closed = false ∧ ∃ j, (ch.seek (.fromStart p)).2 = { ch.drained with
      device := { ch.drained.device with readPos := p, writePos := p }
      input := ch.input.map (·.resumed p), ended := false, journal := j } := by
  by_cases hc : ch.closed = true
  · simp [seek, checkOpen, hc] at h
  rw [Bool.not_eq_true] at hc
  have hinput : ch.drained.input = ch.input := (congrArg Channel.input ch.drained_eq :)
  have hplace : (ch.drained.device.address (ch.drained.deviceRelative (.fromStart p))).toNat = p :=
    Int.toNat_natCast p
  rcases Memory.seek_cases (ch.drained.deviceRelative (.fromStart p)) ch.drained.device with
    ⟨e, hd⟩ | hd
  · rw [seek_eq_error hc (flushOutput_memory ch) hd] at h
    cases h
  · obtain ⟨j, hj⟩ := seek_eq hc (flushOutput_memory ch) hd
    rw [hj] at h ⊢
    rw [hplace] at h ⊢
    rw [hinput]
    exact ⟨(Except.ok.inj h).symm, hc, j, rfl⟩

/-- The input side behind a seek differs from one just built at most in the search. -/
theorem chain_seek (h : ch.Upholds fun s _ c => c.tuning = s.tuning) {p n : Nat}
    (hok : (ch.seek (.fromStart p)).1 = .ok n) :
    ∃ search, (p = 0 → search = true) ∧
      (ch.seek (.fromStart p)).2.chain = rebuilt search ch.settings := by
  obtain ⟨-, -, j, hseek⟩ := seek_fromStart hok
  have hsettings : ch.drained.settings = ch.settings := (drains_drained ch).settings
  rw [hseek, chain]
  dsimp only
  rw [hsettings]
  cases hi : ch.input with
  | none => exact ⟨true, fun _ => rfl, rfl⟩
  | some c =>
    refine ⟨p = 0 || c.decoding.atStart, fun hp => by simp [hp], ?_⟩
    exact resumed_of_tuned (h c hi) p

/-- What is to come from it is the text of the stream, if there is no mark or it is not searched for. -/
theorem shows_rebuilt {s : Settings} {d : Complete} {search : Bool}
    (hmark : search = true → s.encoding.skipMark (upToMarker s.inputMarker d.rest) =
      upToMarker s.inputMarker d.rest) :
    Lines.Shows (.init s.inputTranslation,
        (s.encoding.decode (upToMarker s.inputMarker d.rest)).map .ok)
      ((rebuilt search s).whole d) := by
  have hbytes : ByteStream.coming ((rebuilt search s).lower d) =
      Coming.ofUnits (upToMarker s.inputMarker d.rest) :=
    (clear_newInput s).coming_lower rfl rfl
  have hentering : (rebuilt search s).decoding.entering
      (Coming.ofUnits (upToMarker s.inputMarker d.rest)) =
        Coming.ofUnits (upToMarker s.inputMarker d.rest) := by
    cases search with
    | false => rfl
    | true => exact (Decoding.entering_ofUnits _ _).trans (congrArg _ (hmark rfl))
  refine ⟨rfl, ?_⟩
  change (rebuilt search s).decoding.reading
    ((rebuilt search s).decoding.entering (ByteStream.coming ((rebuilt search s).lower d))) = _
  rw [hbytes, hentering, Prospect.coming_map_ok]
  exact Decoding.reading_ofUnits s.encoding (upToMarker s.inputMarker d.rest)

/-- Whatever was done to a channel over a memory, behind a seek to a place it reads as one just opened
there. Elsewhere than at the start that is so if the stream ends there at its end and has no byte order
mark at that place. -/
theorem sights_behind_seek {m : Memory} {mode : OpenMode} (hm : mode.isReadable = true) (s : Settings)
    (deeds : List Deed) {p n : Nat} :
    let ch := undergo deeds (opened m mode s)
    let there := (ch.seek (.fromStart p)).2
    let flushed := { ch.drained.device with readPos := p, writePos := p }
    (ch.seek (.fromStart p)).1 = .ok n →
    (p = 0 ∨ ch.device.openEnded = false ∧ ∀ c mark, ch.settings.encoding.markedCharset? = some c →
      c.mark? = some mark → ¬ mark <+: flushed.bytes.drop p) →
    there.ended = false ∧ there.device = flushed ∧
      ∀ requests, there.sights requests = (opened flushed mode ch.settings).sights requests := by
  intro ch there flushed hok hplace
  obtain ⟨-, hc, j, hseek⟩ := seek_fromStart hok
  have htuned : ch.Upholds fun s _ c => c.tuning = s.tuning :=
    (Upholds.opened m mode s).undergo tuned_invariant deeds
  obtain ⟨search, hsearch, hchain⟩ := chain_seek htuned hok
  have hdrains := seek_drains hc (.fromStart p)
  have hmode : ch.mode = mode := mode_undergo deeds _
  have hended : there.ended = false := (congrArg Channel.ended hseek :)
  have hdevice : there.device = flushed := (congrArg Channel.device hseek :)
  refine ⟨hended, hdevice, fun requests => ?_⟩
  have halike : ∀ {R}, R ch.settings (rebuilt search ch.settings, flushed)
      (newInput ch.settings, flushed) → Alike R there (opened flushed mode ch.settings) := by
    intro R hside
    have hreadable : there.mode.isReadable = true := by rw [hdrains.mode, hmode, hm]
    refine ⟨⟨hdrains.closed.trans hc, rfl⟩, ⟨hreadable, hm⟩, ⟨hdrains.waiting, rfl⟩,
      hdrains.settings.symm, hended.symm, ?_⟩
    rw [hdrains.settings, hdevice, hchain]
    exact hside
  by_cases hsame : search = true ∨ ch.settings.encoding.markedCharset? = none
  · -- the search is the same, or comes to nothing
    refine (halike ⟨?_, rfl⟩).sights likeness_sameButSearch requests
    rcases hsame with rfl | hnone
    · rfl
    · have hidle : ∀ search, (rebuilt search ch.settings).idle = rebuilt false ch.settings := by
        intro search
        simp [rebuilt, Chain.idle, Decoding.idle, Decoding.init, Decoding.disarm, hnone]
      exact (hidle search).trans (hidle true).symm
  · -- none is searched for, and one just opened finds none
    obtain ⟨hnot, hmarked⟩ := not_or.1 hsame
    obtain ⟨hfinite, hunmarked⟩ := hplace.resolve_left fun hp => hnot (hsearch hp)
    obtain ⟨c, hmarked⟩ := Option.ne_none_iff_exists'.1 hmarked
    obtain ⟨mark, hmark⟩ := Encoding.mark_of_markedCharset hmarked
    have hbinary : ch.settings.encoding.isBinary = false := by
      cases he : ch.settings.encoding with
      | binary => simp [he, Encoding.markedCharset?] at hmarked
      | _ => rfl
    let d : Complete := ⟨flushed, (openEnded_drained ch).trans hfinite⟩
    have hskip : ch.settings.encoding.skipMark (upToMarker ch.settings.inputMarker d.rest) =
        upToMarker ch.settings.inputMarker d.rest := by
      rw [Encoding.skipMark_eq, hmarked]
      refine Charset.withoutMark_of_unmarked hmark fun hbegins => ?_
      exact hunmarked c mark hmarked hmark (hbegins.trans (upToMarker_begins _ _))
    have hshows : ∀ search, Lines.Shows _ ((rebuilt search ch.settings).whole d) :=
      fun _ => shows_rebuilt fun _ => hskip
    exact (halike ⟨hbinary, _, d, d, rfl, rfl, hshows search, hshows true⟩).sights
      likeness_sameText requests

/-- A carriage return that waited, an end that was met and bytes that were written leave no trace. -/
theorem sights_behind_history :
    let m := { Memory.ofBytes [0x61, 0x0D] with openEnded := true }
    let deeds := [.call (.read .line (.text [])), .feed [0x0A, 0x62], .call (.setInputMarker 0x62),
      .call (.write (.bytes [0x63])), .call (.read .all (.text [])), .complete]
    let ch := undergo deeds (opened m .readWrite .default)
    let there := (ch.seek (.fromStart 1)).2
    let flushed := { ch.drained.device with readPos := 1, writePos := 1 }
    ch.ended = true ∧ there.ended = false ∧ there.device = flushed ∧
      ∀ requests, there.sights requests =
        (opened flushed .readWrite ch.settings).sights requests := by
  intro m deeds ch there flushed
  have hutf8 : ch.settings.encoding.markedCharset? = some .utf8 := by decide +kernel
  have hbytes : ¬ [0xEF, 0xBB, 0xBF] <+: flushed.bytes.drop 1 := by decide +kernel
  have hfinite : ch.device.openEnded = false := by decide +kernel
  have hplace : ∀ c mark, ch.settings.encoding.markedCharset? = some c → c.mark? = some mark →
      ¬ mark <+: flushed.bytes.drop 1 := by
    intro c mark hc hmark
    obtain rfl : Charset.utf8 = c := Option.some.inj (hutf8.symm.trans hc)
    obtain rfl := Option.some.inj hmark
    exact hbytes
  have hok : (ch.seek (.fromStart 1)).1.toOption = some 1 := by decide +kernel
  have hok : (ch.seek (.fromStart 1)).1 = .ok 1 := by
    generalize (ch.seek (.fromStart 1)).1 = r at hok
    cases r with
    | error e => cases hok
    | ok n => rw [Option.some.inj hok]
  have hended : ch.ended = true := by decide +kernel
  exact ⟨hended, sights_behind_seek rfl .default deeds hok (.inr ⟨hfinite, hplace⟩)⟩

end ScriptChannel.Channel
