import ScriptChannel.Proofs.Channel.InputSide
import ScriptChannel.Proofs.Channel.Ledger
import ScriptChannel.Proofs.Input.Dry

/-!
# Going over to bytes

A channel that becomes binary hands out what its line endings keep and goes on with the bytes below
the decoding. The decoder's surplus stands between the two and is passed over: nothing is lost just if
there is none.
-/

namespace ScriptChannel
open Transport

theorem Transport.Rehearsed.inward_stock : Inward (RawStock.stock (δ := Rehearsed)) :=
  ⟨fun _ _ => rfl, fun _ => rfl, fun _ => rfl, fun _ => rfl, fun _ => rfl⟩

/-- What a run takes comes off the stock. -/
theorem Stocked.collectIn_run {σ : Type} [ByteSource σ] [Stocked σ] (piece fuel wanted : Nat) (s : σ) :
    let r := collectIn piece ByteSource.run fuel wanted s
    Stocked.stock s = r.1.1 ++ Stocked.stock r.2 := by
  induction fuel generalizing wanted s with
  | zero => rfl
  | succ fuel ih =>
    have hfetch := Stocked.fetch_stock (min wanted piece) s
    simp only [collectIn, ByteSource.run]
    split
    · rfl
    · rcases hq : ByteSource.fetch (min wanted piece) s with ⟨us | _ | _ | e, s'⟩
      all_goals rw [hq] at hfetch
      · simp only [Fetch.run]
        rw [hfetch, ih (wanted - us.length) s', List.append_assoc]
        rfl
      all_goals exact hfetch

namespace Input.Chain

/-- Nothing that could still be delivered waits in any stage. -/
structure Emptied (c : Chain) : Prop where
  decoded : c.decoded = []
  ahead : c.rewind.ahead = []
  cache : c.readAhead.cache = []
  shut : c.cutoff.Shut

/-- A run of bytes brings what the line endings keep and then what is below, in this order. -/
theorem readBytes_stock {δ : Type} [RawReader δ] [RawStock δ] (n : Nat) (c : Chain) (d : δ) :
    let r := c.readBytes n d
    r.1.1 ++ (r.2.1.lines.pending.map Encoding.lowByte ++ Stocked.stock (r.2.1.lower r.2.2)) =
      c.lines.pending.map Encoding.lowByte ++ Stocked.stock (c.lower d) := by
  obtain ⟨g, -, hr⟩ := c.readBytes_around n d
  have hstock := Stocked.collectIn_run piece
    (n - ((c.lines.pending.take n).map Encoding.lowByte).length)
    (n - ((c.lines.pending.take n).map Encoding.lowByte).length) (c.lower d)
  dsimp only
  rw [hr]
  have hkept : (c.lines.takePending n).2.pending = c.lines.pending.drop n := by
    simp [Lines.takePending, Lines.pending]
  have hlower : ∀ s : Whole δ, (ofWhole s).1.lower (ofWhole s).2 = s.2.2 := fun _ => rfl
  have hlines : ∀ s : Whole δ, (ofWhole s).1.lines = s.1 := fun _ => rfl
  rw [hlines, hlower, hkept, hstock]
  rcases Nat.lt_or_ge n c.lines.pending.length with hlt | hge
  · -- nothing is asked of the stages below
    have hnone : n - ((c.lines.pending.take n).map Encoding.lowByte).length = 0 := by
      rw [List.length_map, List.length_take]
      omega
    rw [hnone]
    simp only [collect, collectIn, List.append_nil, List.nil_append]
    rw [← List.append_assoc, ← List.map_append, List.take_append_drop]
  · rw [List.take_of_length_le hge, List.drop_of_length_le hge]
    simp [collect]

end Input.Chain

namespace Channel
open Input
variable {δ : Type} [Transport δ]

/-- The bytes that a run puts behind what its destinations have. -/
def octets : List (ReadKind × Data) → Channel δ → List UInt8
  | [], _ => []
  | (kind, dst) :: requests, ch =>
    (read kind dst ch).1.data.octets.drop dst.octets.length ++ octets requests (read kind dst ch).2

/-- The bytes below the decoding, read ahead or still to be read. -/
def below [RawStock δ] (ch : Channel δ) : List UInt8 := Stocked.stock (ch.chain.lower ch.device)

/-- Of the input side, as long as it is there: where an end was noted all below is used up. -/
def Closed (_ : Settings) (ended : Bool) (c : Chain) : Prop :=
  c.Sealed ∧ (ended = true → c.lines.pending = [] ∧ c.Dry)

theorem closed_of_running {s : Settings} {c : Chain} (hlines : c.lines.ended = false)
    (hdecoding : c.decoding.finished = false) (hreadAhead : c.readAhead.ended = false) :
    Closed s false c := by
  refine ⟨⟨fun he => ?_, fun he => ?_, fun he => ?_⟩, by simp⟩
  · exact absurd (hreadAhead.symm.trans he) Bool.false_ne_true
  · exact absurd (hdecoding.symm.trans he) Bool.false_ne_true
  · exact absurd (hlines.symm.trans he) Bool.false_ne_true

/-- What it holds of: what waits in the stages and whether they have seen the end. -/
def holdings (c : Chain) : (List Char × Bool) × (List Char × Bool) × List UInt8 ×
    (List UInt8 × Bool) × Cutoff :=
  ((c.lines.pending, c.lines.ended), (c.decoding.surplus, c.decoding.finished), c.rewind.ahead,
    (c.readAhead.cache, c.readAhead.ended), c.cutoff)

theorem Closed.of_holdings {s s' : Settings} {ended : Bool} {c c' : Chain} (h : Closed s ended c)
    (hsame : holdings c' = holdings c) : Closed s' ended c' := by
  simp only [holdings, Prod.mk.injEq] at hsame
  obtain ⟨⟨hpending, hlines⟩, ⟨hsurplus, hfinished⟩, hahead, ⟨hcache, hended⟩, hcutoff⟩ := hsame
  have hdry : c.Dry → c'.Dry := fun hc =>
    ⟨hahead.trans hc.ahead, hcache.trans hc.cache, hended.trans hc.ended, hcutoff ▸ hc.shut⟩
  obtain ⟨⟨hshut, hfin, hdec⟩, hend⟩ := h
  refine ⟨⟨?_, ?_, ?_⟩, ?_⟩
  · rw [hended, hcutoff]
    exact hshut
  · rw [hfinished]
    exact fun hf => hdry (hfin hf)
  · rw [hlines, hsurplus, hfinished]
    exact hdec
  · rw [hpending]
    exact fun he => ⟨(hend he).1, hdry (hend he).2⟩

theorem closed_invariant [RawStream δ] : Invariant δ Closed where
  fresh s := closed_of_running rfl rfl rfl
  text h _ n d := by
    obtain ⟨hsealed, hend⟩ := h.1.readText n d
    exact ⟨hsealed, fun he => ⟨(hend (of_decide_eq_true he)).1, (hend (of_decide_eq_true he)).2.2⟩⟩
  bytes h _ n d := by
    obtain ⟨hsealed, -, hend⟩ := h.1.readBytes n d
    exact ⟨hsealed, fun he => hend (of_decide_eq_true he)⟩
  line {s c} h d := by
    obtain ⟨hsealed, hend⟩ := h.1.readLine s.blocking d
    refine ⟨hsealed, fun he => ?_⟩
    have hnoted : (c.readLine s.blocking d).1 = .ended ∨
        (c.readLine s.blocking d).2.1.lines.isEnded = true := by
      generalize c.readLine s.blocking d = r at he
      obtain ⟨l, c', d'⟩ := r
      cases l with
      | line | blocked => exact .inr he
      | ended => exact .inl rfl
      | failed e => cases he
    exact ⟨(hend hnoted).1, (hend hnoted).2.2⟩
  resumed {s ended c} _ n := by
    have hclear := c.clear_resumed n
    exact closed_of_running hclear.lines hclear.waiting.2 hclear.readAhead
  encoding h _ := h.of_holdings rfl
  bufferSize h _ := h.of_holdings rfl
  buffering h _ := h.of_holdings rfl
  blocking h _ := h.of_holdings rfl
  translation h _ := h.of_holdings rfl
  marker {s ended c} _ m := by
    refine closed_of_running rfl ?_ rfl
    simp only [Chain.rescan, Decoding.cancelEnd, Decoding.takeSurplus]
    by_cases hf : c.decoding.finished = true <;> simp [hf]
  output h _ _ := h

section Bytes
variable [RawStock δ] (hstock : Inward (RawStock.stock (δ := δ)))
include hstock

omit hstock in
theorem below_eq (ch : Channel δ) : ch.below = ch.chain.rewind.ahead ++ (ch.chain.readAhead.cache ++
    (ch.chain.cutoff.held ++ RawStock.stock ch.device)) := rfl

/-- One read for bytes. -/
theorem read_octets {ch : Channel δ} (hb : ch.settings.encoding.isBinary = true) {kind : ReadKind}
    {n : Nat} (hk : wanted kind = some n) (dst : Data) :
    let r := read kind dst ch
    r.1.data.octets.drop dst.octets.length ++
        (r.2.chain.lines.pending.map Encoding.lowByte ++ r.2.below) =
      ch.chain.lines.pending.map Encoding.lowByte ++ ch.below ∧
    r.2.chain.decoding.surplus = ch.chain.decoding.surplus ∧ r.2.settings = ch.settings := by
  rcases read_cases hstock kind dst ch with ⟨hdata, hbeside⟩ | ⟨he, ch', j, hbeside, hread⟩
  · have hchain : (read kind dst ch).2.chain = ch.chain := by
      rw [chain, chain, hbeside.input, hbeside.settings]
    dsimp only
    rw [hdata, below_eq, hchain, hbeside.device]
    exact ⟨by simp [below_eq], rfl, hbeside.settings⟩
  · have hb' : ch'.settings.encoding.isBinary = true := by rw [hbeside.settings, hb]
    have hdevice : RawStock.stock ch'.device = RawStock.stock ch.device := hbeside.device
    have hrun := ch.chain.readBytes_stock n ch'.device
    obtain ⟨g, hg, hr⟩ := ch.chain.readBytes_around n ch'.device
    have hsurplus : (ch.chain.readBytes n ch'.device).2.1.decoding.surplus =
        ch.chain.decoding.surplus := by
      rw [hr]
      rcases hg with rfl | rfl <;> rfl
    dsimp only
    rw [hread, hk]
    simp only [readThrough, readUnits, hb', if_true]
    have hoctets : ∀ us, (dst.appendBytes us).octets.drop dst.octets.length = us :=
      fun us => List.drop_left
    refine ⟨?_, hsurplus, hbeside.settings⟩
    rw [hoctets, below_eq ch, ← hdevice]
    exact hrun

/-- A run of reads for bytes. -/
theorem octets_append {requests : List (ReadKind × Data)} (hr : ∀ r ∈ requests, r.1 ≠ .line)
    {ch : Channel δ} (hb : ch.settings.encoding.isBinary = true) :
    let later := (serve requests ch).2
    octets requests ch ++ (later.chain.lines.pending.map Encoding.lowByte ++ later.below) =
      ch.chain.lines.pending.map Encoding.lowByte ++ ch.below ∧
    later.chain.decoding.surplus = ch.chain.decoding.surplus ∧ later.settings = ch.settings := by
  induction requests generalizing ch with
  | nil => exact ⟨rfl, rfl, rfl⟩
  | cons r requests ih =>
    obtain ⟨kind, dst⟩ := r
    obtain ⟨n, hk⟩ : ∃ n, wanted kind = some n := by
      cases kind with
      | line => exact absurd rfl (hr _ List.mem_cons_self)
      | all => exact ⟨_, rfl⟩
      | units n => exact ⟨n, rfl⟩
    obtain ⟨hfirst, hsurplus, hsettings⟩ := read_octets hstock hb hk dst
    obtain ⟨hrest, hsurplus', hsettings'⟩ :=
      @ih (fun r hmem => hr r (List.mem_cons_of_mem _ hmem)) (read kind dst ch).2
        (by rw [hsettings, hb])
    refine ⟨?_, hsurplus'.trans hsurplus, hsettings'.trans hsettings⟩
    simp only [octets, serve, List.append_assoc]
    rw [hrest, hfirst]

end Bytes

/-- Going over to bytes touches the stages no further. -/
theorem chain_unencode (ch : Channel δ) :
    ((Op.setEncoding none).perform ch).chain.lines = ch.chain.lines ∧
      ((Op.setEncoding none).perform ch).chain.decoding.surplus = ch.chain.decoding.surplus ∧
      ((Op.setEncoding none).perform ch).settings.encoding.isBinary = true := by
  cases hi : ch.input <;> simp [Op.perform, setEncoding, setEncodingTo, configure, chain, hi,
    newInput, Decoding.setEncoding, Decoding.init, Encoding.isBinary]

theorem serve_eq_after (requests : List (ReadKind × Data)) (ch : Channel δ) :
    (serve requests ch).2 = after (requests.map fun r => .read r.1 r.2) ch := by
  induction requests generalizing ch with
  | nil => rfl
  | cons r requests ih => exact ih (read r.1 r.2 ch).2

omit [Transport δ] in
/-- A channel at its end keeps nothing, unless in the surplus of its decoder. -/
theorem emptied_of_ended {ch : Channel δ} (h : ch.Upholds Closed) (he : ch.ended = true) :
    ch.chain.lines.pending = [] ∧ (ch.chain.Emptied ↔ ch.chain.decoding.surplus = []) := by
  cases hi : ch.input with
  | none =>
    -- the device was closed: there is no input side that could keep anything
    have hc : ch.chain = newInput ch.settings := by rw [chain, hi]; rfl
    rw [hc]
    exact ⟨rfl, fun _ => rfl, fun _ => ⟨rfl, rfl, rfl, .inr rfl⟩⟩
  | some c =>
    have hc : ch.chain = c := by rw [chain, hi]; rfl
    obtain ⟨-, hend⟩ := h c hi
    obtain ⟨hpending, hdry⟩ := hend he
    rw [hc]
    refine ⟨hpending, fun hemptied => (List.append_eq_nil_iff.1 hemptied.decoded).2, fun hs => ?_⟩
    exact ⟨by rw [Chain.decoded, hpending, hs]; rfl, hdry.ahead, hdry.cache, hdry.shut⟩

/-- A channel that has become binary, however it was used before, delivers what its line endings
keep and then what is below, in the order of the stream. Once it is at its end, nothing that was
decoded has been passed over just if the decoder had no surplus when it was put out of use; and just
then nothing waits in any stage. -/
theorem octets_behind_decoded (d : Rehearsed) (m : OpenMode) (s : Settings) (ops : List Op)
    {requests : List (ReadKind × Data)} (hr : ∀ r ∈ requests, r.1 ≠ .line) :
    let ch := (Op.setEncoding none).perform (after ops (opened d m s))
    let later := (ch.serve requests).2
    let told := ch.octets requests
    told ++ (later.chain.lines.pending.map Encoding.lowByte ++ later.below) =
        ch.chain.lines.pending.map Encoding.lowByte ++ ch.below ∧
      (later.ended = true →
        (told ++ later.below = ch.chain.decoded.map Encoding.lowByte ++ ch.below ↔
          ch.chain.decoding.surplus = []) ∧
        (later.chain.Emptied ↔ ch.chain.decoding.surplus = [])) := by
  intro ch later told
  have hswitched : ch.Upholds Closed :=
    ((Upholds.opened d m s).after closed_invariant ops).perform closed_invariant (.setEncoding none)
  have hupholds : later.Upholds Closed := by
    have hafter := hswitched.after closed_invariant (requests.map fun r => .read r.1 r.2)
    rwa [← serve_eq_after] at hafter
  obtain ⟨-, -, hb⟩ := chain_unencode (after ops (opened d m s))
  obtain ⟨hall, hsurplus, -⟩ := octets_append Rehearsed.inward_stock hr hb
  refine ⟨hall, fun he => ?_⟩
  obtain ⟨hpending, hemptied⟩ := emptied_of_ended hupholds he
  have hdelivered : told ++ later.below = ch.chain.lines.pending.map Encoding.lowByte ++ ch.below := by
    rw [← hall, hpending]
    rfl
  refine ⟨?_, by rw [hemptied, hsurplus]⟩
  rw [hdelivered, Chain.decoded, List.map_append, List.append_assoc, List.append_right_inj,
    List.self_eq_append_left, List.map_eq_nil_iff]

/-- A carriage return that waits for what follows it goes first, and no character is passed over. -/
theorem octets_behind_return :
    let d := Rehearsed.quiet.feed [.units [0x61, 0x0D], .delay, .delay, .delay, .units [0x62]]
    let ch := (Op.setEncoding none).perform
      (after [.setBlocking false, .read (.units 5) (.text [])] (opened d .readOnly .default))
    let told := ch.octets [(.all, .bytes []), (.all, .bytes [])]
    told = [0x0D, 0x62] ∧ told ++ (ch.serve [(.all, .bytes []), (.all, .bytes [])]).2.below =
      ch.chain.decoded.map Encoding.lowByte ++ ch.below := by
  intro d ch told
  have hr : ∀ r ∈ [(ReadKind.all, Data.bytes []), (ReadKind.all, Data.bytes [])], r.1 ≠ .line := by
    decide
  obtain ⟨-, hend⟩ := octets_behind_decoded d .readOnly .default
    [.setBlocking false, .read (.units 5) (.text [])] hr
  obtain ⟨hwhole, -⟩ := hend (by decide)
  exact ⟨by decide, hwhole.2 (by decide)⟩

/-- The character that a torn sequence is told from is in the surplus, and no byte of it is handed
out. -/
theorem octets_skip_surplus :
    let d := Rehearsed.quiet.feed [.units [0xC3, 0x61, 0x62]]
    let ch := (Op.setEncoding none).perform
      (after [.read (.units 1) (.text [])] (opened d .readOnly .default))
    let later := (ch.serve [(.all, .bytes [])]).2
    ch.chain.decoded = ['a'] ∧ ch.below = [0x62] ∧ ch.octets [(.all, .bytes [])] = [0x62] ∧
      later.ended = true ∧ later.chain.decoded = ['a'] := by
  decide

end Channel
end ScriptChannel
