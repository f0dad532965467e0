import ScriptChannel.Proofs.Input.Dry
import ScriptChannel.Proofs.Input.Paging

/-!
# What the stages are set to

Each stage holds the settings that are its business. No reading changes them.
-/

namespace ScriptChannel.Input
variable {α σ τ : Type}

/-- What no fetch changes. -/
def Steady (f : σ → τ) (fetch : Nat → σ → Fetch α × σ) : Prop := ∀ n s, f (fetch n s).2 = f s

theorem Steady.closes {f : σ → τ} {fetch : Nat → σ → Fetch α × σ} (h : Steady f fetch) (t : τ) :
    Closes (fun s => f s = t) (fun _ => True) fetch :=
  fun n s => ⟨fun hs => (h n s).trans hs, fun _ => trivial, fun _ _ => trivial⟩

namespace ReadAhead

/-- How much is read ahead, and whether it is waited for. -/
def tuning (b : ReadAhead) : Nat × Buffering × Bool := (b.size, b.buffering, b.blocking)

variable [ByteSource σ]

theorem ask_tuning (n : Nat) (s : ReadAhead × σ) : (ask n s).2.1.tuning = s.1.tuning := by
  simp only [ask]
  split <;> rfl

theorem steady_tuning : Steady (fun s : ReadAhead × σ => s.1.tuning) (fetch (σ := σ)) := by
  rintro n ⟨b, s⟩
  simp only [fetch]
  split
  · rfl
  split
  · rfl
  split
  · rfl
  split
  · exact ask_tuning n (b, s)
  · have hask := ask_tuning (max b.size 1) (b, s)
    rcases hq : ask (max b.size 1) (b, s) with ⟨us | _ | _ | e, b', s'⟩
    all_goals
      rw [hq] at hask
      exact hask

end ReadAhead

namespace Decoding
variable [ByteSource σ]

/-- The encoding, and the set that the decoder is for, if there is one. -/
def equipment (d : Decoding) : Encoding × Option Charset :=
  (d.encoding, d.decoder.map (·.charset))

omit [ByteSource σ] in
theorem decode_equipment (d : Decoding) (n : Nat) (bs : List UInt8) :
    (d.decode n bs).2.equipment = d.equipment := by
  have hfeed : ∀ (bs : List UInt8) (r : Charset.Decoder), (r.feed bs).2.charset = r.charset := by
    intro bs
    induction bs with
    | nil => exact fun _ => rfl
    | cons b bs ih =>
      intro r
      simp only [Charset.Decoder.feed]
      split
      · rfl
      · exact ih (r.step b).2
  unfold decode
  split
  · rfl
  · rename_i r hd
    simp [equipment, hd, hfeed]

omit [ByteSource σ] in
theorem finish_equipment (d : Decoding) (n : Nat) : (d.finish n).2.equipment = d.equipment := by
  unfold finish
  split
  · rfl
  · rename_i r hd
    simp [equipment, hd, Charset.Decoder.finish]

theorem fetchPlain_equipment (n : Nat) (s : Decoding × Rewind × σ) :
    (fetchPlain n s).2.1.equipment = s.1.equipment := by
  have hadvance : ∀ s : Decoding × Rewind × σ, (advance n s).2.1.equipment = s.1.equipment := by
    rintro ⟨d, s⟩
    simp only [advance]
    rcases ByteSource.fetch (d.bytesFor n) s with ⟨us | _ | _ | e, s'⟩
    · exact d.decode_equipment n us
    · rfl
    · exact d.finish_equipment n
    · rfl
  unfold fetchPlain
  split
  · exact persist_unchanged Option.isNone _ (advance n) (f := fun s => s.1.equipment) hadvance s
  · obtain ⟨d, s⟩ := s
    simp only [fetchBytes]
    rcases ByteSource.fetch (min n maxChunk) s with ⟨us | _ | _ | e, s'⟩ <;> rfl

theorem steady_equipment :
    Steady (fun s : Decoding × Rewind × σ => s.1.equipment) (fetch (σ := σ)) := by
  rintro n ⟨d, s⟩
  have hskip : (skipMark (d, s)).2.1.equipment = d.equipment := by
    rcases (skipMark_keeps (d, s)).1 with h | h
    · exact congrArg equipment h
    · rw [h]
      rfl
  simp only [fetch]
  split
  · rfl
  split
  · rfl
  split
  · rfl
  split
  · rcases hq : skipMark (d, s) with ⟨_ | f, s'⟩
    all_goals rw [hq] at hskip
    · exact (fetchPlain_equipment n s').trans hskip
    · exact hskip
  · exact fetchPlain_equipment n (d, s)

theorem steady_encoding :
    Steady (fun s : Decoding × Rewind × σ => s.1.encoding) (fetch (σ := σ)) :=
  fun n s => congrArg Prod.fst (steady_equipment n s)

end Decoding

namespace Lines
variable [CharSource σ]

theorem fill_translation (n : Nat) (s : Lines × σ) :
    (fill n s).2.1.translation = s.1.translation := by
  obtain ⟨l, s⟩ := s
  simp only [fill]
  split
  · rfl
  split
  · rfl
  rcases CharSource.fetch (max n 1) s with ⟨us | _ | _ | e, s'⟩
  · cases us <;> rfl
  all_goals rfl

theorem afterReturn_translation {pair lone : Lines → Next × Lines}
    (hpair : ∀ l, (pair l).2.translation = l.translation)
    (hlone : ∀ l, (lone l).2.translation = l.translation) (s : Lines × σ) :
    (afterReturn pair lone s).2.1.translation = s.1.translation := by
  have hfill := fill_translation 1 s
  simp only [afterReturn]
  split
  · rename_i hq
    rw [hq] at hfill
    exact hfill
  · rename_i hq
    rw [hq] at hfill
    exact hfill
  · rename_i hq
    rw [hq] at hfill
    dsimp only
    split
    · exact (hpair _).trans hfill
    · exact (hlone _).trans hfill

theorem next_translation (n : Nat) (s : Lines × σ) :
    (next n s).2.1.translation = s.1.translation := by
  have hfill := fill_translation n s
  simp only [next]
  rcases hq : fill n s with ⟨_ | why, l, s'⟩
  all_goals rw [hq] at hfill
  · dsimp only
    split
    · exact hfill
    · split
      · exact hfill
      · exact (afterReturn_translation (fun _ => rfl) (fun _ => rfl) _).trans hfill
      · exact hfill
      · exact (afterReturn_translation (fun _ => rfl) (fun _ => rfl) _).trans hfill
      · exact hfill
  · exact hfill

theorem read_translation (n : Nat) (s : Lines × σ) :
    (read n s).2.1.translation = s.1.translation := by
  have hgather : ∀ (n : Nat) (some? : Bool) (s : Lines × σ),
      (gather n some? s).2.1.translation = s.1.translation := by
    intro n
    induction n with
    | zero => exact fun _ _ => rfl
    | succ n ih =>
      intro some? s
      have hnext := next_translation (n + 1) s
      simp only [gather]
      split
      · rfl
      · rcases hq : next (n + 1) s with ⟨_ | _ | _ | e, s'⟩
        all_goals rw [hq] at hnext
        · exact (ih true s').trans hnext
        all_goals exact hnext
  obtain ⟨l, s⟩ := s
  exact hgather _ _ ({ l with partialLine := l.partialLine.drop n }, s)

theorem readLine_translation (blocking : Bool) (s : Lines × σ) :
    (readLine blocking s).2.1.translation = s.1.translation := by
  have huntil : ∀ (fuel : Nat) (s : Lines × σ),
      (untilNewline blocking fuel s).2.1.translation = s.1.translation := by
    intro fuel
    induction fuel with
    | zero => exact fun _ => rfl
    | succ fuel ih =>
      intro s
      have hnext := next_translation 1 s
      simp only [untilNewline]
      rcases hq : next 1 s with ⟨_ | _ | _ | e, s'⟩
      all_goals rw [hq] at hnext
      · dsimp only
        split
        · exact hnext
        · exact (ih s').trans hnext
      · dsimp only
        split
        · exact (ih s').trans hnext
        · exact hnext
      all_goals exact hnext
  have hends := huntil (budget s + 2) s
  simp only [readLine]
  rcases hq : untilNewline blocking (budget s + 2) s with ⟨⟨cs, stop⟩, l, s'⟩
  rw [hq] at hends
  cases stop with
  | newline | wouldBlock | failed => exact hends
  | ended =>
    dsimp only
    split <;> exact hends

end Lines

namespace Chain

/-- What the stages are set to. -/
def tuning (c : Chain) : Translation × Encoding × (Nat × Buffering × Bool) × UInt8 :=
  (c.lines.translation, c.decoding.encoding, c.readAhead.tuning, c.cutoff.marker)

variable {δ : Type} [RawReader δ] {c : Chain}

/-- Of the stages below the decoding. -/
abbrev tuningLower (s : ReadAhead × Cutoff × δ) : (Nat × Buffering × Bool) × UInt8 :=
  (s.1.tuning, s.2.1.marker)

theorem steady_lower :
    Steady (tuningLower (δ := δ)) (ByteSource.fetch (σ := ReadAhead × Cutoff × δ)) := by
  intro n s
  have hmarker := (ReadAhead.closes (σ := Cutoff × δ)
    (Steady.closes (f := fun s : Cutoff × δ => s.1.marker) Cutoff.marker_fetch s.2.1.marker) n s).keeps
    ⟨rfl, fun _ => trivial⟩
  exact Prod.ext (ReadAhead.steady_tuning n s) hmarker.1

/-- What is kept where characters are fetched from is kept where lines are read. -/
theorem readText_keeps {P : Decoding × Lower δ → Prop}
    (h : Closes P (fun _ => True) (CharSource.fetch (σ := Decoding × Lower δ))) (n : Nat) (d : δ)
    (hs : P (c.whole d).2) : P ((c.readText n d).2.1.whole (c.readText n d).2.2).2 :=
  ((Honest.collect piece (Lines.read_honest h fun _ _ _ _ => trivial) n (c.whole d)).keeps
    ⟨hs, fun _ => trivial⟩).1

theorem readLine_keeps {P : Decoding × Lower δ → Prop}
    (h : Closes P (fun _ => True) (CharSource.fetch (σ := Decoding × Lower δ))) (blocking : Bool)
    (d : δ) (hs : P (c.whole d).2) :
    P ((c.readLine blocking d).2.1.whole (c.readLine blocking d).2.2).2 :=
  ((Lines.readLine_honest h (fun _ _ _ _ => trivial) blocking (c.whole d)).keeps
    ⟨hs, fun _ => trivial⟩).1

/-- So is what is kept where the decoding asks for bytes. -/
theorem closes_decoded {P : ReadAhead × Cutoff × δ → Prop}
    (h : Closes P (fun _ => True) (ByteSource.fetch (σ := ReadAhead × Cutoff × δ))) :
    Closes (fun s : Decoding × Lower δ => P s.2.2) (fun _ => True)
      (CharSource.fetch (σ := Decoding × Lower δ)) :=
  fun n s => ⟨fun hs => ((Decoding.closes h n s).keeps ⟨hs, fun _ => trivial⟩).1, fun _ => trivial,
    fun _ _ => trivial⟩

/-- And where bytes are read around it. -/
theorem readBytes_keeps {P : ReadAhead × Cutoff × δ → Prop}
    (h : Closes P (fun _ => True) (ByteSource.fetch (σ := ReadAhead × Cutoff × δ))) (n : Nat) (d : δ)
    (hs : P (c.lower d).2) : P ((c.readBytes n d).2.1.lower (c.readBytes n d).2.2).2 := by
  obtain ⟨g, -, hr⟩ := c.readBytes_around n d
  have hclose : Closes (Below P) (Below fun _ => True) (ByteSource.fetch (σ := Lower δ)) :=
    Rewind.closes h
  rw [hr]
  exact (Honest.collect piece hclose.run
    (n - ((c.lines.pending.take n).map Encoding.lowByte).length) (c.lower d)).keeps hs

theorem closes_tuning (e : Encoding) (t : (Nat × Buffering × Bool) × UInt8) :
    Closes (fun s : Decoding × Lower δ => s.1.encoding = e ∧ tuningLower s.2.2 = t) (fun _ => True)
      (CharSource.fetch (σ := Decoding × Lower δ)) := by
  intro n s
  refine ⟨fun hs => ⟨(Decoding.steady_encoding n s).trans hs.1, ?_⟩, fun _ => trivial,
    fun _ _ => trivial⟩
  exact (closes_decoded (steady_lower.closes t) n s).keeps hs.2

theorem tuning_readText (n : Nat) (d : δ) : (c.readText n d).2.1.tuning = c.tuning := by
  have htranslation : (c.readText n d).2.1.lines.translation = c.lines.translation :=
    (Honest.collect (P := fun s : Whole δ => s.1.translation = c.lines.translation)
      (E := fun _ => True) piece
      (fun n s => ⟨fun hs => (Lines.read_translation n s).trans hs, fun _ => trivial,
        fun _ _ => trivial⟩) n (c.whole d)).keeps rfl
  obtain ⟨hencoding, hlower⟩ := readText_keeps (c := c) (closes_tuning _ _) n d ⟨rfl, rfl⟩
  exact Prod.ext htranslation (Prod.ext hencoding hlower)

theorem tuning_readLine (blocking : Bool) (d : δ) :
    (c.readLine blocking d).2.1.tuning = c.tuning := by
  have htranslation := Lines.readLine_translation blocking (c.whole d)
  obtain ⟨hencoding, hlower⟩ := readLine_keeps (c := c) (closes_tuning _ _) blocking d ⟨rfl, rfl⟩
  exact Prod.ext htranslation (Prod.ext hencoding hlower)

theorem tuning_readBytes (n : Nat) (d : δ) : (c.readBytes n d).2.1.tuning = c.tuning := by
  have hlower := readBytes_keeps (c := c) (steady_lower.closes (tuningLower (c.lower d).2)) n d rfl
  obtain ⟨g, hg, hr⟩ := c.readBytes_around n d
  have hencoding : g.encoding = c.decoding.encoding := by
    rcases hg with rfl | rfl <;> rfl
  rw [hr] at hlower ⊢
  exact Prod.ext rfl (Prod.ext hencoding hlower)

/-- The decoder stays one for the encoding. -/
theorem equipment_readText (n : Nat) (d : δ) :
    (c.readText n d).2.1.decoding.equipment = c.decoding.equipment :=
  readText_keeps (Decoding.steady_equipment.closes _) n d rfl

theorem equipment_readLine (blocking : Bool) (d : δ) :
    (c.readLine blocking d).2.1.decoding.equipment = c.decoding.equipment :=
  readLine_keeps (Decoding.steady_equipment.closes _) blocking d rfl

theorem equipment_readBytes (n : Nat) (d : δ) :
    (c.readBytes n d).2.1.decoding.equipment = c.decoding.equipment := by
  obtain ⟨g, hg, hr⟩ := c.readBytes_around n d
  rw [hr]
  rcases hg with rfl | rfl <;> rfl

end Chain

end ScriptChannel.Input
