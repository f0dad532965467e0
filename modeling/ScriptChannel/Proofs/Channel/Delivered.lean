import Mathlib.Data.List.Basic
import ScriptChannel.Proofs.Channel.Reading

/-!
# What a run of reads delivers

The text of a run is what its reads append, one after the other, failed ones included; a line that
was completed counts with its newline. What a run delivers and what is to come afterwards are what
was to come before it.
-/

namespace ScriptChannel.Channel
variable {δ : Type}

/-- Serves requests one after the other, each with a destination of its own. -/
def serve [Transport δ] : List (ReadKind × Data) → Channel δ → List Reading × Channel δ
  | [], ch => ([], ch)
  | (kind, dst) :: requests, ch =>
    let r := read kind dst ch
    let rs := serve requests r.2
    (r.1 :: rs.1, rs.2)

variable [Transport δ] [InputDevice δ]

theorem serve_keeps {ch : Channel δ} (h : ch.Readable) (requests : List (ReadKind × Data)) :
    (ch.serve requests).2.Readable ∧ (ch.serve requests).2.settings = ch.settings := by
  induction requests generalizing ch with
  | nil => exact ⟨h, rfl⟩
  | cons request requests ih =>
    obtain ⟨hread, hsettings⟩ := read_keeps h request.1 request.2
    obtain ⟨hserve, hsame⟩ := ih hread
    exact ⟨hserve, hsame.trans hsettings⟩

/-- The newline that a completed line is handed out without. -/
def dropped (kind : ReadKind) (ch : Channel δ) : List Char :=
  match kind, ch.ended, ch.lineStop with
  | .line, false, .newline => ['\n']
  | _, _, _ => []

/-- What a read appends, with the newline of a completed line. -/
def brought (kind : ReadKind) (dst : Data) (ch : Channel δ) : List Char :=
  (read kind dst ch).1.data.chars.drop dst.chars.length ++ ch.dropped kind

/-- The text of a run. -/
def delivered : List (ReadKind × Data) → Channel δ → List Char
  | [], _ => []
  | (kind, dst) :: requests, ch => ch.brought kind dst ++ delivered requests (read kind dst ch).2

/-- The run has met the end. -/
def Exhausts (requests : List (ReadKind × Data)) (ch : Channel δ) : Prop :=
  ∃ r ∈ (ch.serve requests).1, r.status = .ok .ended

instance (requests : List (ReadKind × Data)) (ch : Channel δ) : Decidable (ch.Exhausts requests) :=
  inferInstanceAs (Decidable (∃ r ∈ (ch.serve requests).1, r.status = .ok .ended))

/-- What one read leaves as it was, and what becomes of what was to come. -/
structure Brings (text : List Char) (r : Reading) (ch ch' : Channel δ) : Prop where
  readable : ch'.Readable
  settings : ch'.settings = ch.settings
  units : ch.coming.units = text ++ ch'.coming.units
  nothing : r.status = .ok .ended → ch'.coming.units = []

omit [InputDevice δ] in
theorem dropped_of_wanted {kind : ReadKind} {n : Nat} (hk : wanted kind = some n) (ch : Channel δ) :
    ch.dropped kind = [] := by
  cases kind with
  | line => simp [wanted] at hk
  | all | units => rfl

/-- A run for units, as far as units go. -/
theorem units_of_run {us : List Char} {halt : Halt} {xs ys : Coming Char}
    (h : Input.Lines.Run us halt xs ys) : xs.units = us ++ ys.units := by
  obtain ⟨htakes, hend⟩ := h
  cases halt with
  | served | wouldBlock | failed => simpa using htakes.units
  | ended => simpa [hend rfl] using htakes.units

theorem statusOf_eq_ended {n : Nat} {halt : Halt} (h : statusOf n halt = .ok .ended) :
    halt = .ended := by
  cases halt <;> simp_all [statusOf]

theorem lineReading_eq_ended {e : Encoding} {dst : Data} {l : Input.LineRead}
    (h : (lineReading e dst l).status = .ok .ended) : l = .ended := by
  cases l <;> simp_all [lineReading]

theorem brings_units {ch : Channel δ} (h : ch.Readable) (he : ch.ended = false)
    (hb : ch.settings.encoding.isBinary = false) {kind : ReadKind} {n : Nat}
    (hk : wanted kind = some n) (dst : Data) :
    Brings (ch.brought kind dst) (read kind dst ch).1 ch (read kind dst ch).2 := by
  obtain ⟨us, halt, hrun, -, hread, hafter⟩ := read_units h he hb hk dst
  have hbrought : ch.brought kind dst = us := by
    simp [brought, dropped_of_wanted hk, hread, Data.appendText, Data.chars]
  refine ⟨hafter.readable, hafter.settings, ?_, ?_⟩
  · rw [hbrought]
    exact units_of_run hrun
  · intro hstatus
    rw [hread] at hstatus
    rw [hrun.2 (statusOf_eq_ended hstatus)]
    rfl

theorem brings_line {ch : Channel δ} (h : ch.Readable) (he : ch.ended = false)
    (hb : ch.settings.encoding.isBinary = false) (dst : Data) :
    Brings (ch.brought .line dst) (read .line dst ch).1 ch (read .line dst ch).2 := by
  obtain ⟨l, hdel, -, hread, hafter, -⟩ := read_line h he dst
  have hline : ∀ cs, (lineReading ch.settings.encoding dst (.line cs)).data.chars =
      dst.chars ++ cs := fun cs => by simp [lineReading, hb, Data.appendText, Data.chars]
  refine ⟨hafter.readable, hafter.settings, ?_, ?_⟩
  · simp only [brought, dropped, hread, he]
    generalize (read .line dst ch).2.coming = ys at hdel
    cases hstop : ch.lineStop with
    | newline =>
      rw [hstop] at hdel
      obtain ⟨cs, rfl, hpast⟩ := hdel
      simpa [hline] using hpast.units
    | ended =>
      rw [hstop] at hdel
      obtain ⟨rfl, ⟨cs, rfl, -, hpast⟩ | ⟨rfl, hpast⟩⟩ := hdel
      · simpa [hline] using hpast.units
      · simpa [lineReading] using hpast.units
    | wouldBlock =>
      rw [hstop] at hdel
      obtain ⟨rfl, hsame⟩ := hdel
      rw [← Coming.units_patient, hsame, Coming.units_patient]
      simp [lineReading]
    | failed e =>
      rw [hstop] at hdel
      obtain ⟨rfl, as, bs, hx, hy⟩ := hdel
      rw [← Coming.units_patient, hx, ← Coming.units_patient ys, hy]
      simp [lineReading]
  · intro hstatus
    rw [hread] at hstatus
    obtain rfl := lineReading_eq_ended hstatus
    cases hstop : ch.lineStop with
    | ended =>
      rw [hstop] at hdel
      rw [hdel.1]
      rfl
    | newline =>
      rw [hstop] at hdel
      obtain ⟨cs, hcs, -⟩ := hdel
      simp at hcs
    | wouldBlock | failed =>
      rw [hstop] at hdel
      exact absurd hdel.1 (by simp)

/-- What a read of text brings comes off what is to come. -/
theorem read_brings {ch : Channel δ} (h : ch.Readable) (hb : ch.settings.encoding.isBinary = false)
    (kind : ReadKind) (dst : Data) :
    Brings (ch.brought kind dst) (read kind dst ch).1 ch (read kind dst ch).2 := by
  by_cases he : ch.ended = true
  · have hnone : ch.brought kind dst = [] := by
      rw [brought, read_ended h he]
      cases kind <;> simp [dropped, he]
    rw [hnone, read_ended h he]
    exact ⟨h, rfl, rfl, fun _ => by simp [coming, he]⟩
  · have he : ch.ended = false := Bool.eq_false_iff.2 he
    cases kind with
    | all => exact brings_units h he hb rfl dst
    | units n => exact brings_units h he hb rfl dst
    | line => exact brings_line h he hb dst

/-- What a run of reads of text delivers comes off what is to come. -/
theorem units_coming_eq_delivered {ch : Channel δ} (h : ch.Readable)
    (hb : ch.settings.encoding.isBinary = false) (requests : List (ReadKind × Data)) :
    ch.coming.units = ch.delivered requests ++ (ch.serve requests).2.coming.units := by
  induction requests generalizing ch with
  | nil => rfl
  | cons request requests ih =>
    obtain ⟨kind, dst⟩ := request
    have hbrings := read_brings h hb kind dst
    have hrest := ih hbrings.readable (by rw [hbrings.settings, hb])
    rw [hbrings.units, hrest, ← List.append_assoc]
    rfl

/-- A run that meets the end delivers all that was to come. -/
theorem delivered_of_exhausts {ch : Channel δ} (h : ch.Readable)
    (hb : ch.settings.encoding.isBinary = false) {requests : List (ReadKind × Data)}
    (hr : ch.Exhausts requests) : ch.delivered requests = ch.coming.units := by
  induction requests generalizing ch with
  | nil =>
    obtain ⟨r, hmem, -⟩ := hr
    simp [serve] at hmem
  | cons request requests ih =>
    obtain ⟨kind, dst⟩ := request
    have hbrings := read_brings h hb kind dst
    have hb' : (read kind dst ch).2.settings.encoding.isBinary = false := by rw [hbrings.settings, hb]
    rw [hbrings.units]
    simp only [delivered]
    congr 1
    obtain ⟨r, hmem, hstatus⟩ := hr
    rcases List.mem_cons.1 hmem with rfl | hmem
    · have hnil := hbrings.nothing hstatus
      have hrest := units_coming_eq_delivered hbrings.readable hb' requests
      rw [hnil] at hrest ⊢
      exact (List.append_eq_nil_iff.1 hrest.symm).1
    · exact ih hbrings.readable hb' ⟨r, hmem, hstatus⟩

end ScriptChannel.Channel
