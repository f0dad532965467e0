import ScriptChannel.Proofs.Output.Durability
import ScriptChannel.Proofs.Refusing

/-!
# No character for an encoder that was ended

An encoder that has been told that its input was the last must not be used again. The output side here
refuses such a use. It is never refused: whoever ends the encoder puts a new one in its place at once, in
the same call.
-/

namespace ScriptChannel.Output
variable {o : Output}

/-- Gives characters to the encoder, unless it was told the end. -/
def encode? (o : Output) (cs : List Char) : Option Output :=
  if o.encoder.spent then none else some (o.encode cs)

/-- Tells the encoder the end, unless it was told before. -/
def endEncoder? (o : Output) : Option Output :=
  if o.encoder.spent then none else some o.endEncoder

def finishEncoder? (o : Output) : Option Output := o.endEncoder?.map renewEncoder

def setEncoding? (o : Output) (e : Encoding) : Option Output :=
  o.finishEncoder?.map fun o => { o with encoding := e, encoder := e.encoder }

theorem spent_encode (o : Output) (cs : List Char) :
    (o.encode cs).encoder.spent = o.encoder.spent :=
  o.encoder.spent_feed Encoding.questionMark cs

theorem encode?_granted (h : o.encoder.spent = false) (cs : List Char) :
    o.encode? cs = some (o.encode cs) := by
  simp [encode?, h]

/-- The end is told to an encoder that is put away at once. -/
theorem finishEncoder?_granted (h : o.encoder.spent = false) :
    o.finishEncoder? = some o.finishEncoder := by
  simp [finishEncoder?, endEncoder?, h, finishEncoder]

theorem setEncoding?_granted (h : o.encoder.spent = false) (e : Encoding) :
    o.setEncoding? e = some (o.setEncoding e) := by
  simp [setEncoding?, finishEncoder?_granted h, setEncoding]

section Device
variable {δ : Type} [RawWriter δ] {d : δ}

def write? (p : Payload) (o : Output) (d : δ) : Option (Except IoError Unit × Output × δ) := do
  let o ← o.encode? (translate o.translation p.chars)
  some (if o.isDue (p.chars.contains '\n') then o.flush d else (.ok (), o, d))

def close? (o : Output) (d : δ) : Option (Except IoError Unit × Output × δ) :=
  if o.closed then some (.ok (), o, d)
  else do
    let o ← o.finishEncoder?
    let o := { o with closed := true }
    some ((if o.marker = 0 then o else { o with buffer := o.buffer ++ [o.marker] }).flush d)

/-- The encoder has no part in handing over the buffer. -/
theorem spent_flush (o : Output) (d : δ) : (o.flush d).2.1.encoder.spent = o.encoder.spent :=
  congrArg (fun q => q.encoder.spent) (o.flush_pen d)

theorem write?_granted (h : o.encoder.spent = false) (p : Payload) :
    write? p o d = some (o.write p d) ∧ (o.write p d).2.1.encoder.spent = false := by
  refine ⟨by simp [write?, encode?_granted h, write], ?_⟩
  have hencode : (o.encode (translate o.translation p.chars)).encoder.spent = false :=
    (o.spent_encode _).trans h
  simp only [write]
  split
  · exact (spent_flush _ d).trans hencode
  · exact hencode

theorem close?_granted (h : o.encoder.spent = false) :
    o.close? d = some (o.close d) ∧ (o.close d).2.1.encoder.spent = false := by
  simp only [close?, close, finishEncoder?_granted h, Option.bind_eq_bind, Option.bind_some]
  split
  · exact ⟨rfl, h⟩
  · refine ⟨rfl, (spent_flush _ d).trans ?_⟩
    split <;> exact o.encoding.spent_encoder

end Device

namespace Act
variable {δ : Type} [RawWriter δ]

/-- The answer to a call, and what the call leads to. -/
def answer (a : Act) (s : Output × δ) : List (Except IoError Unit) × Output × δ :=
  let r := a.perform s
  ([r.1], r.2)

/-- Writing and closing, and a new encoding, make use of the encoder, and no other call does. -/
def answer? : Act → Output × δ → Option (List (Except IoError Unit) × Output × δ)
  | op (.write p), (o, d) => (write? p o d).map fun r => ([r.1], r.2)
  | op (.setEncoding e), (o, d) => (o.setEncoding? e).map fun o => ([.ok ()], o, d)
  | close, (o, d) => (o.close? d).map fun r => ([r.1], r.2)
  | op a, s => some ((op a).answer s)

/-- The encoder at hand may be used, and so may the one that the call leaves. -/
theorem answer?_granted (a : Act) {s : Output × δ} (h : s.1.encoder.spent = false) :
    a.answer? s = some (a.answer s) ∧ (a.answer s).2.1.encoder.spent = false := by
  obtain ⟨o, d⟩ := s
  cases a with
  | close =>
    obtain ⟨hgranted, hspent⟩ := close?_granted (d := d) h
    exact ⟨by simp [answer?, answer, perform, hgranted], hspent⟩
  | op a =>
    cases a with
    | write p =>
      obtain ⟨hgranted, hspent⟩ := write?_granted (d := d) h p
      exact ⟨by simp [answer?, answer, perform, Op.perform, hgranted], hspent⟩
    | setEncoding e =>
      exact ⟨by simp [answer?, answer, perform, Op.perform, setEncoding?_granted h], e.spent_encoder⟩
    | flush => exact ⟨rfl, (o.spent_flush d).trans h⟩
    | setTranslation | setBuffering | setBufferSize => exact ⟨rfl, h⟩

/-- No call of any run is refused, and none leaves an encoder that was told the end. -/
theorem askAll?_answer (acts : List Act) {s : Output × δ} (h : s.1.encoder.spent = false) :
    askAll? answer? acts s = some (askAll answer acts s) ∧
      (askAll answer acts s).2.1.encoder.spent = false :=
  askAll?_granted (P := fun s : Output × δ => s.1.encoder.spent = false)
    (fun a _ h => a.answer?_granted h) acts h

end Act

end ScriptChannel.Output
