import ScriptChannel.Channel.Configure

/-!
# Channel options

The settings of a channel as a document has them: by names, and any of them may be missing. A
document is a record with the options' names for keys, whatever else is in it, or a list of their
values in order.
-/

namespace ScriptChannel

/-- A document, as far as options can tell documents apart. -/
inductive Document
  | null
  | bool (value : Bool)
  | integer (value : Int)
  /-- A number with a fraction or an exponent. -/
  | fraction
  | text (value : String)
  | list (items : List Document)
  | record (fields : List (String × Document))
  deriving Inhabited

structure Options where
  blocking : Bool
  buffering : Buffering
  bufferSize : Nat
  /-- The name of the encoding; none for a binary channel. -/
  encoding : Option String
  inputTranslation : Translation
  outputTranslation : Translation
  inputMarker : UInt8
  outputMarker : UInt8
  deriving DecidableEq, Repr

namespace Options

def defaultEncoding : String := "utf-8"

def default : Options :=
  ⟨true, .full, Settings.defaultBufferSize, some defaultEncoding, .auto, .platform, 0, 0⟩

instance : Inhabited Options := ⟨default⟩

/-- Raw bytes both ways. -/
def binary : Options :=
  { default with encoding := none, inputTranslation := .binary, outputTranslation := .binary }

section OfDocument

def bool? : Document → Option Bool
  | .bool b => some b
  | _ => none

/-- A number below `bound`. -/
def below? (bound : Nat) : Document → Option Nat
  | .integer n => if 0 ≤ n ∧ n < bound then some n.toNat else none
  | _ => none

def byte? (d : Document) : Option UInt8 := (below? 256 d).map .ofNat

/-- A name, alone or as the only key of a record, with nothing under it. -/
def name? : Document → Option String
  | .text s => some s
  | .record [(s, .null)] => some s
  | _ => none

/-- A text that may be null. -/
def textOrNull? : Document → Option (Option String)
  | .null => some none
  | .text s => some (some s)
  | _ => none

/-- The options in order: each with its name and what its value makes of the options. -/
def readers : List (String × (Document → Options → Option Options)) :=
  [("blocking", fun d o => (bool? d).map ({ o with blocking := · })),
    ("buffering", fun d o => ((name? d).bind Buffering.ofName?).map ({ o with buffering := · })),
    ("buffer-size", fun d o => (below? UInt64.size d).map ({ o with bufferSize := · })),
    ("encoding", fun d o => (textOrNull? d).map ({ o with encoding := · })),
    ("input-translation",
      fun d o => ((name? d).bind Translation.ofName?).map ({ o with inputTranslation := · })),
    ("output-translation",
      fun d o => ((name? d).bind Translation.ofName?).map ({ o with outputTranslation := · })),
    ("input-eof-char", fun d o => (byte? d).map ({ o with inputMarker := · })),
    ("output-eof-char", fun d o => (byte? d).map ({ o with outputMarker := · }))]

/-- The options of a document; a missing one has its default. -/
def ofDocument? : Document → Option Options
  | .list items =>
    if items.length ≤ readers.length then
      (items.zip readers).foldlM (fun o p => p.2.2 p.1 o) default
    else none
  | .record fields =>
    readers.foldlM (fun o r => match fields.lookup r.1 with
      | some d => r.2 d o
      | none => some o) default
  | _ => none

end OfDocument

end Options

/-- A fresh channel with options, unless one of them is refused. -/
def Channel.ofOptions {δ : Type} (d : δ) (m : OpenMode) (o : Options) :
    Except ChannelError (Channel δ) :=
  match (Channel.init d m).setEncoding o.encoding with
  | (.error e, _) => .error e
  | (.ok (), ch) =>
    match ch.setBufferSize o.bufferSize with
    | (.error e, _) => .error e
    | (.ok (), ch) =>
      .ok ((((((ch.setBuffering o.buffering).setBlocking o.blocking).setInputTranslation
        o.inputTranslation).setOutputTranslation o.outputTranslation).setInputMarker
        o.inputMarker).setOutputMarker o.outputMarker)

end ScriptChannel
