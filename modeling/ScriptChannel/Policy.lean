/-!
# Line endings and buffering

The two settings that a script chooses by name. A line ending setting means different things on the
two sides of a channel: on input `auto` settles on the first ending found, on output it is the
native ending, as `platform` is on both. The native ending is the line feed.
-/

namespace ScriptChannel

/-- A setting's name that stands for nothing. -/
structure UnknownName where
  setting : String
  name : String
  deriving DecidableEq, Repr

def UnknownName.message (e : UnknownName) : String :=
  s!"bad {e.setting} \"{e.name}\""

/-- How line endings are carried over between the device and the script. -/
inductive Translation
  | auto
  | lf
  | cr
  | crlf
  | binary
  | platform
  deriving DecidableEq, Repr, Inhabited

namespace Translation

/-- The ending of the platform. -/
def native : Translation := lf

def name : Translation → String
  | auto => "auto"
  | lf => "lf"
  | cr => "cr"
  | crlf => "crlf"
  | binary => "binary"
  | platform => "platform"

def all : List Translation := [auto, lf, cr, crlf, binary, platform]

/-- Names are matched letter by letter. -/
def ofName? (s : String) : Option Translation :=
  all.find? (·.name == s)

def ofName (s : String) : Except UnknownName Translation :=
  match ofName? s with
  | some t => .ok t
  | none => .error ⟨"translation", s⟩

/-- What a newline becomes on output. -/
def ending : Translation → List Char
  | auto | platform | lf | binary => ['\n']
  | cr => ['\r']
  | crlf => ['\r', '\n']

end Translation

/-- When bytes are gathered before they are handed on. -/
inductive Buffering
  /-- As many as the buffer holds. -/
  | full
  /-- Up to the end of a line. -/
  | line
  /-- Not at all. -/
  | none
  deriving DecidableEq, Repr

namespace Buffering

def name : Buffering → String
  | full => "full"
  | line => "line"
  | none => "none"

/-- The debug form. -/
def debug : Buffering → String
  | full => "Full"
  | line => "Line"
  | none => "None"

instance : Inhabited Buffering := ⟨full⟩

def all : List Buffering := [full, line, none]

/-- Names are matched letter by letter. -/
def ofName? (s : String) : Option Buffering :=
  all.find? (·.name == s)

def ofName (s : String) : Except UnknownName Buffering :=
  match ofName? s with
  | some b => .ok b
  | .none => .error ⟨"buffering", s⟩

end Buffering

end ScriptChannel
