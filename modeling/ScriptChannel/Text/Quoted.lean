import ScriptChannel.Text.Unprintable

/-!
# Quoted text

A text between double quotes, with a backslash before a quote and before a backslash, the usual
letters for the common controls, and numbers for what cannot be shown.
-/

namespace ScriptChannel.Text

/-- A character by its number in lower-case hexadecimal. -/
def numbered (c : Char) : List Char :=
  ['\\', 'u', '\x7b'] ++ Nat.toDigits 16 c.toNat ++ ['\x7d']

/-- A character within quotes. -/
def escaped (c : Char) : List Char :=
  match c with
  | '\x00' => ['\\', '0']
  | '\t' => ['\\', 't']
  | '\r' => ['\\', 'r']
  | '\n' => ['\\', 'n']
  | '\\' => ['\\', '\\']
  | '"' => ['\\', '"']
  | c => if isUnprintable c then numbered c else [c]

def quoted (s : String) : String :=
  String.ofList (['"'] ++ s.toList.flatMap escaped ++ ['"'])

/-- The debug form of a text that may be missing. -/
def quotedOption : Option String → String
  | some s => s!"Some({quoted s})"
  | none => "None"

end ScriptChannel.Text
