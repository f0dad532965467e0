import ScriptChannel.Charset.Utf8
import ScriptChannel.Charset.Utf16
import ScriptChannel.Charset.Page
import ScriptChannel.Charset.ShiftJis
import ScriptChannel.Charset.EucJp
import ScriptChannel.Charset.Iso2022Jp
import ScriptChannel.Charset.Gb
import ScriptChannel.Charset.Big5
import ScriptChannel.Charset.EucKr

/-!
# Standard character sets

The sets that a label can name. `userDefined` puts the upper bytes into private use. `replaced`
stands for retired sets: any bytes at all read as one replacement character, and text is written as
UTF-8.
-/

namespace ScriptChannel

inductive Charset
  | utf8
  | utf16 (order : Charset.Utf16.ByteOrder)
  | page (page : Charset.Page)
  | userDefined
  | shiftJis
  | eucJp
  | iso2022Jp
  | gbk
  | gb18030
  | big5
  | eucKr
  | replaced
  deriving DecidableEq, Repr

namespace Charset

def name : Charset → String
  | utf8 => "UTF-8"
  | utf16 .little => "UTF-16LE"
  | utf16 .big => "UTF-16BE"
  | page p => p.name
  | userDefined => "x-user-defined"
  | shiftJis => "Shift_JIS"
  | eucJp => "EUC-JP"
  | iso2022Jp => "ISO-2022-JP"
  | gbk => "GBK"
  | gb18030 => "gb18030"
  | big5 => "Big5"
  | eucKr => "EUC-KR"
  | replaced => "replacement"

def isUtf16 : Charset → Bool
  | utf16 _ => true
  | _ => false

/-- The byte order mark that belongs to the set. -/
def mark? : Charset → Option (List UInt8)
  | utf8 => some [0xEF, 0xBB, 0xBF]
  | utf16 .little => some [0xFF, 0xFE]
  | utf16 .big => some [0xFE, 0xFF]
  | _ => none

/-- The sets that have a byte order mark. -/
def marked : List Charset := [utf8, utf16 .little, utf16 .big]

/-- The set whose byte order mark stands at the front. -/
def ofMark? (bs : List UInt8) : Option Charset :=
  marked.find? fun c => (c.mark?.getD []).isPrefixOf bs

/-- More bytes could make these a byte order mark, of whichever set. -/
def couldBecomeMark (bs : List UInt8) : Bool :=
  marked.any fun c =>
    let mark := c.mark?.getD []
    bs.length < mark.length && bs.isPrefixOf mark

end Charset

end ScriptChannel
