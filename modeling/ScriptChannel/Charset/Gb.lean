import ScriptChannel.Charset.Scan
import ScriptChannel.Charset.Cells.Gb18030

/-!
# GB 18030 and GBK

Two bytes are a cell; four, alternating between high bytes and digits, are a pointer into ranges that
hold every other code point, and a few that have a cell by now. Both sets read all of it, and write a
cell where there is one. GBK writes no four bytes and has a single byte for the euro sign.
-/

namespace ScriptChannel.Charset.Gb

/-- A cell by its two bytes. -/
def cell (lead trail first count : Nat) : Stretch :=
  ⟨190 * (lead - 0x81) + (trail - if trail < 0x7F then 0x40 else 0x41), first, count⟩

/-- The cells of private code points. -/
def reserved : Index :=
  [cell 0xA1 0x40 0xE4C6 96, cell 0xA2 0x40 0xE526 96, cell 0xA2 0xAB 0xE766 6,
    cell 0xA2 0xE4 0xE76D 1, cell 0xA2 0xEF 0xE76E 2, cell 0xA2 0xFD 0xE770 2,
    cell 0xA3 0x40 0xE586 95, cell 0xA4 0x40 0xE5E6 96, cell 0xA4 0xF4 0xE772 11,
    cell 0xA5 0x40 0xE646 96, cell 0xA5 0xF7 0xE77D 8, cell 0xA6 0x40 0xE6A6 96,
    cell 0xA6 0xB9 0xE785 8, cell 0xA6 0xF6 0xE797 9, cell 0xA7 0x40 0xE706 96,
    cell 0xA7 0xC2 0xE7A0 15, cell 0xA7 0xF2 0xE7AF 13, cell 0xA8 0x96 0xE7BC 11,
    cell 0xA8 0xC1 0xE7C9 4, cell 0xA8 0xEA 0xE7CD 21, cell 0xA9 0x58 0xE7E2 1,
    cell 0xA9 0x5B 0xE7E3 1, cell 0xA9 0x5D 0xE7E4 3, cell 0xA9 0x97 0xE7F4 13,
    cell 0xA9 0xF0 0xE801 15, cell 0xAA 0xA1 0xE000 94, cell 0xAB 0xA1 0xE05E 94,
    cell 0xAC 0xA1 0xE0BC 94, cell 0xAD 0xA1 0xE11A 94, cell 0xAE 0xA1 0xE178 94,
    cell 0xAF 0xA1 0xE1D6 94, cell 0xD7 0xFA 0xE810 5, cell 0xF8 0xA1 0xE234 94,
    cell 0xF9 0xA1 0xE292 94, cell 0xFA 0xA1 0xE2F0 94, cell 0xFB 0xA1 0xE34E 94,
    cell 0xFC 0xA1 0xE3AC 94, cell 0xFD 0xA1 0xE40A 94, cell 0xFE 0x51 0xE816 3,
    cell 0xFE 0x6C 0xE831 1, cell 0xFE 0x76 0xE83B 1, cell 0xFE 0x91 0xE855 1,
    cell 0xFE 0xA1 0xE468 94]

/-- Private code points that stood in some of these cells before the characters proper were coded.
They are still written there, but no longer read. -/
def former : Index :=
  [cell 0xA6 0xD9 0xE78D 7, cell 0xA6 0xEC 0xE794 2, cell 0xA6 0xF3 0xE796 1,
    cell 0xFE 0x59 0xE81E 1, cell 0xFE 0x61 0xE826 1, cell 0xFE 0x66 0xE82B 2,
    cell 0xFE 0x6D 0xE832 1, cell 0xFE 0x7E 0xE843 1, cell 0xFE 0x90 0xE854 1,
    cell 0xFE 0xA0 0xE864 1]

/-- The four-byte ranges. -/
def ranges : Index :=
  [⟨0, 0x80, 36⟩, ⟨36, 0xA5, 2⟩, ⟨38, 0xA9, 7⟩, ⟨45, 0xB2, 5⟩, ⟨50, 0xB8, 31⟩, ⟨81, 0xD8, 8⟩,
   ⟨89, 0xE2, 6⟩, ⟨95, 0xEB, 1⟩, ⟨96, 0xEE, 4⟩, ⟨100, 0xF4, 3⟩, ⟨103, 0xF8, 1⟩, ⟨104, 0xFB, 1⟩,
   ⟨105, 0xFD, 4⟩, ⟨109, 0x102, 17⟩, ⟨126, 0x114, 7⟩, ⟨133, 0x11C, 15⟩, ⟨148, 0x12C, 24⟩,
   ⟨172, 0x145, 3⟩, ⟨175, 0x149, 4⟩, ⟨179, 0x14E, 29⟩, ⟨208, 0x16C, 98⟩, ⟨306, 0x1CF, 1⟩,
   ⟨307, 0x1D1, 1⟩, ⟨308, 0x1D3, 1⟩, ⟨309, 0x1D5, 1⟩, ⟨310, 0x1D7, 1⟩, ⟨311, 0x1D9, 1⟩,
   ⟨312, 0x1DB, 1⟩, ⟨313, 0x1DD, 28⟩, ⟨341, 0x1FA, 87⟩, ⟨428, 0x252, 15⟩, ⟨443, 0x262, 101⟩,
   ⟨544, 0x2C8, 1⟩, ⟨545, 0x2CC, 13⟩, ⟨558, 0x2DA, 183⟩, ⟨741, 0x3A2, 1⟩, ⟨742, 0x3AA, 7⟩,
   ⟨749, 0x3C2, 1⟩, ⟨750, 0x3CA, 55⟩, ⟨805, 0x402, 14⟩, ⟨819, 0x450, 1⟩, ⟨820, 0x452, 6637⟩,
   ⟨7457, 0xE7C7, 1⟩, ⟨7458, 0x1E40, 464⟩, ⟨7922, 0x2011, 2⟩, ⟨7924, 0x2017, 1⟩,
   ⟨7925, 0x201A, 2⟩, ⟨7927, 0x201E, 7⟩, ⟨7934, 0x2027, 9⟩, ⟨7943, 0x2031, 1⟩, ⟨7944, 0x2034, 1⟩,
   ⟨7945, 0x2036, 5⟩, ⟨7950, 0x203C, 112⟩, ⟨8062, 0x20AD, 86⟩, ⟨8148, 0x2104, 1⟩,
   ⟨8149, 0x2106, 3⟩, ⟨8152, 0x210A, 12⟩, ⟨8164, 0x2117, 10⟩, ⟨8174, 0x2122, 62⟩,
   ⟨8236, 0x216C, 4⟩, ⟨8240, 0x217A, 22⟩, ⟨8262, 0x2194, 2⟩, ⟨8264, 0x219A, 110⟩,
   ⟨8374, 0x2209, 6⟩, ⟨8380, 0x2210, 1⟩, ⟨8381, 0x2212, 3⟩, ⟨8384, 0x2216, 4⟩, ⟨8388, 0x221B, 2⟩,
   ⟨8390, 0x2221, 2⟩, ⟨8392, 0x2224, 1⟩, ⟨8393, 0x2226, 1⟩, ⟨8394, 0x222C, 2⟩, ⟨8396, 0x222F, 5⟩,
   ⟨8401, 0x2238, 5⟩, ⟨8406, 0x223E, 10⟩, ⟨8416, 0x2249, 3⟩, ⟨8419, 0x224D, 5⟩,
   ⟨8424, 0x2253, 13⟩, ⟨8437, 0x2262, 2⟩, ⟨8439, 0x2268, 6⟩, ⟨8445, 0x2270, 37⟩,
   ⟨8482, 0x2296, 3⟩, ⟨8485, 0x229A, 11⟩, ⟨8496, 0x22A6, 25⟩, ⟨8521, 0x22C0, 82⟩,
   ⟨8603, 0x2313, 333⟩, ⟨8936, 0x246A, 10⟩, ⟨8946, 0x249C, 100⟩, ⟨9046, 0x254C, 4⟩,
   ⟨9050, 0x2574, 13⟩, ⟨9063, 0x2590, 3⟩, ⟨9066, 0x2596, 10⟩, ⟨9076, 0x25A2, 16⟩,
   ⟨9092, 0x25B4, 8⟩, ⟨9100, 0x25BE, 8⟩, ⟨9108, 0x25C8, 3⟩, ⟨9111, 0x25CC, 2⟩, ⟨9113, 0x25D0, 18⟩,
   ⟨9131, 0x25E6, 31⟩, ⟨9162, 0x2607, 2⟩, ⟨9164, 0x260A, 54⟩, ⟨9218, 0x2641, 1⟩,
   ⟨9219, 0x2643, 2110⟩, ⟨11329, 0x2E82, 2⟩, ⟨11331, 0x2E85, 3⟩, ⟨11334, 0x2E89, 2⟩,
   ⟨11336, 0x2E8D, 10⟩, ⟨11346, 0x2E98, 15⟩, ⟨11361, 0x2EA8, 2⟩, ⟨11363, 0x2EAB, 3⟩,
   ⟨11366, 0x2EAF, 4⟩, ⟨11370, 0x2EB4, 2⟩, ⟨11372, 0x2EB8, 3⟩, ⟨11375, 0x2EBC, 14⟩,
   ⟨11389, 0x2ECB, 293⟩, ⟨11682, 0x2FFC, 4⟩, ⟨11686, 0x3004, 1⟩, ⟨11687, 0x3018, 5⟩,
   ⟨11692, 0x301F, 2⟩, ⟨11694, 0x302A, 20⟩, ⟨11714, 0x303F, 2⟩, ⟨11716, 0x3094, 7⟩,
   ⟨11723, 0x309F, 2⟩, ⟨11725, 0x30F7, 5⟩, ⟨11730, 0x30FF, 6⟩, ⟨11736, 0x312A, 246⟩,
   ⟨11982, 0x322A, 7⟩, ⟨11989, 0x3232, 113⟩, ⟨12102, 0x32A4, 234⟩, ⟨12336, 0x3390, 12⟩,
   ⟨12348, 0x339F, 2⟩, ⟨12350, 0x33A2, 34⟩, ⟨12384, 0x33C5, 9⟩, ⟨12393, 0x33CF, 2⟩,
   ⟨12395, 0x33D3, 2⟩, ⟨12397, 0x33D6, 113⟩, ⟨12510, 0x3448, 43⟩, ⟨12553, 0x3474, 298⟩,
   ⟨12851, 0x359F, 111⟩, ⟨12962, 0x360F, 11⟩, ⟨12973, 0x361B, 765⟩, ⟨13738, 0x3919, 85⟩,
   ⟨13823, 0x396F, 96⟩, ⟨13919, 0x39D1, 14⟩, ⟨13933, 0x39E0, 147⟩, ⟨14080, 0x3A74, 218⟩,
   ⟨14298, 0x3B4F, 287⟩, ⟨14585, 0x3C6F, 113⟩, ⟨14698, 0x3CE1, 885⟩, ⟨15583, 0x4057, 264⟩,
   ⟨15847, 0x4160, 471⟩, ⟨16318, 0x4338, 116⟩, ⟨16434, 0x43AD, 4⟩, ⟨16438, 0x43B2, 43⟩,
   ⟨16481, 0x43DE, 248⟩, ⟨16729, 0x44D7, 373⟩, ⟨17102, 0x464D, 20⟩, ⟨17122, 0x4662, 193⟩,
   ⟨17315, 0x4724, 5⟩, ⟨17320, 0x472A, 82⟩, ⟨17402, 0x477D, 16⟩, ⟨17418, 0x478E, 441⟩,
   ⟨17859, 0x4948, 50⟩, ⟨17909, 0x497B, 2⟩, ⟨17911, 0x497E, 4⟩, ⟨17915, 0x4984, 1⟩,
   ⟨17916, 0x4987, 20⟩, ⟨17936, 0x499C, 3⟩, ⟨17939, 0x49A0, 22⟩, ⟨17961, 0x49B8, 703⟩,
   ⟨18664, 0x4C78, 39⟩, ⟨18703, 0x4CA4, 111⟩, ⟨18814, 0x4D1A, 148⟩, ⟨18962, 0x4DAF, 81⟩,
   ⟨19043, 0x9FA6, 14426⟩, ⟨33469, 0xE76C, 1⟩, ⟨33470, 0xE7C8, 1⟩, ⟨33471, 0xE7E7, 13⟩,
   ⟨33484, 0xE815, 1⟩, ⟨33485, 0xE819, 5⟩, ⟨33490, 0xE81F, 7⟩, ⟨33497, 0xE827, 4⟩,
   ⟨33501, 0xE82D, 4⟩, ⟨33505, 0xE833, 8⟩, ⟨33513, 0xE83C, 7⟩, ⟨33520, 0xE844, 16⟩,
   ⟨33536, 0xE856, 14⟩, ⟨33550, 0xE865, 4295⟩, ⟨37845, 0xF92D, 76⟩, ⟨37921, 0xF97A, 27⟩,
   ⟨37948, 0xF996, 81⟩, ⟨38029, 0xF9E8, 9⟩, ⟨38038, 0xF9F2, 26⟩, ⟨38064, 0xFA10, 1⟩,
   ⟨38065, 0xFA12, 1⟩, ⟨38066, 0xFA15, 3⟩, ⟨38069, 0xFA19, 6⟩, ⟨38075, 0xFA22, 1⟩,
   ⟨38076, 0xFA25, 2⟩, ⟨38078, 0xFA2A, 1030⟩, ⟨39108, 0xFE32, 1⟩, ⟨39109, 0xFE45, 4⟩,
   ⟨39113, 0xFE53, 1⟩, ⟨39114, 0xFE58, 1⟩, ⟨39115, 0xFE67, 1⟩, ⟨39116, 0xFE6C, 149⟩,
   ⟨39265, 0xFF5F, 129⟩, ⟨39394, 0xFFE6, 26⟩, ⟨189000, 0x10000, 1048576⟩]

def isLead (b : UInt8) : Bool := 0x81 ≤ b.toNat && b.toNat ≤ 0xFE

def isDigit (b : UInt8) : Bool := 0x30 ≤ b.toNat && b.toNat ≤ 0x39

def pointer? (lead trail : Nat) : Option Nat :=
  if 0x40 ≤ trail ∧ trail ≤ 0xFE ∧ trail ≠ 0x7F then
    some (190 * (lead - 0x81) + (trail - if trail < 0x7F then 0x40 else 0x41))
  else none

/-- The character of a cell. -/
def char? (pointer : Nat) : Option Char :=
  (standard.char? pointer).or (reserved.char? pointer)

/-- The pointer of four bytes. -/
def wide (a b c d : UInt8) : Nat :=
  ((a.toNat - 0x81) * 10 + (b.toNat - 0x30)) * 1260 + (c.toNat - 0x81) * 10 + (d.toNat - 0x30)

def scan : List UInt8 → Scan
  | [] => .incomplete
  | a :: rest =>
    if a.toNat < 0x80 then .taken 1 [Char.ofNat a.toNat]
    else if a = 0x80 then .taken 1 ['\u20AC']
    else if isLead a then
      match rest with
      | [] => .incomplete
      | b :: rest =>
        if isDigit b then
          match rest with
          | [] => .incomplete
          | c :: rest =>
            if isLead c then
              match rest with
              | [] => .incomplete
              | d :: _ =>
                if isDigit d then
                  match ranges.char? (wide a b c d) with
                  | some x => .taken 4 [x]
                  | none => .malformed 4
                else .malformed 1
            else .malformed 1
        else
          match (pointer? a.toNat b.toNat).bind char? with
          | some x => .taken 2 [x]
          | none => .malformed (if b.toNat < 0x80 then 1 else 2)
    else .malformed 1

def bytesOfPointer (p : Nat) : List UInt8 :=
  [.ofNat (p / 190 + 0x81), .ofNat (p % 190 + if p % 190 < 0x3F then 0x40 else 0x41)]

def bytesOfWide (p : Nat) : List UInt8 :=
  [.ofNat (p / 12600 + 0x81), .ofNat (p / 1260 % 10 + 0x30), .ofNat (p / 10 % 126 + 0x81),
    .ofNat (p % 10 + 0x30)]

/-- The two bytes of a character. -/
def narrow? (c : Char) : Option (List UInt8) :=
  ((former.code? c).or ((standard.code? c).or (reserved.code? c))).map bytesOfPointer

/-- GBK. -/
def encodeNarrow? (c : Char) : Option (List UInt8) :=
  if c.toNat < 0x80 then some [.ofNat c.toNat]
  else if c.toNat = 0x20AC then some [0x80]
  else narrow? c

/-- GB 18030. One private code point is left out of its ranges. -/
def encodeWide? (c : Char) : Option (List UInt8) :=
  if c.toNat < 0x80 then some [.ofNat c.toNat]
  else if c.toNat = 0xE5E5 then none
  else (narrow? c).or ((ranges.code? c).map bytesOfWide)

end ScriptChannel.Charset.Gb
