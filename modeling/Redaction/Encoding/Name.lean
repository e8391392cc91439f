/-
  Names of encodings.

  * `normalName` brings a name to its normal form: letters, digits and points count, in either
    case, and any run of other characters is one separator, which does not count at the start or
    the end;
  * `named?` finds the encoding of a name.
-/
import Redaction.Encoding.Basic

namespace Redaction.Encoding

/-- A character that counts in the name of an encoding. -/
def isNameCharacter (c : CodePoint) : Bool := c.isAsciiLetter || c.isAsciiDigit || c = '.'

/-- A capital letter of the English alphabet as a small one. -/
def asciiLower (c : CodePoint) : CodePoint :=
  if 0x41 ≤ c.val ∧ c.val ≤ 0x5A then CodePoint.ofNat (c.val + 0x20) else c

/-- The normal form of a name. -/
def normalName (name : Text) : Text :=
  (([['_']] : List Text).intercalate <|
    ((name.splitOnP fun c => ! isNameCharacter c).filter (! ·.isEmpty)).map fun part =>
      [part.map asciiLower]).flatten

/-- Other names of the encodings. -/
def aliases : List (List String × Encoding) :=
  [(["646", "ansi_x3.4_1968", "ansi_x3_4_1968", "ansi_x3.4_1986", "cp367", "csascii", "ibm367",
     "iso646_us", "iso_646.irv_1991", "iso_ir_6", "us", "us_ascii"], ascii),
   (["8859", "cp819", "csisolatin1", "ibm819", "iso8859", "iso8859_1", "iso_8859_1",
     "iso_8859_1_1987", "iso_ir_100", "l1", "latin", "latin1"], latin1),
   (["1252", "windows_1252"], windows1252),
   (["u8", "utf", "utf8", "utf8_ucs2", "utf8_ucs4", "cp65001"], utf8 false),
   (["u16", "utf16"], utf16 none),
   (["unicodebigunmarked", "utf_16be"], utf16 (some .bigEndian)),
   (["unicodelittleunmarked", "utf_16le"], utf16 (some .littleEndian)),
   (["u32", "utf32"], utf32 none),
   (["utf_32be"], utf32 (some .bigEndian)),
   (["utf_32le"], utf32 (some .littleEndian))]

/-- The encodings under their own names. -/
def ownNames : List (List String × Encoding) :=
  [(["ascii"], ascii), (["latin_1"], latin1), (["cp1252"], windows1252), (["utf_8"], utf8 false),
   (["utf_8_sig"], utf8 true), (["utf_16"], utf16 none),
   (["utf_16_be"], utf16 (some .bigEndian)), (["utf_16_le"], utf16 (some .littleEndian)),
   (["utf_32"], utf32 none), (["utf_32_be"], utf32 (some .bigEndian)),
   (["utf_32_le"], utf32 (some .littleEndian)), (["undefined"], unreadable)]

/-- The encoding that stands under a name in a list. -/
def listed? (names : List (List String × Encoding)) (name : Text) : Option Encoding :=
  names.findSome? fun (names, encoding) =>
    if names.any fun n => (n : Text) = name then some encoding else none

/-- The encoding of a name. In other names a point may stand for a separator. -/
def named? (name : Text) : Option Encoding :=
  let name := normalName name
  let pointless : Text := name.map fun c : CodePoint => if c = '.' then ('_' : CodePoint) else c
  (listed? aliases name).or <| (listed? aliases pointless).or (listed? ownNames name)

end Redaction.Encoding
