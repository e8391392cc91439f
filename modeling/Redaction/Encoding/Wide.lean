/-
  UTF-16 and UTF-32.

  * `utf16Step` reads a character of one unit, or of a pair of surrogates, `utf32Step` one of four
    bytes; `utf16Bytes` and `utf32Bytes` write one;
  * `orderOf` finds the order of the bytes, which a mark at their start can tell.
-/
import Redaction.Encoding.Basic

namespace Redaction.Encoding

/-- The number that two bytes write. -/
def unit16 (order : ByteOrder) (a b : UInt8) : Nat :=
  match order with
  | .littleEndian => b.toNat * 0x100 + a.toNat
  | .bigEndian => a.toNat * 0x100 + b.toNat

/-- The number that four bytes write. -/
def unit32 (order : ByteOrder) (a b c d : UInt8) : Nat :=
  match order with
  | .littleEndian => unit16 order c d * 0x10000 + unit16 order a b
  | .bigEndian => unit16 order a b * 0x10000 + unit16 order c d

/-- The two bytes of a number below `0x10000`. -/
def bytes16 (order : ByteOrder) (n : Nat) : Bytes :=
  match order with
  | .littleEndian => [UInt8.ofNat n, UInt8.ofNat (n / 0x100)]
  | .bigEndian => [UInt8.ofNat (n / 0x100), UInt8.ofNat n]

/-- The four bytes of a number. -/
def bytes32 (order : ByteOrder) (n : Nat) : Bytes :=
  match order with
  | .littleEndian => bytes16 order n ++ bytes16 order (n / 0x10000)
  | .bigEndian => bytes16 order (n / 0x10000) ++ bytes16 order n

/-! ## UTF-16 -/

/-- Reads a character of UTF-16. A surrogate has to be part of a pair. -/
def utf16Step (order : ByteOrder) (a : UInt8) (rest : Bytes) : Step :=
  match rest with
  | [] => .bad 0 .truncated
  | b :: rest =>
    let first := CodePoint.ofNat (unit16 order a b)
    if first.isLeading then
      match rest with
      | c :: d :: _ =>
        let second := CodePoint.ofNat (unit16 order c d)
        if second.isTrailing then .char (CodePoint.join first second) 3
        else .bad 1 .loneLeading
      | short => .bad (1 + short.length) .endsEarly
    else if first.isTrailing then .bad 1 .loneTrailing
    else .char first 1

/-- Writes a character in UTF-16. -/
def utf16Bytes (order : ByteOrder) (c : CodePoint) : Option Bytes :=
  let n := c.val
  if c.isSurrogate then none
  else if n < 0x10000 then some (bytes16 order n)
  else
    some (bytes16 order (0xD800 + (n - 0x10000) / 0x400) ++
      bytes16 order (0xDC00 + (n - 0x10000) % 0x400))

/-! ## UTF-32 -/

/-- Reads a character of UTF-32. -/
def utf32Step (order : ByteOrder) (a : UInt8) (rest : Bytes) : Step :=
  match rest with
  | b :: c :: d :: _ =>
    let n := unit32 order a b c d
    if 0x110000 ≤ n then .bad 3 .beyondRange
    else if (CodePoint.ofNat n).isSurrogate then .bad 3 .surrogate
    else .char (CodePoint.ofNat n) 3
  | short => .bad short.length .truncated

/-- Writes a character in UTF-32. -/
def utf32Bytes (order : ByteOrder) (c : CodePoint) : Option Bytes :=
  if c.isSurrogate then none else some (bytes32 order c.val)

/-! ## Marks -/

/-- Whether bytes start with a mark. -/
def startsWith (mark bytes : Bytes) : Bool := bytes.take mark.length = mark

/-- The order of bytes, and how many of them are a mark at their start that tells it. Where the order
    is open and no mark tells it, the lower byte comes first. `mark` writes the mark in an order. -/
def orderOf (mark : ByteOrder → Bytes) (order : Option ByteOrder) (bytes : Bytes) :
    ByteOrder × Nat :=
  match order with
  | some order => (order, 0)
  | none =>
    if startsWith (mark .littleEndian) bytes then (.littleEndian, (mark .littleEndian).length)
    else if startsWith (mark .bigEndian) bytes then (.bigEndian, (mark .bigEndian).length)
    else (.littleEndian, 0)

end Redaction.Encoding
