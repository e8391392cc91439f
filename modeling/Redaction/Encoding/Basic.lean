/-
  Encodings of text as bytes.

  * `Encoding` are the encodings a body can be in;
  * `Step` is what a decoder makes of the bytes it stands before: a character, or bytes that stand
    for none and a `Fault` that tells why; it always takes at least one byte, so that
    `decodeFrom` ends;
  * `decodeFrom` decodes all bytes, with a `Treatment` for bytes that stand for no character;
  * `Failure` are the bytes at which decoding gave up, and `Failure.message` is the wording.
-/
import Redaction.Text.CodePoint

namespace Redaction

/-- Bytes in order. -/
abbrev Bytes := List UInt8

/-- Which byte of a number comes first. -/
inductive ByteOrder where
  | littleEndian
  | bigEndian
  deriving DecidableEq, Repr

/-- An encoding of text. -/
inductive Encoding where
  | ascii
  | latin1
  | windows1252
  /-- UTF-8, with or without a signature that is dropped where it comes first. -/
  | utf8 (signature : Bool)
  /-- UTF-16 in a given order, or else in the order that a mark tells. -/
  | utf16 (order : Option ByteOrder)
  /-- UTF-32 in a given order, or else in the order that a mark tells. -/
  | utf32 (order : Option ByteOrder)
  /-- An encoding in which no byte can be read. -/
  | unreadable
  deriving DecidableEq, Repr

namespace Encoding

/-! ## Bad bytes -/

/-- Why bytes stand for no character. -/
inductive Fault where
  /-- The byte is beyond ASCII. -/
  | beyondAscii
  /-- No character is assigned to the byte. -/
  | unassigned
  /-- No character starts with the byte. -/
  | badStart
  /-- A byte that should continue the character does not. -/
  | badContinuation
  /-- The bytes end inside a character of several units. -/
  | endsEarly
  /-- The bytes end inside a unit. -/
  | truncated
  /-- A trailing surrogate stands alone. -/
  | loneTrailing
  /-- No trailing surrogate follows a leading one. -/
  | loneLeading
  /-- The number is that of a surrogate. -/
  | surrogate
  /-- The number is that of no character. -/
  | beyondRange
  /-- The encoding can read no bytes. -/
  | unreadable
  deriving DecidableEq, Repr

/-- The wording of a fault. -/
def Fault.message : Fault → String
  | beyondAscii => "ordinal not in range(128)"
  | unassigned => "character maps to <undefined>"
  | badStart => "invalid start byte"
  | badContinuation => "invalid continuation byte"
  | endsEarly => "unexpected end of data"
  | truncated => "truncated data"
  | loneTrailing => "illegal encoding"
  | loneLeading => "illegal UTF-16 surrogate"
  | surrogate => "code point in surrogate code point range(0xd800, 0xe000)"
  | beyondRange => "code point not in range(0x110000)"
  | unreadable => "undefined encoding"

/-- Bytes that stand for no character, at which decoding gave up. -/
structure BadBytes where
  /-- How many bytes come before them. -/
  offset : Nat
  first : UInt8
  others : Bytes
  fault : Fault
  deriving DecidableEq, Repr

/-- The wording of the place of bad bytes, which counts from zero. -/
def BadBytes.message (bad : BadBytes) : Text :=
  (if bad.others.isEmpty then
    ("byte 0x" : Text) ++ Text.hex 2 bad.first.toNat ++ (" in position " : Text) ++
      Text.decimal bad.offset
  else
    ("bytes in position " : Text) ++ Text.decimal bad.offset ++ ("-" : Text) ++
      Text.decimal (bad.offset + bad.others.length)) ++
    (": " : Text) ++ (bad.fault.message : Text)

/-- Why bytes are no text in an encoding. -/
structure Failure where
  /-- The name of the encoding. -/
  encoding : Text
  bad : BadBytes
  deriving DecidableEq

/-- The wording of a failure. -/
def Failure.message (failure : Failure) : Text :=
  ("'" : Text) ++ failure.encoding ++ ("' codec can't decode " : Text) ++ failure.bad.message

/-! ## Treatments -/

/-- What to do with bad bytes, given the first of them and the others: the text in place of them,
    and how many of the others it stands for. Where there is none, decoding gives up. -/
abbrev Treatment := UInt8 → Bytes → Option (Text × Nat)

/-- No text stands for bad bytes. -/
def strict : Treatment := fun _ _ => none

/-- The trailing surrogate that keeps a byte for later. -/
def kept (b : UInt8) : CodePoint := CodePoint.ofNat (0xDC00 + b.toNat)

/-- The byte that a surrogate keeps. -/
def keptByte? (c : CodePoint) : Option UInt8 :=
  if 0xDC80 ≤ c.val ∧ c.val ≤ 0xDCFF then some (UInt8.ofNat (c.val - 0xDC00)) else none

/-- Bad bytes are kept as surrogates. Bytes of ASCII cannot be kept, so that decoding goes on from the
    first of them, and gives up if no byte comes before it. -/
def escaping : Treatment := fun first others =>
  if first < 0x80 then none
  else
    let others := others.takeWhile fun b => 0x80 ≤ b
    some (kept first :: others.map kept, others.length)

/-- The replacement character stands for bad bytes. -/
def replacing : Treatment := fun _ others => some ([CodePoint.replacement], others.length)

/-! ## Decoding -/

/-- What the first bytes of a text stand for, the first byte and so many more. -/
inductive Step where
  | char (c : CodePoint) (more : Nat)
  | bad (more : Nat) (fault : Fault)

/-- The text behind what is `done`, in reverse, which comes from so many bytes as `offset` tells. -/
def decodeOnto (step : UInt8 → Bytes → Step) (treat : Treatment) (done : Text) (offset : Nat) :
    Bytes → Except BadBytes Text
  | [] => .ok done.reverse
  | b :: rest =>
    match step b rest with
    | .char c more => decodeOnto step treat (c :: done) (offset + 1 + more) (rest.drop more)
    | .bad more fault =>
      match treat b (rest.take more) with
      | some (t, more) =>
        decodeOnto step treat (t.reverseAux done) (offset + 1 + more) (rest.drop more)
      | none => .error ⟨offset, b, rest.take more, fault⟩
  termination_by bytes => bytes.length
  decreasing_by all_goals simp only [List.length_drop, List.length_cons]; omega

/-- The text that bytes stand for from an offset on, decoded step by step. -/
def decodeFrom (step : UInt8 → Bytes → Step) (treat : Treatment) (offset : Nat) (bytes : Bytes) :
    Except BadBytes Text :=
  decodeOnto step treat [] offset (bytes.drop offset)

end Encoding

end Redaction
