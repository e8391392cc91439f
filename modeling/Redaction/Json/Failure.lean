/-
  Why a document is not read.

  * `Fault` is what is wrong with a text that is no document, and `Position` where;
  * `Failure` adds the limits on length, nesting and digits;
  * `Failure.message` is the wording.
-/
import Redaction.Text.Words

namespace Redaction.Json

/-- What is wrong at a place of a text. -/
inductive Fault where
  | expectedValue
  | expectedKey
  | expectedColon
  | expectedComma
  | extraData
  | controlCharacter
  | invalidEscape
  | invalidHexEscape
  | unterminatedString
  | byteOrderMark
  deriving DecidableEq, Repr

/-- The wording of a fault. -/
def Fault.message : Fault → String
  | expectedValue => "Expecting value"
  | expectedKey => "Expecting property name enclosed in double quotes"
  | expectedColon => "Expecting ':' delimiter"
  | expectedComma => "Expecting ',' delimiter"
  | extraData => "Extra data"
  | controlCharacter => "Invalid control character at"
  | invalidEscape => "Invalid \\escape"
  | invalidHexEscape => "Invalid \\uXXXX escape"
  | unterminatedString => "Unterminated string starting at"
  | byteOrderMark => "Unexpected UTF-8 BOM (decode using utf-8-sig)"

/-! ## Places -/

/-- A place in a text. Lines and columns count from one, characters from zero. -/
structure Position where
  line : Nat
  column : Nat
  offset : Nat
  deriving DecidableEq, Repr

/-- The place of the character with so many characters before it. -/
def Position.ofOffset (t : Text) (offset : Nat) : Position :=
  let before := t.take offset
  { line := before.count CodePoint.lineFeed + 1
    column := (before.reverse.takeWhile (· ≠ CodePoint.lineFeed)).length + 1
    offset := offset }

/-- The wording of a place. -/
def Position.message (p : Position) : Text :=
  ("line " : Text) ++ Text.decimal p.line ++ (" column " : Text) ++ Text.decimal p.column ++
    (" (char " : Text) ++ Text.decimal p.offset ++ (")" : Text)

/-! ## Failures -/

/-- Integers with more digits than this are not read. -/
def digitLimit : Nat := 4300

/-- Why a text is not taken as a document. -/
inductive Failure where
  /-- It has more characters than the limit. -/
  | tooLong (limit : Int)
  /-- Its arrays and objects are nested deeper than the limit. -/
  | tooDeep (limit : Int)
  /-- It holds an integer of so many digits. -/
  | longInteger (digits : Nat)
  /-- It is no document. -/
  | malformed (fault : Fault) (position : Position)
  deriving DecidableEq, Repr

/-- The wording of a failure. -/
def Failure.message : Failure → Text
  | tooLong limit => ("JSON body exceeds the limit of " : Text) ++ Text.integer limit
  | tooDeep limit => ("JSON nesting exceeds the limit of " : Text) ++ Text.integer limit
  | longInteger digits =>
    ("invalid JSON: Exceeds the limit (" : Text) ++ Text.decimal digitLimit ++
      (" digits) for integer string conversion: value has " : Text) ++ Text.decimal digits ++
      (" digits; use sys.set_int_max_str_digits() to increase the limit" : Text)
  | malformed fault position =>
    ("invalid JSON: " : Text) ++ (fault.message : Text) ++ (": " : Text) ++ position.message

end Redaction.Json
