/-
  Integers written by people.

  * `readInteger?` reads an integer with an optional sign. Blanks may stand around it, digits of any
    script count, and single low lines may stand between digits.
-/
import Redaction.Text.Blank
import Redaction.Text.Digit
import Redaction.Text.Words

namespace Redaction

/-- A blank that may stand around an integer: the separators of records are none. -/
def isBlankAroundInteger (c : CodePoint) : Bool :=
  if c.val < 0x7F then c = ' ' || (0x09 ≤ c.val && c.val ≤ 0x0D) else c.isBlank

/-- The number that decimal digits of any script write, continued from `n`, with the count of them.
    `free` says whether a low line may come next. -/
def readDigits? (n count : Nat) (free : Bool) : Text → Option (Nat × Nat)
  | [] => if free then some (n, count) else none
  | c :: rest =>
    match c.decimalValue? with
    | some d => readDigits? (10 * n + d) (count + 1) true rest
    | none => if c = '_' ∧ free then readDigits? n count false rest else none

/-- Integers with more digits than this are not read. -/
def writtenDigitLimit : Nat := 4300

/-- Reads an integer that is the whole text. -/
def readInteger? (t : Text) : Option Int :=
  let t := Text.trimBy isBlankAroundInteger t
  let negative := t.head? = some '-'
  let digits := if negative ∨ t.head? = some '+' then t.drop 1 else t
  if digits.length ≤ 2 * writtenDigitLimit then
    match readDigits? 0 0 false digits with
    | none => none
    | some (n, count) =>
      if count ≤ writtenDigitLimit then some (if negative then -(n : Int) else n) else none
  else none

end Redaction
