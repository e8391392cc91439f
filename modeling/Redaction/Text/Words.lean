/-
  Blanks around and between words.

  * `Text.trim` removes the blanks around a text, `Text.trimStart` those before it;
  * `Text.firstWord` is the first word of a text in capitals;
  * `Text.lines` are the lines of a text, under any of the line ends that a text can hold.
-/
import Redaction.Text.Blank
import Redaction.Text.Upper

namespace Redaction

/-! ## Signs that code names -/

namespace CodePoint

/-- The single quote. -/
def quote : CodePoint := ⟨0x27, by decide⟩

/-- The double quote. -/
def doubleQuote : CodePoint := ⟨0x22, by decide⟩

/-- The back quote. -/
def backQuote : CodePoint := ⟨0x60, by decide⟩

/-- The backslash. -/
def backslash : CodePoint := ⟨0x5C, by decide⟩

/-- The line feed. -/
def lineFeed : CodePoint := ⟨0x0A, by decide⟩

/-- The carriage return. -/
def carriageReturn : CodePoint := ⟨0x0D, by decide⟩

end CodePoint

namespace Text

/-! ## Trimming -/

/-- A text without the characters of a class at its start and its end. -/
def trimBy (p : CodePoint → Bool) (t : Text) : Text :=
  ((t.dropWhile p).reverse.dropWhile p).reverse

/-- A text without the blanks before it. -/
def trimStart (t : Text) : Text := t.dropWhile CodePoint.isBlank

/-- A text without the blanks around it. -/
def trim (t : Text) : Text := trimBy CodePoint.isBlank t

/-- Whether a text holds nothing but blanks. -/
def isBlank (t : Text) : Bool := t.all CodePoint.isBlank

/-! ## Words and lines -/

/-- The first word of a text in capitals; empty where there is no word. -/
def firstWord (t : Text) : Text :=
  upper ((trimStart t).takeWhile fun c => ! c.isBlank)

/-- A character that ends a line. -/
def isLineEnd (c : CodePoint) : Bool :=
  (0x0A ≤ c.val && c.val ≤ 0x0D) || (0x1C ≤ c.val && c.val ≤ 0x1E) || c.val = 0x85 ||
    c.val = 0x2028 || c.val = 0x2029

/-- The lines of a text without their ends. Cutting also between a carriage return and its line
    feed leaves an empty line there, which matters to nobody who drops blank lines. -/
def lines (t : Text) : List Text := t.splitOnP isLineEnd

end Text

end Redaction
