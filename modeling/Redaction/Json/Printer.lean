/-
  Documents as text.

  A document is written without any blanks.

  * `quoted` writes a text between double quotes;
  * `Node.lexemes` are the pieces of a document between which blanks may stand: brackets, commas,
    colons, quoted texts, numbers and words;
  * `Node.dump` puts them together.
-/
import Redaction.Json.Node
import Redaction.Number.Shortest
import Redaction.Text.Words

namespace Redaction.Json

/-! ## Quoted texts -/

/-- Characters that are written as a backslash and a letter or sign. -/
def shortEscapes : List (CodePoint × CodePoint) :=
  [(CodePoint.doubleQuote, CodePoint.doubleQuote), (CodePoint.backslash, CodePoint.backslash),
   (CodePoint.lineFeed, 'n'), (CodePoint.carriageReturn, 'r'), (CodePoint.ofNat 0x09, 't'),
   (CodePoint.ofNat 0x0C, 'f'), (CodePoint.ofNat 0x08, 'b')]

/-- A character as it stands between quotes: signs that would end the text and control characters
    are escaped, and all others stand for themselves. -/
def escape (c : CodePoint) : Text :=
  match shortEscapes.lookup c with
  | some letter => [CodePoint.backslash, letter]
  | none =>
    if c.val < 0x20 then CodePoint.backslash :: 'u' :: Text.hex 4 c.val
    else [c]

/-- A text between double quotes. -/
def quoted (t : Text) : Text :=
  CodePoint.doubleQuote :: (t.flatMap escape ++ [CodePoint.doubleQuote])

/-! ## Scalars -/

/-- The words for floating-point numbers that have no digits. -/
def specialNumerals : SpecialNumerals := ⟨("NaN" : Text), ("Infinity" : Text)⟩

/-- A scalar as a document writes it. -/
def Scalar.text : Scalar → Text
  | null => ['n', 'u', 'l', 'l']
  | boolean true => ['t', 'r', 'u', 'e']
  | boolean false => ['f', 'a', 'l', 's', 'e']
  | integer n => Text.integer n
  | float x => x.text specialNumerals
  | string t => quoted t

/-! ## Trees -/

/-- A sign that holds the parts of a document together. -/
def sign (c : Char) : Text := [c]

namespace Node

/-- The pieces of a document in order. -/
def lexemes : Node → List Text
  | scalar s => [s.text]
  | array items =>
    sign '[' :: [sign ','].intercalate (items.map fun item => item.lexemes) ++ [sign ']']
  | object entries =>
    sign '{' ::
      [sign ','].intercalate
        (entries.map fun entry => quoted entry.1 :: sign ':' :: entry.2.lexemes) ++
      [sign '}']
  termination_by node => sizeOf node
  decreasing_by
    · exact sizeOf_lt_of_mem_items ‹_›
    · exact sizeOf_lt_of_mem_entries ‹_›

@[simp] theorem lexemes_scalar (s : Scalar) : (scalar s).lexemes = [s.text] := by rw [lexemes]

@[simp] theorem lexemes_array (items : List Node) :
    (array items).lexemes =
      sign '[' :: [sign ','].intercalate (items.map lexemes) ++ [sign ']'] := by rw [lexemes]

@[simp] theorem lexemes_object (entries : List (Text × Node)) :
    (object entries).lexemes =
      sign '{' ::
        [sign ','].intercalate
          (entries.map fun entry => quoted entry.1 :: sign ':' :: entry.2.lexemes) ++
        [sign '}'] := by rw [lexemes]

/-- A document without blanks. -/
def dump (node : Node) : Text := node.lexemes.flatten

end Node

end Redaction.Json
