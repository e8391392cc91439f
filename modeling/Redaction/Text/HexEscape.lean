/-
  Escapes of two hexadecimal digits.

  * `Text.unescapeHex mark` puts the character of the number in place of every `mark` that two
    hexadecimal digits follow, and leaves any other `mark` as it is.
-/
import Redaction.Text.CodePoint

namespace Redaction

/-- The character whose number two hexadecimal digits write. -/
def hexPair? (a b : CodePoint) : Option CodePoint :=
  match a.hexValue?, b.hexValue? with
  | some a, some b => some (CodePoint.ofNat (16 * a + b))
  | _, _ => none

namespace Text

/-- The text without escapes behind what is `done`, which is in reverse. -/
def unescapeHexOnto (mark : CodePoint) (done : Text) : Text → Text
  | [] => done.reverse
  | c :: rest =>
    if c = mark then
      match rest with
      | a :: b :: more =>
        match hexPair? a b with
        | some d => unescapeHexOnto mark (d :: done) more
        | none => unescapeHexOnto mark (c :: done) (a :: b :: more)
      | rest => unescapeHexOnto mark (c :: done) rest
    else unescapeHexOnto mark (c :: done) rest
  termination_by t => t.length

/-- A text with the character of the number in place of every escape. -/
def unescapeHex (mark : CodePoint) (t : Text) : Text := unescapeHexOnto mark [] t

end Text

end Redaction
