/-
  Searching and sorting texts.

  * `Text.le` is the order of texts by their code points;
  * `Text.occursIn` tells whether a text is part of another one.
-/
import Redaction.Text.CodePoint

namespace Redaction.Text

/-- Whether a text comes before another one or is the same. -/
def le : Text → Text → Bool
  | [], _ => true
  | _ :: _, [] => false
  | a :: s, b :: t => a.val < b.val || (a.val = b.val && le s t)

/-- Whether a text is part of another one. -/
def occursIn (part : Text) : Text → Bool
  | [] => part.isEmpty
  | c :: rest => part.isPrefixOf (c :: rest) || occursIn part rest

end Redaction.Text
