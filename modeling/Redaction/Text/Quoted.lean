/-
  Texts and bytes between quotes, as messages show them.

  Single quotes are taken, unless the text holds one and no double quote.  What cannot be shown is
  escaped by its number.

  * `Text.quoted` and `Bytes.quoted` are the two forms.
-/
import Redaction.Encoding.Basic
import Redaction.Text.Printable
import Redaction.Text.Words

namespace Redaction

namespace Text

/-- The quote to put around characters of which `has` says whether they occur. -/
def chooseQuote (has : CodePoint → Bool) : CodePoint :=
  if has CodePoint.quote && ! has CodePoint.doubleQuote then CodePoint.doubleQuote
  else CodePoint.quote

/-- A backslash with what follows it. -/
def backslashed (t : Text) : Text := CodePoint.backslash :: t

/-- The escape of a character that is escaped by a letter or by itself between such quotes. -/
def shortEscape? (quote c : CodePoint) : Option Text :=
  if c = quote ∨ c = CodePoint.backslash then some (backslashed [c])
  else if c.val = 0x09 then some (backslashed ['t'])
  else if c = CodePoint.lineFeed then some (backslashed ['n'])
  else if c = CodePoint.carriageReturn then some (backslashed ['r'])
  else none

/-- A character as it stands between such quotes. -/
def escaped (quote c : CodePoint) : Text :=
  match shortEscape? quote c with
  | some t => t
  | none =>
    if c.isPrintable then [c]
    else if c.val < 0x100 then backslashed ('x' :: hex 2 c.val)
    else if c.val < 0x10000 then backslashed ('u' :: hex 4 c.val)
    else backslashed ('U' :: hex 8 c.val)

/-- A text between quotes. -/
def quoted (t : Text) : Text :=
  let quote := chooseQuote fun c => t.contains c
  quote :: (t.flatMap (escaped quote) ++ [quote])

end Text

namespace Bytes

/-- A byte as it stands between such quotes. -/
def escaped (quote : CodePoint) (b : UInt8) : Text :=
  let c := CodePoint.ofNat b.toNat
  match Text.shortEscape? quote c with
  | some t => t
  | none =>
    if 0x20 ≤ c.val ∧ c.val < 0x7F then [c] else Text.backslashed ('x' :: Text.hex 2 c.val)

/-- Bytes between quotes, marked as bytes. -/
def quoted (bytes : Bytes) : Text :=
  let quote := Text.chooseQuote fun c => bytes.any fun b => b.toNat = c.val
  'b' :: quote :: (bytes.flatMap (escaped quote) ++ [quote])

end Bytes

end Redaction
