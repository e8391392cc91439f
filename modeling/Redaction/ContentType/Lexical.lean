/-
  The pieces of a header.

  * `isTokenEnd`, `isAttributeEnd` and `isValueEnd` are the characters that end a run;
  * `skipGap` skips blanks and comments. Comments are in parentheses and may be nested, though not
    too deeply, and a backslash takes the meaning from the sign behind it;
  * `quotedString` reads a quoted text behind its opening quote;
  * `skipToSemicolon` skips what cannot be read.

  Each of them leaves no more than it was given, which is what the lemmas `length_…` say.
-/
import Redaction.ContentType.EncodedWord
import Redaction.ContentType.Flaw
import Redaction.Text.Words

namespace Redaction.ContentType

/-! ## Characters -/

/-- A blank or a tab. -/
def isSpace (c : CodePoint) : Bool := c.val = 0x20 || c.val = 0x09

/-- A sign with a meaning of its own. -/
def isSpecial (c : CodePoint) : Bool := ("()<>@,:;.\\\"[]" : Text).contains c

/-- A character that ends a word. -/
def isWordEnd (c : CodePoint) : Bool := isSpace c || isSpecial c

/-- A character that ends a part of a media type. -/
def isTokenEnd (c : CodePoint) : Bool := isSpace c || ("()<>@,:;\\\"[]/?=" : Text).contains c

/-- A character that ends the name of a parameter. -/
def isAttributeEnd (c : CodePoint) : Bool := isTokenEnd c || ("*'%" : Text).contains c

/-- A character that ends a value that is not quoted. -/
def isValueEnd (c : CodePoint) : Bool := isAttributeEnd c && c ≠ '%'

/-! ## Blanks and comments -/

/-- Where the skipping of blanks and comments has got to. -/
inductive Gap where
  /-- At the start or behind a comment. -/
  | start
  /-- Behind a blank, where blanks of every script count. -/
  | blank
  /-- Inside a comment that is inside so many others, maybe behind a backslash. -/
  | comment (depth : Nat) (escaped : Bool)

/-- Where the skipping gets to with a character, unless the character ends it. -/
def Gap.next? : Gap → CodePoint → Option Gap
  | start, c => if isSpace c then some blank else if c = '(' then some (comment 0 false) else none
  | blank, c => if c.isBlank then some blank else if c = '(' then some (comment 0 false) else none
  | comment depth escaped, c =>
    if isSpace c ∨ escaped then some (comment depth false)
    else if c = CodePoint.backslash then some (comment depth true)
    else if c = '(' then some (comment (depth + 1) false)
    else if c = ')' then
      match depth with
      | 0 => some start
      | depth + 1 => some (comment depth false)
    else some (comment depth false)

/-- What follows the blanks and comments that are being skipped. -/
def skipGapFrom (gap : Gap) : Text → Text
  | [] => []
  | c :: rest =>
    match gap.next? c with
    | some gap => skipGapFrom gap rest
    | none => c :: rest

/-- A comment cannot be inside so many others. -/
def commentLimit : Nat := 240

/-- Whether the skipping has got into a comment that is nested too deeply. -/
def Gap.isTooDeep : Gap → Bool
  | start | blank => false
  | comment depth _ => commentLimit ≤ depth

/-- Whether the skipping gets into a comment that is nested too deeply. -/
def getsTooDeep (gap : Gap) : Text → Bool
  | [] => gap.isTooDeep
  | c :: rest =>
    if gap.isTooDeep then true
    else
      match gap.next? c with
      | some gap => getsTooDeep gap rest
      | none => false

/-- A text without the blanks and comments before it. -/
def skipGap (t : Text) : Except Flaw Text :=
  if getsTooDeep .start t then .error (.fatal .deepComment) else .ok (skipGapFrom .start t)

theorem length_skipGapFrom (gap : Gap) (t : Text) : (skipGapFrom gap t).length ≤ t.length := by
  fun_induction skipGapFrom gap t with
  | case1 => simp
  | case2 gap c rest _ _ ih => exact Nat.le_succ_of_le ih
  | case3 => simp

/-! ## Quoted texts -/

/-- The part of a quoted text up to a blank or a quote, behind what is `done`, which is in reverse,
    and what follows it. -/
def quotedRunOnto (done : Text) (escaped : Bool) : Text → Text × Text
  | [] => (done.reverse, [])
  | c :: rest =>
    if isSpace c then (done.reverse, c :: rest)
    else if escaped then quotedRunOnto (c :: done) false rest
    else if c = CodePoint.backslash then quotedRunOnto done true rest
    else if c = CodePoint.doubleQuote then (done.reverse, c :: rest)
    else quotedRunOnto (c :: done) false rest

theorem length_quotedRunOnto (done : Text) (escaped : Bool) (t : Text) :
    (quotedRunOnto done escaped t).2.length ≤ t.length := by
  fun_induction quotedRunOnto done escaped t <;> simp_all <;> omega

/-- The part of a quoted text up to a blank or a quote, given its first character, which is neither,
    and what follows that. A backslash alone before a blank stands for nothing. -/
def quotedRun (c : CodePoint) (rest : Text) : Text × Text :=
  if c = CodePoint.backslash then quotedRunOnto [] true rest else quotedRunOnto [c] false rest

theorem length_quotedRun (c : CodePoint) (rest : Text) :
    (quotedRun c rest).2.length ≤ rest.length := by
  unfold quotedRun
  split <;> exact length_quotedRunOnto ..

/-- A piece of a quoted text. -/
inductive Piece where
  | blanks (t : Text)
  | word (t : Text)
  | run (t : Text)

/-- The text of a piece. -/
def Piece.text : Piece → Text
  | blanks t | word t | run t => t

/-- Pieces, in reverse, with an encoded word behind them. Blanks between two encoded words do not
    count. -/
def pushWord (pieces : List Piece) (t : Text) : List Piece :=
  match pieces with
  | .blanks _ :: .word w :: pieces => .word t :: .word w :: pieces
  | pieces => .word t :: pieces

/-- The text of pieces in reverse. -/
def textOfPieces (pieces : List Piece) : Text := (pieces.reverse.map Piece.text).flatten

variable [Encoding.Codecs]

/-- Reads a quoted text behind the pieces that are done, which are in reverse. -/
def quotedStringOnto (pieces : List Piece) : Text → Text × Text
  | [] => (textOfPieces pieces, [])
  | c :: rest =>
    if c = CodePoint.doubleQuote then (textOfPieces pieces, rest)
    else if isSpace c then
      quotedStringOnto (.blanks (c :: rest.takeWhile CodePoint.isBlank) :: pieces)
        (rest.dropWhile CodePoint.isBlank)
    else
      match _h : encodedWord? (c :: rest) with
      | some (word, rest) => quotedStringOnto (pushWord pieces word) rest
      | none => quotedStringOnto (.run (quotedRun c rest).1 :: pieces) (quotedRun c rest).2
  termination_by t => t.length
  decreasing_by
    · exact Nat.lt_succ_of_le (List.dropWhile_suffix CodePoint.isBlank).length_le
    · exact length_of_encodedWord? ‹_›
    · exact Nat.lt_succ_of_le (length_quotedRun c rest)

/-- Reads a quoted text behind its opening quote. A text that never ends takes the rest. -/
def quotedString (t : Text) : Text × Text := quotedStringOnto [] t

theorem length_quotedStringOnto (pieces : List Piece) (t : Text) :
    (quotedStringOnto pieces t).2.length ≤ t.length := by
  fun_induction quotedStringOnto pieces t with
  | case1 => simp
  | case2 => simp
  | case3 pieces c rest _ _ ih =>
    exact Nat.le_succ_of_le
      (Nat.le_trans ih (List.dropWhile_suffix CodePoint.isBlank).length_le)
  | case4 pieces c rest _ _ word rest' h ih =>
    exact Nat.le_trans ih (Nat.le_of_lt (length_of_encodedWord? h))
  | case5 pieces c rest _ _ _ ih =>
    exact Nat.le_succ_of_le (Nat.le_trans ih (length_quotedRun c rest))

/-! ## What cannot be read -/

/-- What follows from the first semicolon on that is in no comment, quoted text or encoded word. -/
def skipToSemicolon : Text → Except ContentTypeError Text
  | [] => .ok []
  | c :: rest =>
    if c = ';' then .ok (c :: rest)
    else if c = CodePoint.doubleQuote then skipToSemicolon (quotedString rest).2
    else
      match Gap.start.next? c with
      | some gap =>
        if getsTooDeep gap rest then .error .deepComment else skipToSemicolon (skipGapFrom gap rest)
      | none =>
        if isSpecial c then skipToSemicolon rest
        else
          match _h : encodedWord? (c :: rest) with
          | some (_, rest) => skipToSemicolon rest
          | none => skipToSemicolon (rest.dropWhile fun c => ! isWordEnd c)
  termination_by t => t.length
  decreasing_by
    · exact Nat.lt_succ_of_le (length_quotedStringOnto [] rest)
    · exact Nat.lt_succ_of_le (length_skipGapFrom ..)
    · exact Nat.lt_succ_self _
    · exact length_of_encodedWord? ‹_›
    · exact Nat.lt_succ_of_le (List.dropWhile_suffix _).length_le

end Redaction.ContentType
