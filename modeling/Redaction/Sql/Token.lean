/-
  Tokens of statements.

  A statement is read only so far as literals can be told from everything else.  Reading never
  fails: what fits nothing is punctuation, and a quote without its end takes the rest.

  * `shape` says what kind of token a text starts with and how many characters follow its first;
  * `tokenize` cuts a text into tokens;
  * `tokensFrom_cons` is the equation of the cutting, and `flatten_tokenize` says that it loses
    nothing; `ne_nil_of_mem_tokenize` that no token is empty.

  Lengths below leave out the first character of the token, which the caller has seen.
-/
import Redaction.Text.Alphanumeric
import Redaction.Text.Words

namespace Redaction.Sql

/-- What a token is. -/
inductive TokenKind where
  /-- A quoted text or a number: `'a'`, `42`, `1.5e3`, `0xFF`. -/
  | literal
  /-- A keyword or a name. -/
  | identifier
  /-- A name in double or back quotes. -/
  | quotedIdentifier
  /-- A named parameter with its type in braces. -/
  | parameterSpan
  /-- A single character of any other sort. -/
  | punctuation
  /-- A run of blanks. -/
  | whitespace
  /-- From `--` to the end of the line, or from `/*` to `*/`. -/
  | comment
  /-- The rest of a text from a quote that never ends. -/
  | unparsed
  deriving DecidableEq, Repr

/-- A piece of a statement. -/
structure Token where
  kind : TokenKind
  text : Text
  deriving DecidableEq

/-! ## Characters -/

/-- A character of a name. -/
def isNameChar (c : CodePoint) : Bool := c.isWord || c = '$'

/-- A character that a parameter's name or type may start with. -/
def startsParameter (c : CodePoint) : Bool := c.isAsciiLetter || c = '_'

/-- A curly bracket. -/
def isBrace (c : CodePoint) : Bool := c = '{' || c = '}'

/-! ## Lengths of tokens -/

/-- How many characters of a name a text starts with. -/
def nameLength (t : Text) : Nat := (t.takeWhile isNameChar).length

/-- How many digits a text starts with. -/
def digitsLength (t : Text) : Nat := (t.takeWhile CodePoint.isDecimal).length

/-- The length of a block comment behind its opening `/*`, its end included. A comment that never
    ends takes the rest. -/
def blockCommentLength (n : Nat) : Text → Nat
  | [] => n
  | c :: rest =>
    if c = '*' ∧ rest.head? = some '/' then n + 2 else blockCommentLength (n + 1) rest

/-- The length of a quoted text behind its opening quote, the closing one included. A doubled
    quote stands for the quote itself. -/
def quotedLength? (quote : CodePoint) (n : Nat) : Text → Option Nat
  | [] => none
  | c :: rest =>
    if c = quote then
      match rest with
      | [] => some (n + 1)
      | d :: rest => if d = quote then quotedLength? quote (n + 2) rest else some (n + 1)
    else quotedLength? quote (n + 1) rest

/-- Whether the inside of braces is a parameter: a name, a colon, and a type, which is anything
    that starts with a letter or a low line. Blanks may stand around all of them. -/
def isParameter (inside : Text) : Bool :=
  match Text.trimStart inside with
  | [] => false
  | c :: rest =>
    startsParameter c &&
      match Text.trimStart (rest.dropWhile CodePoint.isWord) with
      | [] => false
      | colon :: type =>
        colon = ':' &&
          match Text.trimStart type with
          | [] => false
          | c :: _ => startsParameter c

/-- The length of a parameter span behind its opening brace. The first brace after it has to be
    the closing one. -/
def parameterLength? (t : Text) : Option Nat :=
  let inside := t.takeWhile fun c => ! isBrace c
  match t.drop inside.length with
  | [] => none
  | c :: _ => if c = '}' ∧ isParameter inside then some (inside.length + 1) else none

/-- The length of the exponent that a text starts with, and zero where it starts with none. -/
def exponentLength : Text → Nat
  | [] => 0
  | e :: rest =>
    if e = 'e' ∨ e = 'E' then
      match rest with
      | [] => 0
      | sign :: digits =>
        if sign = '+' ∨ sign = '-' then
          if digitsLength digits = 0 then 0 else digitsLength digits + 2
        else if digitsLength rest = 0 then 0 else digitsLength rest + 1
    else 0

/-- The length of the decimal number, without exponent, that a text starts with. -/
def decimalLength (t : Text) : Nat :=
  let whole := digitsLength t
  match t.drop whole with
  | [] => whole
  | c :: rest =>
    if c = '.' ∧ (whole ≠ 0 ∨ digitsLength rest ≠ 0) then whole + 1 + digitsLength rest
    else whole

/-- The length of the hexadecimal number that a text starts with, and zero where it starts with
    none. -/
def hexLength : Text → Nat
  | zero :: x :: rest =>
    let digits := (rest.takeWhile CodePoint.isHexDigit).length
    if zero = '0' ∧ (x = 'x' ∨ x = 'X') ∧ digits ≠ 0 then digits + 2 else 0
  | _ => 0

/-- The length of the number that a text starts with. -/
def numberLength (t : Text) : Nat :=
  if hexLength t ≠ 0 then hexLength t
  else decimalLength t + exponentLength (t.drop (decimalLength t))

/-! ## The first token of a text -/

/-- The token that starts with a quote. -/
def quotedShape (quote : CodePoint) (kind : TokenKind) (rest : Text) : TokenKind × Nat :=
  match quotedLength? quote 0 rest with
  | some n => (kind, n)
  | none => (.unparsed, rest.length)

/-- Whether a number that follows the character is part of a name. The start of a text counts as
    the inside of a name. -/
def continuesName (before : Option CodePoint) : Bool := before.all isNameChar

/-- The token that starts with a digit, or with a point before a digit. Only a number that no name
    touches is a literal. -/
def numberShape (before : Option CodePoint) (c : CodePoint) (rest : Text) : TokenKind × Nat :=
  if continuesName before then
    if c = '.' then (.punctuation, 0) else (.identifier, nameLength rest)
  else
    let n := numberLength (c :: rest)
    if ((c :: rest).drop n).head?.any isNameChar then
      (.identifier, if c = '.' then 0 else nameLength rest)
    else (.literal, n - 1)

/-- The kind of the token that starts with `c`, and how many characters of `rest` belong to it.
    `before` is the character in front of the token. -/
def shape (before : Option CodePoint) (c : CodePoint) (rest : Text) : TokenKind × Nat :=
  if c.isBlank then (.whitespace, (rest.takeWhile CodePoint.isBlank).length)
  else if c = '-' ∧ rest.head? = some '-' then
    (.comment, (rest.takeWhile (· ≠ CodePoint.lineFeed)).length)
  else if c = '/' ∧ rest.head? = some '*' then (.comment, blockCommentLength 1 (rest.drop 1))
  else if c = CodePoint.quote then quotedShape c .literal rest
  else if c = CodePoint.doubleQuote ∨ c = CodePoint.backQuote then
    quotedShape c .quotedIdentifier rest
  else if c = '{' then
    match parameterLength? rest with
    | some n => (.parameterSpan, n)
    | none => (.punctuation, 0)
  else if c.isDecimal ∨ (c = '.' ∧ rest.head?.any CodePoint.isDecimal) then
    numberShape before c rest
  else if isNameChar c then (.identifier, nameLength rest)
  else (.punctuation, 0)

/-! ## Cutting a text into tokens -/

/-- The token that starts with `c`, behind the character `before`. -/
def firstToken (before : Option CodePoint) (c : CodePoint) (rest : Text) : Token :=
  let s := shape before c rest
  ⟨s.1, c :: rest.take s.2⟩

theorem length_drop_firstToken (before : Option CodePoint) (c : CodePoint) (rest : Text) :
    ((c :: rest).drop (firstToken before c rest).text.length).length < (c :: rest).length := by
  simp only [firstToken, List.length_drop, List.length_cons]
  omega

theorem firstToken_append (before : Option CodePoint) (c : CodePoint) (rest : Text) :
    (firstToken before c rest).text ++
      (c :: rest).drop (firstToken before c rest).text.length = c :: rest := by
  simp only [firstToken, List.length_cons, List.drop_succ_cons, List.cons_append]
  generalize (shape before c rest).2 = n
  rcases Nat.le_total n rest.length with h | h
  · simp [List.length_take, Nat.min_eq_left h]
  · simp [List.take_of_length_le h]

/-- The tokens of a text, behind those already `done`, which are in reverse. -/
def tokensOnto (done : List Token) (before : Option CodePoint) : Text → List Token
  | [] => done.reverse
  | c :: rest =>
    let token := firstToken before c rest
    tokensOnto (token :: done) token.text.getLast? ((c :: rest).drop token.text.length)
  termination_by t => t.length
  decreasing_by exact length_drop_firstToken before c rest

/-- The tokens of a text that stands behind the character `before`. -/
def tokensFrom (before : Option CodePoint) (t : Text) : List Token := tokensOnto [] before t

/-- The tokens of a statement. -/
def tokenize (t : Text) : List Token := tokensFrom none t

theorem tokensOnto_eq (done : List Token) (before : Option CodePoint) (t : Text) :
    tokensOnto done before t = done.reverse ++ tokensFrom before t := by
  induction h : t.length using Nat.strongRecOn generalizing done before t with
  | ind n ih =>
    subst h
    cases t with
    | nil => simp [tokensFrom, tokensOnto]
    | cons c rest =>
      have hlt := length_drop_firstToken before c rest
      unfold tokensFrom
      rw [tokensOnto, tokensOnto, ih _ hlt (_ :: done) _ _ rfl, ih _ hlt [_] _ _ rfl]
      simp

@[simp] theorem tokensFrom_nil (before : Option CodePoint) : tokensFrom before [] = [] := by
  simp [tokensFrom, tokensOnto]

/-- The first token of a text comes first, and the others are those of what it leaves. -/
theorem tokensFrom_cons (before : Option CodePoint) (c : CodePoint) (rest : Text) :
    tokensFrom before (c :: rest) =
      firstToken before c rest ::
        tokensFrom (firstToken before c rest).text.getLast?
          ((c :: rest).drop (firstToken before c rest).text.length) := by
  rw [tokensFrom, tokensOnto, tokensOnto_eq]
  rfl

theorem flatten_tokensFrom (before : Option CodePoint) (t : Text) :
    ((tokensFrom before t).map Token.text).flatten = t := by
  induction h : t.length using Nat.strongRecOn generalizing before t with
  | ind n ih =>
    subst h
    cases t with
    | nil => simp
    | cons c rest =>
      rw [tokensFrom_cons, List.map_cons, List.flatten_cons,
        ih _ (length_drop_firstToken before c rest) _ _ rfl, firstToken_append]

/-- The tokens of a statement put together are the statement. -/
theorem flatten_tokenize (t : Text) : ((tokenize t).map Token.text).flatten = t :=
  flatten_tokensFrom none t

theorem ne_nil_of_mem_tokensFrom {before : Option CodePoint} {t : Text} {token : Token}
    (h : token ∈ tokensFrom before t) : token.text ≠ [] := by
  induction hn : t.length using Nat.strongRecOn generalizing before t with
  | ind n ih =>
    subst hn
    cases t with
    | nil => simp at h
    | cons c rest =>
      rw [tokensFrom_cons, List.mem_cons] at h
      rcases h with rfl | h
      · exact List.cons_ne_nil _ _
      · exact ih _ (length_drop_firstToken before c rest) h rfl

/-- No token of a statement is empty. -/
theorem ne_nil_of_mem_tokenize {t : Text} {token : Token} (h : token ∈ tokenize t) :
    token.text ≠ [] :=
  ne_nil_of_mem_tokensFrom h

end Redaction.Sql
