/-
  Blanks, comments, keys and texts of a settings file.

  Every reader takes a text and gives what it read with what it leaves, or nothing where the text
  does not start with it.

  * `skipBlanks`, `skipComment?` and `skipFiller?` pass over what means nothing;
  * `literalText?` and `basicText?` read texts between single and double quotes, on one line or, in
    three quotes, on several;
  * `key?` reads a dotted key.
-/
import Redaction.Text.Words

namespace Redaction.Toml

/-- What is read, with what it leaves. -/
abbrev Scan (α : Type) := Option (α × Text)

/-! ## Blanks and comments -/

/-- The horizontal tab. -/
def tab : CodePoint := ⟨0x09, by decide⟩

/-- A blank within a line. -/
def isLineBlank (c : CodePoint) : Bool := c = ' ' || c = tab

/-- A blank or the end of a line. -/
def isFiller (c : CodePoint) : Bool := isLineBlank c || c = CodePoint.lineFeed

/-- A control character, the tab left out. -/
def isControl (c : CodePoint) : Bool := (c.val < 0x20 || c.val = 0x7F) && c ≠ tab

/-- A text without the blanks before it. -/
def skipBlanks (t : Text) : Text := t.dropWhile isLineBlank

/-- A text behind the comment it may start with. A comment ends with its line and holds no control
    characters. -/
def skipComment? (t : Text) : Option Text :=
  if t.head? = some '#' then
    let comment := t.takeWhile (· ≠ CodePoint.lineFeed)
    if comment.any isControl then none else some (t.drop comment.length)
  else some t

/-- A text behind the blanks, ends of lines and comments it may start with, looked for so many
    times. -/
def skipFillerTimes? : Nat → Text → Option Text
  | 0, t => some t
  | times + 1, t =>
    match skipComment? (t.dropWhile isFiller) with
    | none => none
    | some rest => if rest.length = t.length then some rest else skipFillerTimes? times rest

/-- A text behind the blanks, ends of lines and comments it may start with. -/
def skipFiller? (t : Text) : Option Text := skipFillerTimes? (t.length + 1) t

/-- What follows a given start of a text. -/
def after? : Text → Text → Option Text
  | [], t => some t
  | _ :: _, [] => none
  | a :: start, b :: t => if a = b then after? start t else none

/-! ## Texts between single quotes -/

/-- Three of a quote. -/
def triple (quote : CodePoint) : Text := [quote, quote, quote]

/-- What stands before the first occurrence of an end, and what follows the end. What stands before
    must not hold characters of a class. -/
def textBefore? (bad : CodePoint → Bool) (finish done : Text) : Text → Scan Text
  | [] => none
  | c :: rest =>
    match after? finish (c :: rest) with
    | some rest => some (done.reverse, rest)
    | none => if bad c then none else textBefore? bad finish (c :: done) rest

/-- Up to two quotes that belong to the end of a text in three quotes. -/
def extraQuotes (quote : CodePoint) (t : Text) : Text × Text :=
  let extra := (t.take 2).takeWhile (· = quote)
  (extra, t.drop extra.length)

/-- A text behind the end of the line that it may start with. -/
def skipLineFeed (t : Text) : Text := if t.head? = some CodePoint.lineFeed then t.drop 1 else t

/-- A control character that is not the end of a line. -/
def isControlInLines (c : CodePoint) : Bool := isControl c && c ≠ CodePoint.lineFeed

/-- Reads a text on one line behind its single quote. -/
def literalLine? (t : Text) : Scan Text := textBefore? isControl [CodePoint.quote] [] t

/-- Reads a text on several lines behind its three single quotes. -/
def literalLines? (t : Text) : Scan Text :=
  match textBefore? isControlInLines (triple CodePoint.quote) [] (skipLineFeed t) with
  | none => none
  | some (text, rest) =>
    let (extra, rest) := extraQuotes CodePoint.quote rest
    some (text ++ extra, rest)

/-! ## Texts between double quotes -/

/-- The character with the number that so many hexadecimal digits write. -/
def hexCharacter? (width : Nat) (t : Text) : Scan CodePoint :=
  let digits := t.take width
  if digits.length ≠ width then none
  else
    match digits.mapM CodePoint.hexValue? with
    | none => none
    | some values =>
      let n := values.foldl (fun n d => 16 * n + d) 0
      if h : n < 0x110000 then
        if 0xD800 ≤ n ∧ n ≤ 0xDFFF then none else some (⟨n, h⟩, t.drop width)
      else none

/-- What an escape behind a backslash stands for. In a text on several lines a backslash at the end
    of a line stands for nothing and takes all blanks and ends of lines that follow. -/
def escape? (several : Bool) (t : Text) : Scan Text :=
  match t with
  | [] => none
  | c :: rest =>
    if several ∧ isFiller c then
      match (if c = CodePoint.lineFeed then t else skipBlanks rest) with
      | [] => some ([], [])
      | d :: rest =>
        if d = CodePoint.lineFeed then some ([], rest.dropWhile isFiller) else none
    else if c = 'u' then (hexCharacter? 4 rest).map fun (x, rest) => ([x], rest)
    else if c = 'U' then (hexCharacter? 8 rest).map fun (x, rest) => ([x], rest)
    else if c = 'b' then some ([CodePoint.ofNat 0x08], rest)
    else if c = 't' then some ([tab], rest)
    else if c = 'n' then some ([CodePoint.lineFeed], rest)
    else if c = 'f' then some ([CodePoint.ofNat 0x0C], rest)
    else if c = 'r' then some ([CodePoint.carriageReturn], rest)
    else if c = CodePoint.doubleQuote ∨ c = CodePoint.backslash then some ([c], rest)
    else none

/-- Reads a text behind its opening quotes, with what is `done` in reverse. Each round takes a
    character or an escape. -/
def basicOnto? (several : Bool) : (rounds : Nat) → (done : Text) → Text → Scan Text
  | 0, _, _ => none
  | _ + 1, _, [] => none
  | rounds + 1, done, c :: rest =>
    if c = CodePoint.doubleQuote then
      if several then
        match after? (triple CodePoint.doubleQuote) (c :: rest) with
        | some rest => some (done.reverse, rest)
        | none => basicOnto? several rounds (c :: done) rest
      else some (done.reverse, rest)
    else if c = CodePoint.backslash then
      match escape? several rest with
      | none => none
      | some (text, rest) => basicOnto? several rounds (text.reverseAux done) rest
    else if (if several then isControlInLines c else isControl c) then none
    else basicOnto? several rounds (c :: done) rest

/-- Reads a text on one line behind its double quote. -/
def basicLine? (t : Text) : Scan Text := basicOnto? false (t.length + 1) [] t

/-- Reads a text on several lines behind its three double quotes. -/
def basicLines? (t : Text) : Scan Text :=
  match basicOnto? true (t.length + 1) [] (skipLineFeed t) with
  | none => none
  | some (text, rest) =>
    let (extra, rest) := extraQuotes CodePoint.doubleQuote rest
    some (text ++ extra, rest)

/-! ## Keys -/

/-- A character of a key without quotes. -/
def isBareKey (c : CodePoint) : Bool :=
  c.isAsciiLetter || c.isAsciiDigit || c = '-' || c = '_'

/-- Reads one part of a key. -/
def keyPart? (t : Text) : Scan Text :=
  match t with
  | [] => none
  | c :: rest =>
    if isBareKey c then some (t.span isBareKey)
    else if c = CodePoint.quote then literalLine? rest
    else if c = CodePoint.doubleQuote then basicLine? rest
    else none

/-- Reads the other parts of a key, each behind a point, behind those already `done`, which are in
    reverse. -/
def keyOnto? : (rounds : Nat) → (done : List Text) → Text → Scan (List Text)
  | 0, _, _ => none
  | rounds + 1, done, t =>
    if t.head? = some '.' then
      match keyPart? (skipBlanks (t.drop 1)) with
      | none => none
      | some (part, rest) => keyOnto? rounds (part :: done) (skipBlanks rest)
    else some (done.reverse, t)

/-- Reads a dotted key with the blanks behind it. -/
def key? (t : Text) : Scan (List Text) :=
  match keyPart? t with
  | none => none
  | some (part, rest) => keyOnto? (t.length + 1) [part] (skipBlanks rest)

end Redaction.Toml
