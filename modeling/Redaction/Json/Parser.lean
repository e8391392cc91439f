/-
  Reading documents.

  * `scanString` reads a quoted text behind its opening quote, `scanNumeral` a number, `words` the
    words that stand for values;
  * `parseValue`, `parseItems` and `parseEntries` read values, the items of an array and the entries
    of an object, and give what they leave;
  * `parse` reads a whole text.

  What goes wrong is told by the rest of the text at that place, from which the place is found when
  it is asked for.  Nesting is bounded by the room that is left, which shrinks with every array or
  object entered.  Every call of the three readers takes a unit of fuel; two units for each
  character are enough, as every second call takes a character away.
-/
import Redaction.Json.Failure
import Redaction.Json.Node

namespace Redaction.Json

/-! ## Outcomes -/

/-- Why reading stops. -/
inductive Halt where
  /-- Something is wrong where the rest of the text begins. -/
  | fault (fault : Fault) (rest : Text)
  /-- An integer has so many digits. -/
  | longInteger (digits : Nat)
  /-- No room is left for an array or object. -/
  | noRoom
  deriving DecidableEq

/-- What is read, with what it leaves. -/
abbrev Scan (α : Type) := Except Halt (α × Text)

/-! ## Blanks and words -/

/-- A blank of a document. -/
def isSpace (c : CodePoint) : Bool := c = ' ' || c.val = 0x09 || c.val = 0x0A || c.val = 0x0D

/-- A text without the blanks before it. -/
def skipSpace (t : Text) : Text := t.dropWhile isSpace

/-- What follows a given start of a text. -/
def after? : Text → Text → Option Text
  | [], t => some t
  | _ :: _, [] => none
  | a :: start, b :: t => if a = b then after? start t else none

/-- The words that stand for values. -/
def words : List (Text × Scalar) :=
  [(['n', 'u', 'l', 'l'], .null), (['t', 'r', 'u', 'e'], .boolean true),
   (['f', 'a', 'l', 's', 'e'], .boolean false), (['N', 'a', 'N'], .float .nan),
   (['I', 'n', 'f', 'i', 'n', 'i', 't', 'y'], .float (.infinite false)),
   (['-', 'I', 'n', 'f', 'i', 'n', 'i', 't', 'y'], .float (.infinite true))]

/-- The value of the word that a text starts with. -/
def scanWord? (t : Text) : Option (Scalar × Text) :=
  words.findSome? fun (word, value) => (after? word t).map fun rest => (value, rest)

/-! ## Quoted texts -/

/-- What a backslash and a character stand for together. -/
def unescape? (c : CodePoint) : Option CodePoint :=
  if c = CodePoint.doubleQuote ∨ c = CodePoint.backslash ∨ c = '/' then some c
  else if c = 'b' then some (CodePoint.ofNat 0x08)
  else if c = 'f' then some (CodePoint.ofNat 0x0C)
  else if c = 'n' then some CodePoint.lineFeed
  else if c = 'r' then some CodePoint.carriageReturn
  else if c = 't' then some (CodePoint.ofNat 0x09)
  else none

/-- The number that four hexadecimal digits write. -/
def hexQuad? (a b c d : CodePoint) : Option Nat :=
  match a.hexValue?, b.hexValue?, c.hexValue?, d.hexValue? with
  | some a, some b, some c, some d => some (((a * 16 + b) * 16 + c) * 16 + d)
  | _, _, _, _ => none

/-- The characters read so far with one more, written by a numeric escape: a trailing surrogate
    that follows a leading one makes one character with it. -/
def pushUnit (done : Text) (afterLeading : Bool) (unit : CodePoint) : Text :=
  match done with
  | leading :: older =>
    if afterLeading && unit.isTrailing then CodePoint.join leading unit :: older
    else unit :: done
  | [] => [unit]

/-- Reads a text behind its opening quote. `opening` is the text from that quote on, `done` what is
    read so far in reverse, and `afterLeading` tells whether the last character was a leading
    surrogate, written by a numeric escape. A numeric escape cannot end a text. -/
def scanString (opening done : Text) (afterLeading : Bool) : Text → Scan Text
  | [] => .error (.fault .unterminatedString opening)
  | c :: rest =>
    if c = CodePoint.doubleQuote then .ok (done.reverse, rest)
    else if c = CodePoint.backslash then
      match rest with
      | [] => .error (.fault .unterminatedString opening)
      | e :: more =>
        if e = 'u' then
          match more with
          | h₁ :: h₂ :: h₃ :: h₄ :: next :: more =>
            match hexQuad? h₁ h₂ h₃ h₄ with
            | some n =>
              let unit := CodePoint.ofNat n
              scanString opening (pushUnit done afterLeading unit)
                unit.isLeading (next :: more)
            | none => .error (.fault .invalidHexEscape (e :: h₁ :: h₂ :: h₃ :: h₄ :: next :: more))
          | short => .error (.fault .invalidHexEscape (e :: short))
        else
          match unescape? e with
          | some x => scanString opening (x :: done) false more
          | none => .error (.fault .invalidEscape (c :: e :: more))
    else if c.val < 0x20 then .error (.fault .controlCharacter (c :: rest))
    else scanString opening (c :: done) false rest

/-! ## Numbers -/

/-- A number as it is written. -/
structure Numeral where
  negative : Bool
  whole : Text
  fraction : Text
  /-- The power of ten, if one is given. -/
  exponent : Option Int

/-- The digits that a text starts with, and what they leave. -/
def takeDigits (t : Text) : Text × Text := t.span CodePoint.isAsciiDigit

/-- The digits behind the point, if a point with digits comes first. -/
def scanFraction (t : Text) : Text × Text :=
  match t with
  | [] => ([], [])
  | c :: rest =>
    if c = '.' then
      match takeDigits rest with
      | ([], _) => ([], t)
      | (digits, rest) => (digits, rest)
    else ([], t)

/-- Whether a minus comes first, and what is behind the sign if there is one. -/
def takeSign (t : Text) : Bool × Text :=
  match t with
  | [] => (false, [])
  | sign :: rest =>
    if sign = '-' then (true, rest) else if sign = '+' then (false, rest) else (false, t)

/-- The exponent, if one with digits comes first. -/
def scanExponent (t : Text) : Option Int × Text :=
  match t with
  | [] => (none, [])
  | c :: rest =>
    if c = 'e' ∨ c = 'E' then
      let (negative, digits) := takeSign rest
      match takeDigits digits with
      | ([], _) => (none, t)
      | (digits, rest) =>
        let size : Int := Binary64.exponentSize digits
        (some (if negative then -size else size), rest)
    else (none, t)

/-- The digits before the point, and what they leave. A zero takes no more digits. -/
def scanWhole (t : Text) : Text × Text :=
  match t with
  | [] => ([], [])
  | c :: rest => if c = '0' then ([c], rest) else takeDigits t

/-- Whether a minus comes first, and what is behind it. -/
def takeMinus (t : Text) : Bool × Text :=
  match t with
  | [] => (false, [])
  | c :: rest => if c = '-' then (true, rest) else (false, t)

/-- The number that a text starts with. -/
def scanNumeral? (t : Text) : Option (Numeral × Text) :=
  let (negative, unsigned) := takeMinus t
  let (whole, rest) := scanWhole unsigned
  if whole.isEmpty then none
  else
    let (fraction, rest) := scanFraction rest
    let (exponent, rest) := scanExponent rest
    some (⟨negative, whole, fraction, exponent⟩, rest)

/-- The value of a number: an integer if it has neither point nor exponent. -/
def Numeral.value (n : Numeral) : Except Halt Scalar :=
  if n.fraction.isEmpty && n.exponent.isNone then
    if digitLimit < n.whole.length then .error (.longInteger n.whole.length)
    else
      let size : Int := Text.digitsValue n.whole
      .ok (.integer (if n.negative then -size else size))
  else .ok (.float (Binary64.ofNumeral n.negative n.whole n.fraction (n.exponent.getD 0)))

/-- Reads a value that is a word or a number. -/
def scanPlain (t : Text) : Scan Node :=
  match scanWord? t with
  | some (value, rest) => .ok (.scalar value, rest)
  | none =>
    match scanNumeral? t with
    | none => .error (.fault .expectedValue t)
    | some (n, rest) =>
      match n.value with
      | .ok value => .ok (.scalar value, rest)
      | .error halt => .error halt

/-! ## Values -/

mutual

/-- Reads the value that a text starts with. -/
def parseValue : (fuel room : Nat) → Text → Scan Node
  | 0, _, t => .error (.fault .expectedValue t)
  | _ + 1, _, [] => .error (.fault .expectedValue [])
  | fuel + 1, room, c :: rest =>
    if c = CodePoint.doubleQuote then
      match scanString (c :: rest) [] false rest with
      | .ok (t, rest) => .ok (.scalar (.string t), rest)
      | .error halt => .error halt
    else if c = '[' then
      match room with
      | 0 => .error .noRoom
      | room + 1 =>
        match skipSpace rest with
        | [] => .error (.fault .expectedValue [])
        | d :: more =>
          if d = ']' then .ok (.array [], more) else parseItems fuel room [] (d :: more)
    else if c = '{' then
      match room with
      | 0 => .error .noRoom
      | room + 1 =>
        match skipSpace rest with
        | [] => .error (.fault .expectedKey [])
        | d :: more =>
          if d = '}' then .ok (.object [], more) else parseEntries fuel room [] (d :: more)
    else scanPlain (c :: rest)

/-- Reads the items of an array from one item on, behind those already `done`, which are in
    reverse. -/
def parseItems : (fuel room : Nat) → List Node → Text → Scan Node
  | 0, _, _, t => .error (.fault .expectedValue t)
  | fuel + 1, room, done, t =>
    match parseValue fuel room t with
    | .error halt => .error halt
    | .ok (item, rest) =>
      match skipSpace rest with
      | [] => .error (.fault .expectedComma [])
      | c :: more =>
        if c = ']' then .ok (.array (item :: done).reverse, more)
        else if c = ',' then parseItems fuel room (item :: done) (skipSpace more)
        else .error (.fault .expectedComma (c :: more))

/-- Reads the entries of an object from one key on, behind those already `done`, which are in
    reverse. -/
def parseEntries : (fuel room : Nat) → List (Text × Node) → Text → Scan Node
  | 0, _, _, t => .error (.fault .expectedKey t)
  | _ + 1, _, _, [] => .error (.fault .expectedKey [])
  | fuel + 1, room, done, c :: rest =>
    if c = CodePoint.doubleQuote then
      match scanString (c :: rest) [] false rest with
      | .error halt => .error halt
      | .ok (key, rest) =>
        match skipSpace rest with
        | [] => .error (.fault .expectedColon [])
        | colon :: rest =>
          if colon = ':' then
            match parseValue fuel room (skipSpace rest) with
            | .error halt => .error halt
            | .ok (value, rest) =>
              match skipSpace rest with
              | [] => .error (.fault .expectedComma [])
              | c :: more =>
                if c = '}' then .ok (.object ((key, value) :: done).reverse, more)
                else if c = ',' then parseEntries fuel room ((key, value) :: done) (skipSpace more)
                else .error (.fault .expectedComma (c :: more))
          else .error (.fault .expectedColon (colon :: rest))
    else .error (.fault .expectedKey (c :: rest))

end

/-! ## Documents -/

/-- Documents nested deeper than this are not read. The limit is that of the call stack. Less than 150
    arrays and objects inside of one another always stay within it, and 10,000 never do; where in
    between it gives out depends on the calls around, which is left out. -/
def nestingLimit : Nat := 1000

/-- Reads a document that is the whole text. A byte order mark is not part of a document. -/
def parseDocument (t : Text) : Except Halt Node :=
  if t.head? = some CodePoint.byteOrderMark then .error (.fault .byteOrderMark t)
  else
    match parseValue (2 * t.length + 1) nestingLimit (skipSpace t) with
    | .error halt => .error halt
    | .ok (node, rest) =>
      match skipSpace rest with
      | [] => .ok node
      | c :: rest => .error (.fault .extraData (c :: rest))

/-- What stopped the reading of a text, told to its writer. -/
def Halt.failure (t : Text) : Halt → Failure
  | fault f rest => .malformed f (Position.ofOffset t (t.length - rest.length))
  | longInteger digits => .longInteger digits
  | noRoom => .tooDeep nestingLimit

/-- Reads a document of at most so many characters. -/
def parse (limit : Int) (t : Text) : Except Failure Node :=
  if limit < t.length then .error (.tooLong limit)
  else
    match parseDocument t with
    | .ok node => .ok node
    | .error halt => .error (halt.failure t)

end Redaction.Json
