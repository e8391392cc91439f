/-
  Parameters of a header.

  A parameter is a name and a value. Its value can be cut into numbered parts (`name*0`, `name*1`),
  and a star behind the name marks an extended value, which starts with the name of an encoding and
  a language, each followed by a single quote, and escapes bytes by their numbers.

  * `readParameter` reads one parameter, and `readParameters` all of them;
  * `valueOf` puts the parts of one value together and decodes them;
  * `valuesByName` are the values of all parameters.

  A parameter that is malformed is skipped, as long as no flaw makes the header unreadable as a whole.
-/
import Redaction.ContentType.Lexical
import Redaction.Text.Digit

namespace Redaction.ContentType

variable [Encoding.Codecs]

/-! ## Reading -/

/-- A parameter, or a part of one. -/
structure Parameter where
  name : Text
  /-- The number of the part; zero where there is none. -/
  part : Nat := 0
  /-- Whether the value escapes bytes by their numbers. -/
  extended : Bool := false
  /-- The name of the encoding of an extended value. -/
  encoding : Text := ("us-ascii" : Text)
  /-- The value; there is none if an extended value in quotes is empty. -/
  value : Option Text := some []

/-- Reads a run of characters, of which there has to be one, up to one that ends it. -/
def readRun (ends : CodePoint → Bool) (t : Text) : Except Flaw (Text × Text) :=
  let run := t.takeWhile fun c => ! ends c
  if run.isEmpty then .error .malformed else .ok (run, t.drop run.length)

/-- Reads a run between blanks and comments. -/
def readWord (ends : CodePoint → Bool) (t : Text) : Except Flaw (Text × Text) := do
  let (run, rest) ← readRun ends (← skipGap t)
  return (run, ← skipGap rest)

/-- Numbers with more digits than this are not read. -/
def numberLimit : Nat := 4300

/-- The number that digits of any script write. Numbers with too many digits are not read. -/
def partNumber? (digits : Text) : Option Nat :=
  if numberLimit < digits.length then none
  else digits.foldlM (fun n c => c.decimalValue?.map (10 * n + ·)) 0

/-- Reads the number of a part behind its star, if a number stands there. -/
def readPart (t : Text) : Except Flaw (Nat × Text) :=
  let digits := (t.drop 1).takeWhile CodePoint.isDigit
  if digits.isEmpty then .ok (0, t)
  else
    match partNumber? digits with
    | some n => .ok (n, t.drop (digits.length + 1))
    | none => .error (.fatal (.unreadableNumber digits))

/-- Reads the star that marks an extended value, if it stands there. -/
def readExtendedMark : Text → Except Flaw (Bool × Text)
  | [] => .error .malformed
  | c :: rest =>
    if c = '*' then
      if rest.isEmpty then .error (.fatal .endsEarly) else .ok (true, rest)
    else .ok (false, c :: rest)

/-- Reads a value in quotes or without them. -/
def readValue (t : Text) : Except Flaw (Text × Text) := do
  let t ← skipGap t
  if t.head? = some CodePoint.doubleQuote then
    let (value, rest) := quotedString (t.drop 1)
    return (value, ← skipGap rest)
  else readWord isValueEnd t

/-- Reads the language between the two single quotes that follow the name of an encoding. A single
    quote at the end of a text counts for both. -/
def readLanguage : Text → Except Flaw Text
  | [] => .error .malformed
  | c :: rest =>
    if c ≠ CodePoint.quote then .error .malformed
    else if rest.isEmpty then .ok []
    else if rest.head? = some CodePoint.quote then .ok (rest.drop 1)
    else do
      let (_, rest) ← readRun isAttributeEnd rest
      if rest.head? = some CodePoint.quote then return rest.drop 1 else throw .malformed

/-- The text behind encoding and language inside of quotes, with one blank for every run of
    them. -/
def quotedRestOnto (done : Text) : Text → Text
  | [] => done.reverse
  | c :: rest =>
    if isSpace c then quotedRestOnto (' ' :: done) (rest.dropWhile CodePoint.isBlank)
    else if c = CodePoint.doubleQuote then quotedRestOnto (c :: done) rest
    else quotedRestOnto ((quotedRun c rest).1.reverseAux done) (quotedRun c rest).2
  termination_by t => t.length
  decreasing_by
    · exact Nat.lt_succ_of_le (List.dropWhile_suffix CodePoint.isBlank).length_le
    · exact Nat.lt_succ_self _
    · exact Nat.lt_succ_of_le (length_quotedRun c rest)

/-- A parameter with the first part of an extended value, of which the encoding was read. -/
def withQuotedRest (parameter : Parameter) (encoding : Text) (t : Text) : Except Flaw Parameter := do
  let rest ← readLanguage t
  return { parameter with
    encoding := encoding
    value := if rest.isEmpty then none else some (quotedRestOnto [] rest) }

/-- A parameter with an extended value that stands in quotes as a whole, and nothing where the value
    is none of that sort. -/
def withQuoted? (parameter : Parameter) (inside : Text) : Except Flaw (Option Parameter) :=
  if parameter.part ≠ 0 then
    if ! inside.isEmpty && inside.all fun c => ! isValueEnd c then
      .ok (some { parameter with value := some inside })
    else .ok none
  else if inside.head? = some CodePoint.quote then do
    return some (← withQuotedRest parameter parameter.encoding inside)
  else do
    let (encoding, rest) ← readRun isAttributeEnd inside
    if rest.head? = some CodePoint.quote then
      return some (← withQuotedRest parameter encoding rest)
    else return none

/-- A parameter with the value that a text starts with. Only the first part of an extended value
    names an encoding, and it may leave that out if it is the last thing in the header. -/
def withValue (parameter : Parameter) (t : Text) : Except Flaw (Parameter × Text) := do
  let (first, rest) ←
    if t.head? = some CodePoint.quote then pure (none, t)
    else do
      let (first, rest) ← readValue t
      pure (some first, rest)
  let initial : Bool := parameter.extended && parameter.part = 0
  if rest.isEmpty ∨ (initial = false ∧ rest.head? ≠ some CodePoint.quote) then
    return ({ parameter with value := first }, rest)
  else
    let rest ← readLanguage rest
    let (value, rest) ← readValue rest
    return ({ parameter with encoding := first.getD parameter.encoding, value := some value }, rest)

/-- A parameter with the value behind the equals sign. -/
def readAssigned (parameter : Parameter) (t : Text) : Except Flaw (Parameter × Text) := do
  if t.head? = some '=' then
    let t ← skipGap (t.drop 1)
    if parameter.extended ∧ t.head? = some CodePoint.doubleQuote then
      let (inside, rest) := quotedString (t.drop 1)
      let behind ← skipGap rest
      match ← withQuoted? parameter inside with
      | some parameter => return (parameter, behind)
      | none => withValue parameter t
    else withValue parameter t
  else throw .malformed

/-- Reads a parameter. One without a value has the empty value. -/
def readParameter (t : Text) : Except Flaw (Parameter × Text) := do
  let (name, t) ← readWord isAttributeEnd t
  let named : Parameter := { name := Text.trim name }
  if t.isEmpty ∨ t.head? = some ';' then return (named, t)
  else if t.head? = some '*' then
    let (part, t) ← readPart t
    let (extended, t) ← readExtendedMark t
    readAssigned { named with part, extended } t
  else readAssigned named t

/-- Reads parameters behind those that are `done`, which are in reverse. Every parameter but the last
    ends with a semicolon, so that one more than there are semicolons is enough fuel. -/
def readParametersOnto (done : List Parameter) :
    Nat → Text → Except ContentTypeError (List Parameter)
  | 0, _ => .ok done.reverse
  | _ + 1, [] => .ok done.reverse
  | fuel + 1, t =>
    match readParameter t with
    | .error (.fatal e) => .error e
    | .error .malformed => do readParametersOnto done fuel ((← skipToSemicolon t).drop 1)
    | .ok (parameter, rest) => do
      readParametersOnto (parameter :: done) fuel ((← skipToSemicolon rest).drop 1)

/-- Reads all parameters of a text. -/
def readParameters (t : Text) : Except ContentTypeError (List Parameter) :=
  readParametersOnto [] (t.count (';' : CodePoint) + 1) t

/-! ## Values -/

/-- The text that an extended value stands for in an encoding. Bytes that it cannot read are kept as
    surrogates, and so are all bytes beyond ASCII where there is no such encoding. -/
def decodeExtended (name value : Text) : Except ContentTypeError Text :=
  match Encoding.encode? (.utf8 false) value with
  | none => .ok (Text.unescapeHex '%' value)
  | some bytes =>
    let bytes := bytesOf (Text.unescapeHex '%' (bytes.map fun b => CodePoint.ofNat b.toNat))
    let decoded (encoding : Encoding) : Except ContentTypeError Text :=
      (Encoding.decodeTreating Encoding.escaping encoding bytes).mapError fun failure =>
        .undecodable failure.message
    if name.any CodePoint.isSurrogate then decoded .ascii
    else if name.any (·.val = 0) then .error (.encoding name .zeroCharacter)
    else if bytes.isEmpty then .ok []
    else
      match Encoding.named? name with
      | some .unreadable => .error (.encoding name .unreadable)
      | some encoding => decoded encoding
      | none =>
        match Encoding.Codecs.read? true name bytes with
        | none => decoded .ascii
        | some (.text t) => .ok t
        | some (.undecodable message) => .error (.undecodable message)
        | some (.failed message) => .error (.encoding name (.failed message))

/-- The text of one part. -/
def partText (encoding : Text) (parameter : Parameter) : Except ContentTypeError Text :=
  match parameter.value with
  | none => .error .emptyValue
  | some value => if parameter.extended then decodeExtended encoding value else .ok value

/-- The texts of the parts from a number on. Parts that are out of order only count if they are
    extended. -/
def partTexts (encoding : Text) : Nat → List Parameter → Except ContentTypeError (List Text)
  | _, [] => .ok []
  | n, parameter :: parameters =>
    if parameter.part ≠ n ∧ parameter.extended = false then partTexts encoding n parameters
    else do
      let t ← partText encoding parameter
      let ts ← partTexts encoding (n + 1) parameters
      return t :: ts

/-- The value whose parts are given. A part may come in any place, and the first one names the
    encoding; but of two values without numbers the first counts. -/
def valueOf (parts : List Parameter) : Except ContentTypeError Text :=
  match parts.mergeSort fun a b => a.part ≤ b.part with
  | [] => .ok []
  | first :: rest => do
    let again : Bool := ! first.extended && rest.head?.any fun second => second.part = 0
    let ts ← partTexts first.encoding 0 (first :: if again then [] else rest)
    return ts.flatten

/-- The values of parameters by their names, in the order in which the names come up. -/
def valuesByName (parameters : List Parameter) : Except ContentTypeError (List (Text × Text)) :=
  (parameters.map Parameter.name).eraseDups.mapM fun name => do
    return (name, ← valueOf (parameters.filter fun parameter => parameter.name = name))

end Redaction.ContentType
