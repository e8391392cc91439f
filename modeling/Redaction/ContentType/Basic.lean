/-
  The type of a body, as a header tells it.

  * `MediaType` is the type itself, such as `application/json`, and `MediaType.suffixes` are the
    formats that it builds upon;
  * `ContentType.read` reads the header: the type, and the name of the encoding if there is one.
-/
import Redaction.ContentType.Parameter
import Redaction.Text.Lower
import Redaction.Text.Order

namespace Redaction

/-- The type of a body. -/
structure MediaType where
  main : Text
  sub : Text
  deriving DecidableEq

namespace MediaType

/-- The slash between the two parts. -/
def slash : CodePoint := '/'

/-- The type that is written with a slash between its parts. -/
def ofText (t : Text) : MediaType :=
  { main := t.takeWhile fun c => c ≠ slash
    sub := (t.dropWhile fun c => c ≠ slash).drop 1 }

/-- A type with a slash between its parts. -/
def text (type : MediaType) : Text := type.main ++ slash :: type.sub

/-- Plain text, which is assumed where nothing is said. -/
def plain : MediaType := ⟨("text" : Text), ("plain" : Text)⟩

/-- The formats that a subtype builds upon, each once and in order. Plus signs separate them, and a
    mark for subtypes that are not registered may stand before them. -/
def formatsOf (sub : Text) : List Text :=
  let registered := if sub.take 2 = ("x-" : Text) then sub.drop 2 else sub
  (registered.splitOn ('+' : CodePoint)).eraseDups.mergeSort Text.le

/-- The formats that a type builds upon. -/
def formats (type : MediaType) : List Text := formatsOf type.sub

end MediaType

/-- What a header says of a body. -/
structure ContentType where
  mediaType : MediaType
  /-- The name of the encoding. -/
  charset : Option Text
  deriving DecidableEq

namespace ContentType

variable [Encoding.Codecs]

/-- Reads one of the two parts of a media type. -/
def readToken (t : Text) : Except Flaw (Text × Text) := do
  let (token, rest) ← readWord isTokenEnd t
  return (Text.lower (Text.trim token), rest)

/-- Reads the media type, and gives the text from the first parameter on. What is no type stands for
    plain text. -/
def readMediaType (t : Text) : Except ContentTypeError (MediaType × Text) := do
  let parametersOf (t : Text) : Except ContentTypeError Text := do
    return (← skipToSemicolon t).drop 1
  match readToken t with
  | .error (.fatal e) => throw e
  | .error .malformed => return (.plain, ← parametersOf t)
  | .ok (main, rest) =>
    if rest.head? = some MediaType.slash then
      let rest := rest.drop 1
      match readToken rest with
      | .error (.fatal e) => throw e
      | .error .malformed => return (⟨main, MediaType.plain.sub⟩, ← parametersOf rest)
      | .ok (sub, rest) =>
        if rest.isEmpty ∨ rest.head? = some ';' then return (⟨main, sub⟩, rest.drop 1)
        else return (.plain, ← parametersOf rest)
    else return (.plain, ← parametersOf rest)

/-- The byte that a surrogate keeps, or else the bytes of a character in UTF-8. -/
def keptBytes (c : CodePoint) : Bytes :=
  match Encoding.keptByte? c with
  | some b => [b]
  | none => (Encoding.utf8Bytes c).getD []

/-- A text with the characters that the kept bytes stand for in UTF-8. -/
def restoreBytes (t : Text) : Text :=
  (Encoding.decodeTreating Encoding.replacing (.utf8 false)
    (t.flatMap keptBytes)).toOption.getD []

/-- A media type with the characters that the kept bytes stand for. -/
def restoreType (type : MediaType) : MediaType := ⟨restoreBytes type.main, restoreBytes type.sub⟩

/-- Parameters as they are put together again. -/
def joined (values : List (Text × Text)) : Text :=
  let each : List Text := values.map fun (name, value) =>
    if value.isEmpty then name
    else
      name ++ ("=\"" : Text) ++
        (value.flatMap fun c =>
          if c = CodePoint.backslash ∨ c = CodePoint.doubleQuote then [CodePoint.backslash, c]
          else [c]) ++ ("\"" : Text)
  if each.isEmpty then [] else (' ' : CodePoint) :: ([("; " : Text)].intercalate (each.map ([·]))).flatten

/-- Whether a character is a surrogate that keeps no byte. -/
def isLoneSurrogate (c : CodePoint) : Bool := c.isSurrogate && (Encoding.keptByte? c).isNone

/-- The first surrogates in a text that keep no bytes, if there are any. Surrogates behind them
    count with them. -/
def loneSurrogate? (t : Text) : Option ContentTypeError :=
  match t.dropWhile fun c => ! isLoneSurrogate c with
  | [] => none
  | first :: rest =>
    some (.loneSurrogate (t.length - (rest.length + 1)) first
      (rest.takeWhile CodePoint.isSurrogate).length)

/-- The name of the parameter for the encoding. -/
def charsetName : Text := ("charset" : Text)

/-- The encoding that parameters name. The last spelling of the name counts, and an empty value does
    not. -/
def charsetOf (values : List (Text × Text)) : Option Text :=
  let named := values.filter fun value => Text.lower (restoreBytes value.1) = charsetName
  (named.getLast?.map fun value => restoreBytes value.2).filter fun value => ! value.isEmpty

/-- Reads a header. -/
def read (t : Text) : Except ContentTypeError ContentType := do
  let (mediaType, rest) ← readMediaType t
  let values ← valuesByName (← readParameters rest)
  match loneSurrogate? (t.take (t.length - rest.length) ++ joined values) with
  | some e => throw e
  | none => return { mediaType := restoreType mediaType, charset := charsetOf values }

/-- Reads a header that may be missing or empty, which says nothing. -/
def read? : Option Text → Except ContentTypeError (Option ContentType)
  | none | some [] => .ok none
  | some t => do return some (← read t)

end ContentType

end Redaction
