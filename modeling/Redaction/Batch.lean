/-
  Batches: documents on lines of their own.

  * `linesOf` are the lines of a batch; the end of the last line starts no other;
  * `segments` are the lines redacted, each on its own, as long as they lie within the limit;
  * `redact` joins them with semicolons;
  * `split` takes a redacted batch apart at the semicolons outside of quoted texts.
-/
import Redaction.Json.Redaction

namespace Redaction.Batch

open Json (Limits)

/-! ## Lines -/

/-- A line without the carriage return at its end. -/
def dropReturn (line : Text) : Text :=
  if line.getLast? = some CodePoint.carriageReturn then line.dropLast else line

/-- The lines of a text. -/
def linesOf (t : Text) : List Text :=
  let lines := t.splitOn CodePoint.lineFeed
  (if lines.getLast? = some [] then lines.dropLast else lines).map dropReturn

/-- Whether a line with its end still fits what is left of the limit. The end of the last line that
    fits may lie beyond the limit. -/
def fits (left : Int) (line : Text) : Bool := -1 ≤ left - (line.length + 1)

/-- The lines from the first on that lie within the limit, in reverse behind `done`, and whether these
    are all of them. A line counts with one character for its end. -/
def withinOnto (done : List Text) (left : Int) : List Text → List Text × Bool
  | [] => (done.reverse, true)
  | line :: lines =>
    if fits left line then withinOnto (line :: done) (left - (line.length + 1)) lines
    else (done.reverse, false)

/-- The lines from the first on that lie within the limit, and whether these are all of them. -/
def within (limit : Int) (lines : List Text) : List Text × Bool := withinOnto [] limit lines

/-! ## Segments -/

/-- The sign for a line that cannot be redacted. -/
def placeholder : Text := ['?']

/-- What becomes of a line. -/
def segment (limits : Limits) (line : Text) : Logged Text := do
  match ← Json.redactLine limits line with
  | some redacted => return redacted
  | none => return if limits.keepInvalid then line else placeholder

/-- What becomes of the lines of a text, in order. -/
def segments (limits : Limits) (t : Text) : Logged (List Text) :=
  let (lines, all) := within limits.length (linesOf t)
  let results := lines.map (segment limits)
  { value := results.map Logged.value
    log := (results.map Logged.log).flatten ++ if all then [] else [.batchCut limits.length] }

/-- The sign between segments. -/
def separator : CodePoint := ';'

/-- A batch that is a text, redacted. -/
def redactText (limits : Limits) (t : Text) : Logged Text := do
  let results ← segments limits t
  return [separator].intercalate results

/-- A batch that is a body, redacted. -/
def redact [Encoding.Codecs] (limits : Limits) (encoding : Text) (body : Option Payload) :
    Except Encoding.NameError (Logged Text) :=
  match Body.decode encoding body with
  | .error e => .error e
  | .ok decoded => .ok do
    match ← decoded with
    | none => return []
    | some t => redactText limits t

/-! ## Taking a batch apart -/

/-- Where a character of a redacted batch stands. -/
inductive Place where
  | outside
  | quoted
  | escaped
  deriving DecidableEq, Repr

/-- Where the character behind `c` stands. -/
def Place.next (place : Place) (c : CodePoint) : Place :=
  match place with
  | outside => if c = CodePoint.doubleQuote then quoted else outside
  | quoted =>
    if c = CodePoint.backslash then escaped
    else if c = CodePoint.doubleQuote then outside
    else quoted
  | escaped => quoted

/-- The pieces of a text between the semicolons outside of quoted texts. `piece` is what is read of
    the current piece, in reverse. -/
def splitOnto (place : Place) (piece : Text) : Text → List Text
  | [] => [piece.reverse]
  | c :: rest =>
    if place = .outside ∧ c = separator then piece.reverse :: splitOnto .outside [] rest
    else splitOnto (place.next c) (c :: piece) rest

/-- The pieces of a text between the semicolons outside of quoted texts. -/
def split (t : Text) : List Text := splitOnto .outside [] t

end Redaction.Batch
