/-
  Errors that leave a block of code.

  * `Raised` is such an error, given by the name of its kind and what it says;
  * `Raised.make` is the error that comes of asking for one: kinds can have a second name, and some
    cannot be made of a message alone;
  * `Raised.isError` tells errors from demands to stop the program;
  * `Raised.message` and `Raised.ending` are what a report shows of it;
  * `Raised.ofResult` and `Raised.toResult`: a block of code ends with an error or without one;
  * `Raised.reachesCallers` tells whether errors of the library are kept from its callers.
-/
import Redaction.Environment
import Redaction.Text.Order
import Redaction.Text.Quoted

namespace Redaction

/-- An error that leaves a block of code. -/
structure Raised where
  /-- The name of its kind. -/
  kind : Text
  /-- What it says, if it says anything. -/
  detail : Option Text
  deriving DecidableEq

namespace Raised

/-- An error that says something. -/
def saying (kind : String) (detail : Text) : Raised := ⟨kind, some detail⟩

/-! ## Kinds -/

/-- The kinds that demand to stop the program and are no errors. -/
def stops : List Text :=
  [("KeyboardInterrupt" : Text), ("SystemExit" : Text), ("GeneratorExit" : Text),
   ("BaseException" : Text)]

/-- Whether it is an error. -/
def isError (raised : Raised) : Bool := ! stops.contains raised.kind

/-- The kinds of errors of this library. -/
def ownKinds : List Text :=
  [("DbStatementError" : Text), ("DbStatementConfigError" : Text), ("StatementParseError" : Text),
   ("StatementSizeLimitExceeded" : Text)]

/-- The full name of the kind. -/
def qualifiedKind (raised : Raised) : Text :=
  if ownKinds.contains raised.kind then ("dbstatement.exceptions." : Text) ++ raised.kind
  else raised.kind

/-! ## Making errors -/

/-- The name of a kind that goes by several. -/
def mainName (kind : Text) : Text :=
  if [("IOError" : Text), ("EnvironmentError" : Text)].contains kind then ("OSError" : Text)
  else kind

/-- That a kind takes another number of arguments. -/
def takesExactly (maker : String) (arguments given : Nat) : Text :=
  (maker : Text) ++ (" takes exactly " : Text) ++ Text.decimal arguments ++
    (" arguments (" : Text) ++ Text.decimal given ++ (" given)" : Text)

/-- What a kind misses if no more than `given` arguments are there, of which the first is a message.
    Most kinds miss nothing. -/
def lack? (kind : Text) (given : Nat) : Option Text :=
  if [("UnicodeDecodeError" : Text), ("UnicodeEncodeError" : Text)].contains kind then
    some (takesExactly "function" 5 given)
  else if kind = ("UnicodeTranslateError" : Text) then some (takesExactly "function" 4 given)
  else if [("ExceptionGroup" : Text), ("BaseExceptionGroup" : Text)].contains kind then
    some (takesExactly "BaseExceptionGroup.__new__()" 2 given)
  else if kind = ("StatementSizeLimitExceeded" : Text) then
    some (kind ++ (".__init__() missing " : Text) ++
      if given = 0 then ("2 required positional arguments: 'what' and 'limit'" : Text)
      else ("1 required positional argument: 'limit'" : Text))
  else none

/-- The error that comes of asking for one of a kind, with a message or without one: the error that
    was asked for, or else one about what is missing. -/
def make (kind : Text) (detail : Option Text) : Raised :=
  match lack? kind (if detail.isSome then 1 else 0) with
  | some lack => .saying "TypeError" lack
  | none => ⟨mainName kind, detail⟩

/-! ## Reports -/

/-- The kind of errors about missing keys, which name the key in quotes. -/
def missingKey : Text := ("KeyError" : Text)

/-- The kinds of errors in the text of a program. -/
def textKinds : List Text :=
  [("SyntaxError" : Text), ("IndentationError" : Text), ("TabError" : Text)]

/-- What an error says. -/
def message (raised : Raised) : Text :=
  match raised.detail with
  | none => if textKinds.contains raised.kind then ("None" : Text) else []
  | some detail => if raised.kind = missingKey then detail.quoted else detail

/-- What the end of a report says of an error. -/
def endingMessage (raised : Raised) : Text :=
  if textKinds.contains raised.kind then
    match raised.detail with
    | none | some [] => ("<no detail available>" : Text)
    | some detail => detail
  else raised.message

/-- The end of a report on an error. -/
def ending (raised : Raised) : Text :=
  if raised.endingMessage.isEmpty then raised.qualifiedKind
  else raised.qualifiedKind ++ (": " : Text) ++ raised.endingMessage

/-! ## Blocks of code -/

/-- The error that leaves a block of code, if it ends with one. -/
def ofResult : Except Raised Unit → Option Raised
  | .ok _ => none
  | .error raised => some raised

/-- A block of code that ends with an error, if there is one. -/
def toResult : Option Raised → Except Raised Unit
  | none => .ok ()
  | some raised => .error raised

/-! ## Whom errors of the library reach -/

/-- The environment variable that names the running test. -/
def testVariable : Text := ("PYTEST_CURRENT_TEST" : Text)

/-- What the names of tests of the guard itself hold. -/
def guardTest : Text := ("test_internal_exception" : Text)

/-- Whether errors of the library reach its callers: they do in tests, unless the guard itself is
    tested. -/
def reachesCallers (environment : Environment) : Bool :=
  match environment.find? testVariable with
  | none => false
  | some test => ! Text.occursIn guardTest test

end Raised

end Redaction
