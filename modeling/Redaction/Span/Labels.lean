/-
  Names and attributes of spans for calls to databases.

  * `Convention` says under which keys the attributes are told, `Convention.ofEnvironment` which
    convention the environment asks for;
  * `Labels` are what a statement gives to a span, empty where it gives nothing;
  * `Labels.name` and `Labels.attributes` put them on the span.
-/
import Redaction.Statement

namespace Redaction

/-! ## Conventions -/

/-- The keys that are used for attributes. A convention of any other name has no keys. -/
inductive Convention where
  | old
  | stable
  | both
  | unknown (name : Text)
  deriving DecidableEq

namespace Convention

/-- The name of a convention. -/
def text : Convention → Text
  | old => ("old" : Text)
  | stable => ("stable" : Text)
  | both => ("dup" : Text)
  | unknown name => name

/-- The convention of a name. -/
def ofText (name : Text) : Convention :=
  if name = old.text then old
  else if name = stable.text then stable
  else if name = both.text then both
  else unknown name

/-- Whether the old keys are used. -/
def usesOld : Convention → Bool
  | old | both => true
  | _ => false

/-- Whether the stable keys are used. -/
def usesStable : Convention → Bool
  | stable | both => true
  | _ => false

/-- The environment variable with the conventions that are asked for, between commas. -/
def environmentVariable : Text := ("OTEL_SEMCONV_STABILITY_OPT_IN" : Text)

/-- What asks for the stable keys. -/
def askForStable : Text := ("database" : Text)

/-- What asks for the old and the stable keys. -/
def askForBoth : Text := ("database/dup" : Text)

/-- The convention that the environment asks for. -/
def ofEnvironment (environment : Environment) : Convention :=
  let asked := ((environment.find? environmentVariable).getD []).splitOn (',' : CodePoint)
  let asked := asked.map Text.trim
  if asked.contains askForBoth then both
  else if asked.contains askForStable then stable
  else old

/-- The convention of a name, or the one that the environment asks for where no name is given. -/
def choose (environment : Environment) : Option Text → Convention
  | none | some [] => ofEnvironment environment
  | some name => ofText name

/-- An attribute under the keys of a convention. An empty one is not told. -/
def keyed (convention : Convention) (oldKey stableKey : String) (value : Payload) :
    List (Text × Payload) :=
  if value.isEmpty then []
  else
    (if convention.usesOld then [((oldKey : Text), value)] else []) ++
      if convention.usesStable then [((stableKey : Text), value)] else []

end Convention

/-! ## Labels -/

/-- What a statement gives to a span. -/
structure Labels where
  operation : Text := []
  database : Text := []
  /-- The statement without its values, which is in bytes if it was handed over in bytes. -/
  sanitized : Payload := .text []
  deriving DecidableEq

namespace Labels

/-- The report on a part of a name that is no text. -/
def notText (place : Nat) (value : Value) : Raised :=
  .saying "TypeError"
    (("sequence item " : Text) ++ Text.decimal place ++ (": expected str instance, " : Text) ++
      value.sort ++ (" found" : Text))

/-- A part of a name at a place. -/
def part (place : Nat) (value : Value) : Except Raised Text :=
  match value with
  | .text t => .ok t
  | value => if value.isTruthy then .error (notText place value) else .ok []

/-- Text or bytes as a value. -/
def valueOf : Payload → Value
  | .text t => .text t
  | .bytes b => .bytes b

/-- The labels of a statement, if there is one. Operation and database have to be texts. -/
def ofStatement : Option Statement → Except Raised Labels
  | none => .ok {}
  | some statement => do
    let operation ← part 0 (valueOf statement.operation)
    let database ← part (if operation.isEmpty then 0 else 1) statement.database
    return { operation, database, sanitized := statement.sanitized.getD (.text []) }

/-- The name of a span: operation and database, as far as they are known, or else the system. -/
def name (system : Text) (labels : Labels) : Text :=
  let parts := [labels.operation, labels.database].filter fun part => ! part.isEmpty
  if parts.isEmpty then system else (" " : Text).intercalate parts

/-- The attributes of a span. -/
def attributes (convention : Convention) (system : Text) (labels : Labels) :
    List (Text × Payload) :=
  convention.keyed "db.system" "db.system.name" (.text system) ++
    convention.keyed "db.name" "db.namespace" (.text labels.database) ++
    convention.keyed "db.operation" "db.operation.name" (.text labels.operation) ++
    convention.keyed "db.statement" "db.query.text" labels.sanitized

end Labels

end Redaction
