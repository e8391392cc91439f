/-
  Environment variables.

  * `Environment` gives values to names;
  * `Environment.find?` looks a name up.
-/
import Redaction.Text.CodePoint

namespace Redaction

/-- Environment variables with their values. -/
abbrev Environment := List (Text × Text)

/-- The value of an environment variable; an empty one counts as not set. -/
def Environment.find? (environment : Environment) (name : Text) : Option Text :=
  match environment.lookup name with
  | some [] => none
  | found => found

end Redaction
