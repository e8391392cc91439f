/-
  The place that a request goes to.

  An endpoint is a path, maybe with a query or a fragment behind it.

  * `Endpoint.path` is the path alone;
  * `Endpoint.index?` is the index that the path starts with, `Endpoint.api` the rest of it from the
    first step on that starts with a low line;
  * `Endpoint.takesBatch` tells the endpoints to which batches are sent.
-/
import Redaction.Text.Words

namespace Redaction.Endpoint

/-- The slash between the steps of a path. -/
def slash : CodePoint := '/'

/-- A step of a path that names no index. -/
def isReserved (step : Text) : Bool := step.head? = some ('_' : CodePoint)

/-- The path without query and fragment. -/
def path (endpoint : Text) : Text :=
  endpoint.takeWhile fun c => c ≠ ('?' : CodePoint) ∧ c ≠ ('#' : CodePoint)

/-- The index that the path starts with, if it starts with one. -/
def index? (endpoint : Text) : Option Text :=
  let first := ((path endpoint).dropWhile (· = slash)).takeWhile (· ≠ slash)
  if first.isEmpty ∨ isReserved first then none else some first

/-- The path from the first reserved step on. -/
def api (endpoint : Text) : Text :=
  let steps := (Text.trimBy (· = slash) (path endpoint)).splitOn slash
  [slash].intercalate (steps.dropWhile fun step => ! isReserved step)

/-- The endpoints that take batches. -/
def batchApis : List Text :=
  [("_msearch" : Text), ("_bulk" : Text), ("_msearch/template" : Text)]

/-- Whether an endpoint takes batches. -/
def takesBatch (endpoint : Text) : Bool := batchApis.contains (api endpoint)

end Redaction.Endpoint
