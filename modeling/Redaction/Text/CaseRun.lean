/-
  Case mappings given by runs.

  A run is a stretch of letters at equal distances, each of which has its counterpart at the same
  distance from itself.

  * `CaseRun.map?` looks a letter up in ascending runs and gives its counterpart.
-/
import Redaction.Text.CodePoint

namespace Redaction

/-- Letters from `first` to `last` in steps of `stride`, whose counterparts are `shift` away. -/
structure CaseRun where
  first : Nat
  last : Nat
  stride : Nat
  shift : Int

namespace CaseRun

/-- The counterpart of a letter. The search ends at the first run that reaches the letter, so the
    runs have to be in order. -/
def map? : List CaseRun → Nat → Option CodePoint
  | [], _ => none
  | run :: others, n =>
    if n ≤ run.last then
      if run.first ≤ n ∧ (n - run.first) % run.stride = 0 then
        some (CodePoint.ofNat (n + run.shift).toNat)
      else none
    else map? others n

end CaseRun

end Redaction
