/-
  Shortening a list.

  * `upTo n xs` keeps the first `n` elements; a negative `n` counts from the end, so that `-n`
    elements are left out;
  * `abridge middle limit xs` makes a list fit a limit by putting `middle` in place of its inner
    part. The head keeps the odd element.
-/

namespace Redaction

variable {α : Type}

/-- The first `n` elements of a list, and for a negative `n` all but the last `-n`. -/
def upTo (n : Int) (xs : List α) : List α :=
  if n < 0 then xs.take (xs.length + n).toNat else xs.take n.toNat

theorem upTo_natCast (n : Nat) (xs : List α) : upTo n xs = xs.take n := by
  have h : ¬ (n : Int) < 0 := by omega
  simp [upTo, h]

/-- A list made to fit a limit: `middle` stands for its inner part, unless `middle` alone fills
    the limit; then the list is cut off at the limit. -/
def abridge (middle : List α) (limit : Int) (xs : List α) : List α :=
  if xs.length ≤ limit then xs
  else if limit ≤ middle.length then upTo limit xs
  else
    let kept := (limit - middle.length).toNat
    let tail := kept / 2
    xs.take (kept - tail) ++ middle ++ xs.drop (xs.length - tail)

theorem abridge_of_le {middle xs : List α} {limit : Int} (h : xs.length ≤ limit) :
    abridge middle limit xs = xs := by
  simp [abridge, h]

end Redaction
