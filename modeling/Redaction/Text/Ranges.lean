/-
  Sets of code points given by ranges.

  A class of characters is written down as its ranges in ascending order.

  * `Ranges.contains` looks a number up, and stops at the first range that reaches it;
  * `mem_of_contains`: what is found lies in one of the ranges.
-/
import Redaction.Text.CodePoint

namespace Redaction

/-- Ranges of numbers, both ends included, in ascending order. -/
abbrev Ranges := List (Nat × Nat)

namespace Ranges

/-- Whether a number lies in one of the ranges. The search ends at the first range that reaches
    the number, so the ranges have to be in order. -/
def contains : Ranges → Nat → Bool
  | [], _ => false
  | (first, last) :: others, n => if n ≤ last then first ≤ n else contains others n

/-- The range that holds a number. -/
def find? : Ranges → Nat → Option (Nat × Nat)
  | [], _ => none
  | (first, last) :: others, n =>
    if n ≤ last then (if first ≤ n then some (first, last) else none) else find? others n

theorem mem_of_contains {ranges : Ranges} {n : Nat} (h : ranges.contains n) :
    ∃ range ∈ ranges, range.1 ≤ n ∧ n ≤ range.2 := by
  induction ranges with
  | nil => simp [contains] at h
  | cons range others ih =>
    obtain ⟨first, last⟩ := range
    unfold contains at h
    split at h
    · next hn => exact ⟨(first, last), List.mem_cons_self, by simpa using h, hn⟩
    · obtain ⟨range, hmem, hrange⟩ := ih h
      exact ⟨range, List.mem_cons_of_mem _ hmem, hrange⟩

end Ranges

end Redaction
