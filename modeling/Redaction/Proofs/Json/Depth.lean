/-
  Redaction within a limit on nesting.

  Redaction goes down a tree and stops at the first array or object for which no room is left; the
  depth of the tree is counted from its leaves up.

  * `Node.Fits`: there is room for a tree;
  * `Node.redactWithin_eq`: just the trees for which there is room are redacted, and as wholes.
-/
import Redaction.Proofs.Json.Layout

namespace Redaction.Json

/-- Attempts of which each succeeds under a condition succeed together if all conditions hold. -/
theorem mapM_of_ite {α β : Type} {attempt : α → Option β} {p : α → Prop} [DecidablePred p] {f : α → β}
    {xs : List α} (h : ∀ x ∈ xs, attempt x = if p x then some (f x) else none) :
    xs.mapM attempt = if ∀ x ∈ xs, p x then some (xs.map f) else none := by
  induction xs with
  | nil => simp
  | cons x xs ih =>
    rw [List.forall_mem_cons] at h
    rw [List.mapM_cons, h.1, ih h.2]
    by_cases hx : p x
    · by_cases hxs : ∀ y ∈ xs, p y
      · rw [if_pos hx, if_pos hxs, if_pos (List.forall_mem_cons.2 ⟨hx, hxs⟩)]
        rfl
      · rw [if_pos hx, if_neg hxs, if_neg fun h => hxs (List.forall_mem_cons.1 h).2]
        rfl
    · rw [if_neg hx, if_neg fun h => hx (List.forall_mem_cons.1 h).1]
      rfl

/-- What succeeds under a condition, and is not attempted under another. -/
theorem map_of_ite {α β : Type} {c p : Prop} [Decidable c] [Decidable p] (f : α → β) (a : α) :
    (if c then none else (if p then some a else none).map f) =
      if ¬ c ∧ p then some (f a) else none := by
  by_cases hc : c
  · simp [hc]
  · by_cases hp : p
    · simp [hc, hp]
    · simp [hc, hp]

namespace Node

variable {room : Int}

/-- There is room for a tree: it has no arrays and objects, or is nested no deeper. -/
def Fits (room : Int) (node : Node) : Prop := node.depth = 0 ∨ (node.depth : Int) ≤ room

instance (node : Node) : Decidable (node.Fits room) := inferInstanceAs (Decidable (_ ∨ _))

theorem fits_scalar (s : Scalar) : (scalar s).Fits room := .inl (depth_scalar s)

/-- An array or object takes room for one, and leaves the rest to what is in it. -/
theorem fits_iff_of_depth {node : Node} {children : List Node} (hpos : node.depth ≠ 0)
    (h : ∀ n, node.depth ≤ n + 1 ↔ ∀ child ∈ children, child.depth ≤ n) :
    node.Fits room ↔ ¬ room < 1 ∧ ∀ child ∈ children, child.Fits (room - 1) := by
  by_cases hroom : room < 1
  · have hdepth : ¬ (node.depth : Int) ≤ room := by omega
    simp [Fits, hroom, hpos, hdepth]
  · obtain ⟨n, rfl⟩ : ∃ n : Nat, room = n + 1 := ⟨(room - 1).toNat, by omega⟩
    have hnat : (node.depth : Int) ≤ n + 1 ↔ node.depth ≤ n + 1 := by omega
    simp only [Fits, hpos, false_or, hnat, h n, hroom, not_false_eq_true, true_and]
    refine forall₂_congr fun child _ => ?_
    omega

theorem fits_array_iff {items : List Node} :
    (array items).Fits room ↔ ¬ room < 1 ∧ ∀ item ∈ items, item.Fits (room - 1) :=
  fits_iff_of_depth (by simp) fun _ => depth_array_le_iff

theorem fits_object_iff {entries : List (Text × Node)} :
    (object entries).Fits room ↔ ¬ room < 1 ∧ ∀ entry ∈ entries, entry.2.Fits (room - 1) := by
  have hchildren : (object entries).Fits room ↔
      ¬ room < 1 ∧ ∀ child ∈ entries.map Prod.snd, child.Fits (room - 1) := by
    refine fits_iff_of_depth (by simp) fun _ => ?_
    rw [depth_object_le_iff, List.forall_mem_map]
  rwa [List.forall_mem_map] at hchildren

/-- **Redaction within a limit** redacts a tree for which there is room, and nothing of another one. -/
theorem redactWithin_eq (room : Int) (node : Node) :
    node.redactWithin room = if node.Fits room then some node.redact else none := by
  induction node using Node.induction generalizing room with
  | ofScalar s => rw [redactWithin, if_pos (fits_scalar s), redact_scalar]
  | ofArray items ih =>
    have hitems := mapM_of_ite fun item hmem => ih item hmem (room - 1)
    rw [redactWithin, hitems, map_of_ite, redact_array]
    simp only [fits_array_iff]
  | ofObject entries ih =>
    have hentries : (entries.mapM fun entry : Text × Node =>
        (entry.2.redactWithin (room - 1)).map fun value => (entry.1, value)) =
        if ∀ entry ∈ entries, entry.2.Fits (room - 1) then
          some (entries.map fun entry => (entry.1, entry.2.redact)) else none := by
      refine mapM_of_ite fun entry hmem => ?_
      rw [ih entry hmem]
      split <;> rfl
    rw [redactWithin, hentries, map_of_ite, redact_object]
    simp only [fits_object_iff]

end Node

end Redaction.Json
