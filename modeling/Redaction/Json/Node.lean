/-
  Documents as trees.

  * `Node` is a document: a scalar, an array of nodes, or an object.  The entries of an object are
    a list, so that their order and repeated keys are kept;
  * `Node.depth` counts the arrays and objects around the innermost value;
  * `Node.redact` puts the placeholder in place of every scalar and keeps all else: `redact_redact`
    says that doing so twice changes nothing, `depth_redact` that the nesting stays;
  * `Node.redactWithin` redacts as well, and stops at the first array or object that is nested deeper
    than a limit.
-/
import Redaction.Number.Binary64

namespace Redaction.Json

/-- A value that holds no others. -/
inductive Scalar where
  | null
  | boolean (b : Bool)
  | integer (n : Int)
  | float (x : Binary64)
  | string (t : Text)
  deriving DecidableEq

/-- A document. -/
inductive Node where
  | scalar (s : Scalar)
  | array (items : List Node)
  | object (entries : List (Text × Node))

/-- The text that stands for every value taken out. -/
def placeholder : Text := ['?']

namespace Node

theorem sizeOf_lt_of_mem_items {items : List Node} {item : Node} (h : item ∈ items) :
    sizeOf item < sizeOf (array items) := by
  have := List.sizeOf_lt_of_mem h
  simp only [array.sizeOf_spec]
  omega

theorem sizeOf_lt_of_mem_entries {entries : List (Text × Node)} {entry : Text × Node}
    (h : entry ∈ entries) : sizeOf entry.2 < sizeOf (object entries) := by
  have := List.sizeOf_lt_of_mem h
  obtain ⟨key, node⟩ := entry
  simp only [Prod.mk.sizeOf_spec, object.sizeOf_spec] at this ⊢
  omega

/-- How many arrays and objects are around the innermost value. A scalar has depth zero, and an
    empty array or object depth one. -/
def depth : Node → Nat
  | scalar _ => 0
  | array items => (items.map fun item => item.depth).foldl max 0 + 1
  | object entries => (entries.map fun entry => entry.2.depth).foldl max 0 + 1
  termination_by node => sizeOf node
  decreasing_by
    · exact sizeOf_lt_of_mem_items ‹_›
    · exact sizeOf_lt_of_mem_entries ‹_›

/-- A tree with the placeholder in place of every scalar. -/
def redact : Node → Node
  | scalar _ => scalar (.string placeholder)
  | array items => array (items.map fun item => item.redact)
  | object entries => object (entries.map fun entry => (entry.1, entry.2.redact))
  termination_by node => sizeOf node
  decreasing_by
    · exact sizeOf_lt_of_mem_items ‹_›
    · exact sizeOf_lt_of_mem_entries ‹_›

/-! ## Equations -/

@[simp] theorem depth_scalar (s : Scalar) : (scalar s).depth = 0 := by rw [depth]

@[simp] theorem depth_array (items : List Node) :
    (array items).depth = (items.map depth).foldl max 0 + 1 := by rw [depth]

@[simp] theorem depth_object (entries : List (Text × Node)) :
    (object entries).depth = (entries.map fun entry => entry.2.depth).foldl max 0 + 1 := by
  rw [depth]

@[simp] theorem redact_scalar (s : Scalar) :
    (scalar s).redact = scalar (.string placeholder) := by rw [redact]

@[simp] theorem redact_array (items : List Node) :
    (array items).redact = array (items.map redact) := by rw [redact]

@[simp] theorem redact_object (entries : List (Text × Node)) :
    (object entries).redact = object (entries.map fun entry => (entry.1, entry.2.redact)) := by
  rw [redact]

/-- What holds of scalars, and of an array or object if it holds of all that is in it, holds of
    every tree. -/
theorem induction {motive : Node → Prop} (ofScalar : ∀ s, motive (scalar s))
    (ofArray : ∀ items, (∀ item ∈ items, motive item) → motive (array items))
    (ofObject : ∀ entries, (∀ entry ∈ entries, motive entry.2) → motive (object entries)) :
    ∀ node, motive node
  | scalar s => ofScalar s
  | array items => ofArray items fun item _ => induction ofScalar ofArray ofObject item
  | object entries => ofObject entries fun entry _ => induction ofScalar ofArray ofObject entry.2
  termination_by node => sizeOf node
  decreasing_by
    · exact sizeOf_lt_of_mem_items ‹_›
    · exact sizeOf_lt_of_mem_entries ‹_›

/-! ## What redaction keeps -/

/-- Redacting twice is redacting once. -/
@[simp] theorem redact_redact (node : Node) : node.redact.redact = node.redact := by
  induction node using induction with
  | ofScalar s => simp
  | ofArray items ih => simpa using ih
  | ofObject entries ih =>
    simp only [redact_object, List.map_map, object.injEq]
    exact List.map_congr_left fun entry h => by simp [ih entry h]

/-- Redaction keeps the nesting. -/
@[simp] theorem depth_redact (node : Node) : node.redact.depth = node.depth := by
  induction node using induction with
  | ofScalar s => simp
  | ofArray items ih =>
    simp only [redact_array, depth_array, List.map_map]
    exact congrArg (fun depths => depths.foldl max 0 + 1) (List.map_congr_left ih)
  | ofObject entries ih =>
    simp only [redact_object, depth_object, List.map_map]
    exact congrArg (fun depths => depths.foldl max 0 + 1) (List.map_congr_left ih)

/-- A tree redacted, with room for so many arrays and objects in one another, and nothing if that is too
    little. An array or object takes its room before anything in it is looked at. The call stack is taken
    to hold whatever there is room for, which is so below 150 arrays and objects; that it can give out
    with more room, and that this is no error that is dealt with, is left out. -/
def redactWithin (room : Int) : Node → Option Node
  | scalar _ => some (scalar (.string placeholder))
  | array items =>
    if room < 1 then none
    else (items.mapM fun (item : Node) => item.redactWithin (room - 1)).map array
  | object entries =>
    if room < 1 then none
    else
      (entries.mapM fun (entry : Text × Node) =>
        (entry.2.redactWithin (room - 1)).map fun value => (entry.1, value)).map object
  termination_by node => sizeOf node
  decreasing_by
    · exact sizeOf_lt_of_mem_items ‹_›
    · exact sizeOf_lt_of_mem_entries ‹_›

end Node

end Redaction.Json
