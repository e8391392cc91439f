/-
  Batches of printed trees.

  * `printed` are printed trees on lines of their own;
  * `linesOf_printed`: the lines of such a batch are the printed trees, as no text in them breaks a
    line;
  * `within_eq`: a batch within the limit loses no line;
  * `redactText_printed`: what becomes of a printed batch depends on the redacted trees alone.
-/
import Redaction.Batch
import Redaction.Proofs.Json.Printed

namespace Redaction.Batch

open Json (Limits Node nestingLimit)

/-- Printed trees on lines of their own, where the last line is ended or not. -/
def printed (nodes : List Node) (ended : Bool) : Text :=
  [CodePoint.lineFeed].intercalate (nodes.map Node.dump) ++
    if ended then [CodePoint.lineFeed] else []

theorem printed_cons_cons (a b : Node) (nodes : List Node) (ended : Bool) :
    printed (a :: b :: nodes) ended =
      a.dump ++ CodePoint.lineFeed :: printed (b :: nodes) ended := by
  simp [printed, List.intercalate_cons_cons]

theorem printed_eq_cons {node : Node} (h : node.IsPlain) (nodes : List Node) (ended : Bool) :
    ∃ c cs, printed (node :: nodes) ended = c :: cs ∧ Json.startsValue c ∧
      (decide (c = CodePoint.ofChar '{') || decide (c = CodePoint.ofChar '[')) =
        node.isContainer := by
  obtain ⟨c, cs, hdump, hstart, hc⟩ := h.dump_eq_cons
  cases nodes with
  | nil => exact ⟨c, _, by rw [printed, List.map_singleton, List.intercalate_singleton, hdump]; rfl,
      hstart, hc⟩
  | cons b nodes => exact ⟨c, _, by rw [printed_cons_cons, hdump]; rfl, hstart, hc⟩

/-! ## Lines -/

theorem intercalate_append {α : Type} (x : α) {before behind : List (List α)} (hbefore : before ≠ [])
    (hbehind : behind ≠ []) :
    [x].intercalate (before ++ behind) = [x].intercalate before ++ x :: [x].intercalate behind := by
  induction before with
  | nil => exact absurd rfl hbefore
  | cons first before ih =>
    cases before with
    | nil =>
      rw [List.singleton_append, List.intercalate_cons_of_ne_nil hbehind, List.intercalate_singleton,
        List.append_assoc, List.singleton_append]
    | cons second before =>
      have := ih (List.cons_ne_nil _ _)
      rw [List.cons_append, List.cons_append, List.intercalate_cons_cons, ← List.cons_append, this,
        List.intercalate_cons_cons, List.append_assoc, List.append_assoc, List.append_assoc]

theorem intercalate_ended {α : Type} (x : α) {lines : List (List α)} (h : lines ≠ []) :
    [x].intercalate (lines ++ [[]]) = [x].intercalate lines ++ [x] := by
  rw [intercalate_append x h (List.cons_ne_nil _ _), List.intercalate_singleton]

theorem dropReturn_of_oneLine {line : Text} (h : Json.OneLine line) : dropReturn line = line := by
  refine if_neg ?_
  intro hlast
  exact absurd (h _ (List.mem_of_getLast? hlast)) (by decide)

theorem map_dropReturn_of_oneLine {lines : List Text} (h : ∀ line ∈ lines, Json.OneLine line) :
    lines.map dropReturn = lines := by
  rw [List.map_congr_left fun line hmem => dropReturn_of_oneLine (h line hmem), List.map_id']

/-- Lines that are joined are taken apart again, unless the last one is empty. -/
theorem linesOf_intercalate {lines : List Text} (hne : lines ≠ [])
    (h : ∀ line ∈ lines, Json.OneLine line) (hlast : lines.getLast? ≠ some []) :
    linesOf ([CodePoint.lineFeed].intercalate lines) = lines := by
  have hsplit := List.splitOn_intercalate CodePoint.lineFeed
    (fun line hmem => (h line hmem).not_mem_lineFeed) hne
  rw [linesOf, hsplit, if_neg hlast, map_dropReturn_of_oneLine h]

/-- **The lines of a printed batch are the printed trees**, whether the last line is ended or not. -/
theorem linesOf_printed {nodes : List Node} (hne : nodes ≠ []) (h : ∀ node ∈ nodes, node.IsPlain)
    (ended : Bool) : linesOf (printed nodes ended) = nodes.map Node.dump := by
  have honeLine : ∀ line ∈ nodes.map Node.dump, Json.OneLine line := by
    intro line hmem
    obtain ⟨node, hnode, rfl⟩ := List.mem_map.1 hmem
    exact (h node hnode).oneLine_dump
  have hnil : [] ∉ nodes.map Node.dump := by
    intro hmem
    obtain ⟨node, hnode, hdump⟩ := List.mem_map.1 hmem
    obtain ⟨c, cs, hcons, -⟩ := (h node hnode).dump_eq_cons
    rw [hcons] at hdump
    cases hdump
  have hmap : nodes.map Node.dump ≠ [] := by simpa using hne
  cases ended with
  | false =>
    have hlast : (nodes.map Node.dump).getLast? ≠ some [] :=
      fun hlast => hnil (List.mem_of_getLast? hlast)
    simpa [printed] using linesOf_intercalate hmap honeLine hlast
  | true =>
    have hsplit : (printed nodes true).splitOn CodePoint.lineFeed = nodes.map Node.dump ++ [[]] := by
      rw [printed, if_pos rfl, ← intercalate_ended _ hmap]
      refine List.splitOn_intercalate CodePoint.lineFeed ?_ (by simp)
      intro line hmem
      rcases List.mem_append.1 hmem with hmem | hmem
      · exact (honeLine line hmem).not_mem_lineFeed
      · rw [List.mem_singleton.1 hmem]
        exact List.not_mem_nil
    rw [linesOf, hsplit, List.getLast?_concat, if_pos rfl, List.dropLast_concat,
      map_dropReturn_of_oneLine honeLine]

/-! ## The limit -/

/-- How many characters lines have, each with its end. -/
def size (lines : List Text) : Nat := (lines.map fun line => line.length + 1).sum

/-- The end of the last line may lie beyond the limit. -/
theorem withinOnto_eq {lines done : List Text} {left : Int} (h : (size lines : Int) ≤ left + 1) :
    withinOnto done left lines = (done.reverse ++ lines, true) := by
  induction lines generalizing done left with
  | nil => simp [withinOnto]
  | cons line lines ih =>
    simp only [size, List.map_cons, List.sum_cons, Int.natCast_add, Int.natCast_one] at h ih
    have hfits : fits left line = true := decide_eq_true (by omega)
    rw [withinOnto, if_pos hfits, ih (by omega)]
    simp

theorem within_eq {lines : List Text} {limit : Int} (h : (size lines : Int) ≤ limit + 1) :
    within limit lines = (lines, true) :=
  withinOnto_eq h

/-- Joined lines lack the end of the last one. -/
theorem size_eq (x : CodePoint) {lines : List Text} (hne : lines ≠ []) :
    size lines = ([x].intercalate lines).length + 1 := by
  induction lines with
  | nil => exact absurd rfl hne
  | cons line lines ih =>
    cases lines with
    | nil => simp [size]
    | cons line₂ lines =>
      have := ih (List.cons_ne_nil _ _)
      rw [List.intercalate_cons_cons]
      simp only [size, List.map_cons, List.sum_cons, List.length_append, List.length_singleton] at this ⊢
      omega

theorem size_le_of_printed {nodes : List Node} (hne : nodes ≠ []) (ended : Bool) :
    size (nodes.map Node.dump) ≤ (printed nodes ended).length + 1 := by
  rw [size_eq CodePoint.lineFeed (by simpa using hne), printed, List.length_append]
  omega

theorem length_dump_le {nodes : List Node} {node : Node} (h : node ∈ nodes) (ended : Bool) :
    node.dump.length ≤ (printed nodes ended).length := by
  induction nodes with
  | nil => cases h
  | cons a nodes ih =>
    cases nodes with
    | nil => rw [List.mem_singleton.1 h]; simp [printed]
    | cons b nodes =>
      rw [printed_cons_cons, List.length_append, List.length_cons]
      rcases List.mem_cons.1 h with rfl | h
      · omega
      · have := ih h
        omega

/-! ## What becomes of printed batches -/

variable {limits : Limits} {nodes : List Node} {ended : Bool}

/-- What a line shows of a redacted tree, which may have been refused. -/
def shown (redacted : Option Node) : Text := (redacted.map Node.dump).getD placeholder

theorem value_segment (hkeep : limits.keepInvalid = false) (line : Text) :
    (segment limits line).value = (Json.redactLine limits line).value.getD placeholder := by
  rw [segment, Logged.value_bind]
  cases (Json.redactLine limits line).value with
  | none => simp [hkeep]
  | some redacted => rfl

theorem segment_dump (hkeep : limits.keepInvalid = false) {node : Node} (h : node.IsPlain)
    (hd : node.depth ≤ nestingLimit) (hl : (node.dump.length : Int) ≤ limits.length) :
    (segment limits node.dump).value = shown (node.redactWithin limits.depth) := by
  have hline := Json.redactLine_dump hkeep h hd (List.forall_mem_nil _) (by rwa [List.append_nil])
  rw [List.append_nil] at hline
  rw [value_segment hkeep, hline, shown]

/-- **A printed batch is redacted by its shape**, line by line. -/
theorem redactText_printed (hkeep : limits.keepInvalid = false) (hne : nodes ≠ [])
    (h : ∀ node ∈ nodes, node.IsPlain ∧ node.depth ≤ nestingLimit)
    (hl : ((printed nodes ended).length : Int) ≤ limits.length) :
    (redactText limits (printed nodes ended)).value =
      [separator].intercalate (nodes.map fun node => shown (node.redactWithin limits.depth)) := by
  have hsize := size_le_of_printed hne ended
  have hsegments : ∀ node ∈ nodes,
      (segment limits node.dump).value = shown (node.redactWithin limits.depth) := by
    intro node hmem
    have := length_dump_le hmem ended
    exact segment_dump hkeep (h node hmem).1 (h node hmem).2 (by omega)
  rw [redactText, Logged.value_bind, Logged.value_pure, segments,
    linesOf_printed hne fun node hmem => (h node hmem).1, within_eq (by omega)]
  simp only [List.map_map]
  exact congrArg _ (List.map_congr_left hsegments)

/-- One printed tree is a document, and is redacted as such. -/
theorem redactLine_printed_singleton (hkeep : limits.keepInvalid = false) {node : Node}
    (h : node.IsPlain) (hd : node.depth ≤ nestingLimit)
    (hl : ((printed [node] ended).length : Int) ≤ limits.length) :
    (Json.redactLine limits (printed [node] ended)).value =
      (node.redactWithin limits.depth).map Node.dump := by
  have hprinted : printed [node] ended =
      node.dump ++ if ended then [CodePoint.lineFeed] else [] := by simp [printed]
  rw [hprinted] at hl ⊢
  refine Json.redactLine_dump hkeep h hd ?_ hl
  cases ended <;> decide

/-- Two printed trees or more are no document. -/
theorem redactLine_printed_cons_cons (hkeep : limits.keepInvalid = false) {a b : Node}
    (ha : a.IsPlain) (hb : b.IsPlain) (hd : a.depth ≤ nestingLimit) :
    (Json.redactLine limits (printed (a :: b :: nodes) ended)).value = none := by
  obtain ⟨c, cs, hb, hstart, -⟩ := printed_eq_cons hb nodes ended
  have hends : Json.EndsNumeral (CodePoint.lineFeed :: c :: cs) := by
    rintro d hd
    cases hd
    decide
  have hskip : Json.skipSpace (CodePoint.lineFeed :: c :: cs) = c :: cs := by
    have hfeed : Json.isSpace CodePoint.lineFeed := by decide
    simp [Json.skipSpace, hfeed, Json.isSpace_of_startsValue hstart]
  have hdocument := Json.parseDocument_append ha hd a.spaced_dump hends
  rw [hskip] at hdocument
  obtain ⟨d, ds, ha, hstart, -⟩ := printed_eq_cons ha (b :: nodes) ended
  rw [Json.redactLine, ha, Json.dropMark_of_startsValue hstart, ← ha, printed_cons_cons, hb]
  cases hparse : Json.parse limits.length (a.dump ++ CodePoint.lineFeed :: c :: cs) with
  | error failure => exact Json.value_redactDecoded_of_error hkeep hparse
  | ok node =>
    rw [Json.parse, hdocument] at hparse
    split at hparse <;> cases hparse

end Redaction.Batch
