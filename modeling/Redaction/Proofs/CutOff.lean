/-
  Bodies that are cut off.

  * `redact_of_cut`: what is left of a printed array or object before its last bracket is redacted to
    nothing, and on a line of its own to the placeholder.
-/
import Redaction.Proofs.Json.Stable
import Redaction.Proofs.Split

namespace Redaction.Batch

open Json (Limits Node nestingLimit)

variable {limits : Limits} {node : Node} {u : Text}

/-- What is left of a printed array or object is not redacted as a document. -/
theorem redactDecoded_of_cut (h : node.IsPlain) (hcontainer : node.isContainer)
    (hd : node.depth ≤ nestingLimit) (hu : u <+: node.dump) (hne : u ≠ node.dump)
    (hkeep : limits.keepInvalid = false) : (Json.redactDecoded limits u).value = none := by
  obtain ⟨z, hz⟩ := hu
  have hrest : z ≠ [] := by
    rintro rfl
    exact hne (by rw [← hz, List.append_nil])
  cases hread : Json.parse limits.length u with
  | error failure => exact Json.value_redactDecoded_of_error hkeep hread
  | ok read =>
    have hdocument : Json.parseDocument u = .ok read := by
      unfold Json.parse at hread
      split at hread
      · cases hread
      · cases hdocument : Json.parseDocument u with
        | error halt => simp [hdocument] at hread
        | ok read' => simpa [hdocument] using hread
    exact absurd hdocument (h.not_read_of_cut hcontainer hd hz hrest read)

/-- No byte order mark comes first in what is left, with a line behind it or not. -/
theorem dropMark_of_cut (h : node.IsPlain) (hu : u <+: node.dump) (line : Text) :
    Body.dropMark u = u ∧
      Body.dropMark (u ++ CodePoint.lineFeed :: line) = u ++ CodePoint.lineFeed :: line := by
  obtain ⟨c, cs, hdump, hstart, -⟩ := h.dump_eq_cons
  cases u with
  | nil => exact ⟨rfl, if_neg fun hmark => absurd (Option.some.inj hmark) (by decide)⟩
  | cons b u =>
    rw [hdump, List.cons_prefix_cons] at hu
    obtain ⟨rfl, -⟩ := hu
    exact ⟨Json.dropMark_of_startsValue hstart u, Json.dropMark_of_startsValue hstart _⟩

/-- A line that is cut off has a segment of its own before the next line. -/
theorem redactText_of_cut (h : node.IsPlain) (hcontainer : node.isContainer)
    (hd : node.depth ≤ nestingLimit) (hu : u <+: node.dump) (hne : u ≠ node.dump)
    (hkeep : limits.keepInvalid = false)
    (hl : ((u ++ CodePoint.lineFeed :: node.dump).length : Int) ≤ limits.length) :
    (redactText limits (u ++ CodePoint.lineFeed :: node.dump)).value =
      placeholder ++ separator :: shown (node.redactWithin limits.depth) := by
  have hlines : linesOf (u ++ CodePoint.lineFeed :: node.dump) = [u, node.dump] := by
    have honeLine : ∀ line ∈ [u, node.dump], Json.OneLine line := by
      intro line hmem c hc
      refine h.oneLine_dump c ?_
      rcases List.mem_cons.1 hmem with rfl | hmem
      · exact hu.subset hc
      · exact List.mem_singleton.1 hmem ▸ hc
    have hlast : [u, node.dump].getLast? ≠ some [] := by
      obtain ⟨c, cs, hdump, -⟩ := h.dump_eq_cons
      simp [hdump]
    simpa [List.intercalate_cons_cons] using linesOf_intercalate (List.cons_ne_nil u _) honeLine hlast
  have hcut : (segment limits u).value = placeholder := by
    rw [value_segment hkeep, Json.redactLine, (dropMark_of_cut h hu []).1,
      redactDecoded_of_cut h hcontainer hd hu hne hkeep, Option.getD_none]
  have hwhole := segment_dump hkeep h hd (by
    rw [List.length_append, List.length_cons] at hl
    omega)
  rw [redactText, Logged.value_bind, Logged.value_pure, value_segments hl, hlines]
  simp [hcut, hwhole, List.intercalate_cons_cons]

/-- **A body that is cut off is never taken for a document.** What is left of a printed array or object
    before its last bracket is redacted to nothing, under any limits. On a line before the whole
    print it becomes the placeholder, and the print is redacted as if it stood alone. -/
theorem redact_of_cut [Encoding.Codecs] (h : node.IsPlain) (hcontainer : node.isContainer)
    (hnested : node.depth < 150) (hu : u <+: node.dump) (hne : u ≠ node.dump)
    (hkeep : limits.keepInvalid = false) (encoding : Text) :
    (Json.redact limits encoding (some (.text u))).map Logged.value = .ok none ∧
      (((u ++ CodePoint.lineFeed :: node.dump).length : Int) ≤ limits.length →
        (node.depth : Int) ≤ limits.depth →
          (Json.redact limits encoding (some (.text node.dump))).map Logged.value =
              .ok (some node.redact.dump) ∧
            (redact limits encoding (some (.text (u ++ CodePoint.lineFeed :: node.dump)))).map
                Logged.value = .ok (placeholder ++ separator :: node.redact.dump)) := by
  have hd : node.depth ≤ nestingLimit := by
    rw [nestingLimit]
    omega
  refine ⟨?_, fun hl hdepth => ⟨?_, ?_⟩⟩
  · rw [Json.redact_text, (dropMark_of_cut h hu []).1,
      redactDecoded_of_cut h hcontainer hd hu hne hkeep]
  · have hread : Json.parse limits.length node.dump = .ok node := by
      refine Json.parse_dump h hd ?_
      rw [List.length_append, List.length_cons] at hl
      omega
    rw [Json.redact_text, (Json.dropMark_and_not_blank_of_parse hread).1,
      Json.redactDecoded_of_parse hread (.inr hdepth)]
    rfl
  · have hvalue := redactText_of_cut h hcontainer hd hu hne hkeep hl
    rw [Json.Node.redactWithin_of_le (.inr hdepth)] at hvalue
    rw [redact, Body.decode, (dropMark_of_cut h hu node.dump).2]
    exact congrArg Except.ok hvalue

/-- An object that is cut off behind a bracket, where a key holds a quote and texts hold brackets. -/
theorem redact_of_cut_of_bracket :
    (Json.redact {} [] (some (.text ("\x7b\"k\\\"]\":[-12,\"]\x7d\"]" : Text)))).map Logged.value =
        .ok none ∧
      (redact {} [] (some (.text
        ("\x7b\"k\\\"]\":[-12,\"]\x7d\"]\n\x7b\"k\\\"]\":[-12,\"]\x7d\"]\x7d" : Text)))).map
          Logged.value = .ok ("?;\x7b\"k\\\"]\":[\"?\",\"?\"]\x7d" : Text) := by
  obtain ⟨node, hnode⟩ : ∃ node : Node, node = .object
      [(("k\"]" : Text), .array [.scalar (.integer (-12)), .scalar (.string ("]\x7d" : Text))])] :=
    ⟨_, rfl⟩
  have hdump : node.dump = ("\x7b\"k\\\"]\":[-12,\"]\x7d\"]\x7d" : Text) := by
    simp [hnode, Node.dump]
    rfl
  have hredacted : node.redact.dump = ("\x7b\"k\\\"]\":[\"?\",\"?\"]\x7d" : Text) := by
    simp [hnode, Node.dump]
    rfl
  have hsmall : Json.Scalar.IsPlain (.integer (-12)) :=
    Nat.lt_of_lt_of_le (by decide) (Nat.pow_le_pow_right (by decide) (by decide : 2 ≤ 4300))
  have hplain : node.IsPlain := by
    rw [hnode]
    refine .object (List.forall_mem_singleton.2 (.array ?_))
    simp only [List.forall_mem_cons]
    exact ⟨.scalar hsmall, .scalar trivial, List.forall_mem_nil _⟩
  have hcut := @redact_of_cut {} node ("\x7b\"k\\\"]\":[-12,\"]\x7d\"]" : Text) _ hplain
    (by rw [hnode]; rfl) (by simp [hnode]) (by rw [hdump]; exact ⟨("\x7d" : Text), rfl⟩)
    (by rw [hdump]; decide) rfl []
  have hbatch := (hcut.2 (by rw [hdump]; decide) (by simp [hnode])).2
  rw [hredacted, hdump] at hbatch
  exact ⟨hcut.1, hbatch⟩

end Redaction.Batch
