/-
  Batches behind one another.

  * `linesOf_append`: a text behind a line feed has its own lines, whatever comes before;
  * `segments_append` and `segments_line`: so each part of a text within the limit, and each line in it,
    is redacted as if it stood alone;
  * `redact_append`: two batches of which the first ends with a line feed are redacted one by one.
-/
import Redaction.Proofs.Limit
import Redaction.Proofs.Split

namespace Redaction.Batch

open Json (Limits)

variable {limits : Limits} {a b front line : Text}

/-! ## Lines -/

theorem linesOf_ended (front : Text) :
    linesOf (front ++ [CodePoint.lineFeed]) = (front.splitOn CodePoint.lineFeed).map dropReturn := by
  have hsplit : (front ++ [CodePoint.lineFeed]).splitOn CodePoint.lineFeed =
      front.splitOn CodePoint.lineFeed ++ [[]] := List.splitOn_append_cons_self front []
  rw [linesOf, hsplit, List.getLast?_concat, if_pos rfl, List.dropLast_concat]

/-- **The lines behind a line feed** are those of the text that starts there. -/
theorem linesOf_append (front b : Text) :
    linesOf (front ++ CodePoint.lineFeed :: b) =
      linesOf (front ++ [CodePoint.lineFeed]) ++ linesOf b := by
  have hne : b.splitOn CodePoint.lineFeed ≠ [] := List.splitOn_ne_nil _ b
  rw [linesOf_ended, linesOf, linesOf, List.splitOn_append_cons_self,
    List.getLast?_append_of_ne_nil _ hne, List.dropLast_append_of_ne_nil hne, ← List.map_append]
  split
  · rfl
  · rfl

theorem linesOf_line (h : CodePoint.lineFeed ∉ line) :
    linesOf (line ++ [CodePoint.lineFeed]) = [dropReturn line] := by
  rw [linesOf_ended, List.splitOn_eq_singleton h, List.map_singleton]

/-! ## Segments -/

/-- **Parts of a batch are redacted on their own.** -/
theorem segments_append
    (hl : ((front ++ CodePoint.lineFeed :: b).length : Int) ≤ limits.length) :
    (segments limits (front ++ CodePoint.lineFeed :: b)).value =
      (segments limits (front ++ [CodePoint.lineFeed])).value ++ (segments limits b).value := by
  have hlength : (front ++ CodePoint.lineFeed :: b).length =
      (front ++ [CodePoint.lineFeed]).length + b.length := by
    simp only [List.length_append, List.length_cons, List.length_nil]
    omega
  rw [value_segments hl, value_segments (by omega), value_segments (by omega), linesOf_append,
    List.map_append]

/-- A line has one segment, whatever stands around it. -/
theorem segments_line (hline : CodePoint.lineFeed ∉ line)
    (hl : ((line ++ CodePoint.lineFeed :: b).length : Int) ≤ limits.length) :
    (segments limits (line ++ CodePoint.lineFeed :: b)).value =
      (segment limits (dropReturn line)).value :: (segments limits b).value := by
  have hlength : (line ++ [CodePoint.lineFeed]).length ≤ (line ++ CodePoint.lineFeed :: b).length := by
    simp only [List.length_append, List.length_cons, List.length_nil]
    omega
  rw [segments_append hl, value_segments (by omega), linesOf_line hline]
  rfl

theorem segments_ne_nil (hne : b ≠ []) (hl : (b.length : Int) ≤ limits.length) :
    (segments limits b).value ≠ [] := by
  rw [value_segments hl, Ne, List.map_eq_nil_iff]
  exact linesOf_ne_nil hne

/-! ## Redacted batches -/

theorem dropMark_append (front b : Text) :
    Body.dropMark (front ++ CodePoint.lineFeed :: b) =
      Body.dropMark front ++ CodePoint.lineFeed :: b := by
  cases front with
  | nil => rfl
  | cons c front =>
    by_cases hc : c = CodePoint.byteOrderMark
    · rw [hc]
      rfl
    · have hne : some c ≠ some CodePoint.byteOrderMark := mt Option.some.inj hc
      rw [Body.dropMark, Body.dropMark, List.cons_append, List.head?_cons, List.head?_cons, if_neg hne,
        if_neg hne, List.cons_append]

/-- **Batches behind one another are redacted one by one.** The first ends with a line feed, the second
    is not empty and has no byte order mark before it, and the limit lets both through. Then both
    together have the segments of the first and those of the second, and become what each becomes
    with a separator between them. So a line has one segment, and no other depends on what it holds. -/
theorem redact_append [Encoding.Codecs] (ha : a.getLast? = some CodePoint.lineFeed) (hne : b ≠ [])
    (hmark : b.head? ≠ some CodePoint.byteOrderMark)
    (hl : (a.length : Int) + b.length ≤ limits.length) (encoding : Text) :
    (∃ before behind : Text,
        (redact limits encoding (some (.text a))).map Logged.value = .ok before ∧
          (redact limits encoding (some (.text b))).map Logged.value = .ok behind ∧
            (redact limits encoding (some (.text (a ++ b)))).map Logged.value =
              .ok (before ++ separator :: behind)) ∧
      (segments limits (Body.dropMark (a ++ b))).value =
        (segments limits (Body.dropMark a)).value ++ (segments limits (Body.dropMark b)).value ∧
      ∀ line rest, CodePoint.lineFeed ∉ line → b = line ++ CodePoint.lineFeed :: rest →
        (segments limits (Body.dropMark (a ++ b))).value =
          (segments limits (Body.dropMark a)).value ++
            (segment limits (dropReturn line)).value :: (segments limits rest).value := by
  obtain ⟨front, rfl⟩ := List.getLast?_eq_some_iff.1 ha
  have hmarked := length_dropMark_le front
  rw [List.length_append, List.length_singleton] at hl
  have hsegments : (segments limits (Body.dropMark (front ++ [CodePoint.lineFeed] ++ b))).value =
      (segments limits (Body.dropMark (front ++ [CodePoint.lineFeed]))).value ++
        (segments limits b).value := by
    rw [List.append_assoc, List.singleton_append, dropMark_append, dropMark_append]
    refine segments_append ?_
    rw [List.length_append, List.length_cons]
    omega
  have hunmarked : Body.dropMark b = b := if_neg hmark
  have hbefore : (segments limits (Body.dropMark (front ++ [CodePoint.lineFeed]))).value ≠ [] := by
    rw [dropMark_append]
    refine segments_ne_nil (List.append_ne_nil_of_right_ne_nil _ (List.cons_ne_nil _ _)) ?_
    rw [List.length_append, List.length_singleton]
    omega
  have hbehind : (segments limits b).value ≠ [] := segments_ne_nil hne (by omega)
  refine ⟨⟨_, _, redact_text limits encoding _, redact_text limits encoding _, ?_⟩, ?_, ?_⟩
  · rw [redact_text, hunmarked, hsegments, intercalate_append separator hbefore hbehind]
  · rw [hunmarked, hsegments]
  · rintro line rest hline rfl
    rw [hsegments, segments_line hline (by omega)]

/-- A first batch with a byte order mark, a blank line and a line that is no document, before a second
    one that starts with a blank line and has a byte order mark before its next line. -/
theorem redact_append_of_blank_lines :
    (redact {} [] (some (.text (CodePoint.byteOrderMark :: ("1\r\n\n\";\n" : Text) ++
      (CodePoint.lineFeed :: CodePoint.byteOrderMark :: ("[2]" : Text)))))).map Logged.value =
        .ok (("\"?\";?;?" : Text) ++ separator :: ("?;[\"?\"]" : Text)) := by
  obtain ⟨⟨before, behind, hbefore, hbehind, hboth⟩, -⟩ :=
    @redact_append {} (CodePoint.byteOrderMark :: ("1\r\n\n\";\n" : Text))
      (CodePoint.lineFeed :: CodePoint.byteOrderMark :: ("[2]" : Text)) _ (by decide) (by decide)
      (by decide) (by decide) []
  have hfirst : (redact {} [] (some (.text (CodePoint.byteOrderMark ::
      ("1\r\n\n\";\n" : Text))))).map Logged.value = .ok ("\"?\";?;?" : Text) := by cbv
  have hsecond : (redact {} [] (some (.text (CodePoint.lineFeed :: CodePoint.byteOrderMark ::
      ("[2]" : Text))))).map Logged.value = .ok ("?;[\"?\"]" : Text) := by cbv
  rw [hboth, Except.ok.inj (hbefore.symm.trans hfirst), Except.ok.inj (hbehind.symm.trans hsecond)]

end Redaction.Batch
