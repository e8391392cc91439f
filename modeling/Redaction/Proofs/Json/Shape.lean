/-
  Redaction keeps the shape of a document, and leaves its own output as it is.

  * `redactDecoded_of_parse`: a text that is read as a tree within the limits becomes the redacted
    tree in print;
  * `redact_keeps_shape`: what redaction prints is read back as the redacted tree, and redacting it
    again changes nothing.
-/
import Redaction.Json.Redaction
import Redaction.Proofs.Json.Depth

namespace Redaction.Json

/-- What is read as a document starts neither with a byte order mark nor is it blank. -/
theorem dropMark_and_not_blank_of_parse {limit : Int} {t : Text} {node : Node}
    (h : parse limit t = .ok node) : Body.dropMark t = t ∧ t.all CodePoint.isBlank = false := by
  unfold parse at h
  split at h
  · cases h
  cases hdoc : parseDocument t with
  | error halt => simp [hdoc] at h
  | ok read =>
    unfold parseDocument at hdoc
    split at hdoc
    · cases hdoc
    case isFalse hmark =>
      refine ⟨if_neg hmark, ?_⟩
      cases hs : skipSpace t with
      | nil =>
        rw [hs] at hdoc
        simp [parseValue] at hdoc
      | cons c more =>
        rw [hs] at hdoc
        cases hv : parseValue (2 * t.length + 1) nestingLimit (c :: more) with
        | error halt => simp [hv] at hdoc
        | ok read =>
          have hmem : c ∈ t := (List.dropWhile_sublist _).subset (hs ▸ List.mem_cons_self)
          rw [List.all_eq_false]
          exact ⟨c, hmem, by simp [isBlank_of_startsValue (startsValue_of_parseValue hv)]⟩

theorem Node.redactWithin_of_le {limit : Int} {node : Node}
    (h : node.depth = 0 ∨ (node.depth : Int) ≤ limit) :
    node.redactWithin limit = some node.redact := by
  rw [redactWithin_eq]
  exact if_pos h

/-- A text that is read within the limits is redacted to the print of the redacted tree. -/
theorem redactDecoded_of_parse {limits : Limits} {t : Text} {node : Node}
    (h : parse limits.length t = .ok node) (hd : node.depth = 0 ∨ (node.depth : Int) ≤ limits.depth) :
    redactDecoded limits t = pure (some node.redact.dump) := by
  rw [redactDecoded, (dropMark_and_not_blank_of_parse h).2, redactText, h]
  simp [Node.redactWithin_of_le hd]

/-- A body that is a text is redacted as such, without its byte order mark. -/
theorem redact_text [Encoding.Codecs] (limits : Limits) (encoding t : Text) :
    (redact limits encoding (some (.text t))).map Logged.value =
      .ok (redactDecoded limits (Body.dropMark t)).value :=
  rfl

/-- **Redaction keeps the shape.** A text that is a document within the limits, with or without a
    byte order mark before it, is redacted to a text that is read back as the redacted tree under any
    limit that lets it through, and that is redacted to itself. -/
theorem redact_keeps_shape [Encoding.Codecs] {limits : Limits} {t : Text} {node : Node}
    (h : parse limits.length (Body.dropMark t) = .ok node) (hnested : node.depth < 150)
    (hd : node.depth = 0 ∨ (node.depth : Int) ≤ limits.depth) (encoding : Text) :
    ∃ r : Text, (redact limits encoding (some (.text t))).map Logged.value = .ok (some r) ∧
      ∀ others : Limits, (r.length : Int) ≤ others.length →
        parse others.length r = .ok node.redact ∧
          (others.depth = limits.depth →
            (redact others encoding (some (.text r))).map Logged.value = .ok (some r)) := by
  refine ⟨node.redact.dump, ?_, fun others hlen => ?_⟩
  · rw [redact_text, redactDecoded_of_parse h hd]
    rfl
  · have hread : parse others.length node.redact.dump = .ok node.redact :=
      parse_dump node.isPlain_redact (by rw [Node.depth_redact, nestingLimit]; omega) hlen
    refine ⟨hread, fun hdepth => ?_⟩
    rw [redact_text, (dropMark_and_not_blank_of_parse hread).1,
      redactDecoded_of_parse hread (by rw [Node.depth_redact, hdepth]; exact hd), Node.redact_redact]
    rfl

/-- A marked object, with one key twice and half of a surrogate pair as the other. -/
theorem redact_keeps_shape_of_marked :
    ∃ r : Text,
      (redact {} [] (some (.text (CodePoint.byteOrderMark ::
        (" \x7b\"\\ud800\": [-17, []], \"k\": \x7b\x7d, \"k\":null\x7d" : Text))))).map Logged.value =
          .ok (some r) ∧
      ∀ others : Limits, (r.length : Int) ≤ others.length →
        parse others.length r = .ok (Node.object
          [([⟨0xD800, by decide⟩], .array [.scalar (.integer (-17)), .array []]),
            (['k'], .object []), (['k'], .scalar .null)]).redact ∧
          (others.depth = ({} : Limits).depth →
            (redact others [] (some (.text r))).map Logged.value = .ok (some r)) :=
  redact_keeps_shape (by cbv) (by simp) (by simp) []

end Redaction.Json
