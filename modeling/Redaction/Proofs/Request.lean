/-
  What is captured of a request does not depend on the values in its body.

  * `SameShape as bs`: trees that are pairwise equal once redacted;
  * `detect?_printed`: the format of a printed body is found from its shape;
  * `Request.redactText_printed`: so is what becomes of the body in any format;
  * `captureRequest_of_sameShape`: two requests whose bodies are printed trees of the same shape are
    captured alike.
-/
import Redaction.Proofs.Batch
import Redaction.Statement

namespace Redaction

open Json (Node nestingLimit)
open Batch (printed)

/-- What a statement tells. What was handed over does not count. -/
def Statement.told (statement : Statement) : Option Payload × Payload × Value :=
  (statement.sanitized, statement.operation, statement.database)

/-- Trees that are pairwise equal once redacted. -/
def SameShape (as bs : List Node) : Prop := as.map Node.redact = bs.map Node.redact

/-- A tree that is read back from its print. -/
def IsReadable (node : Node) : Prop := node.IsPlain ∧ node.depth ≤ nestingLimit

variable {as bs : List Node} {ended : Bool}

theorem SameShape.length_eq (h : SameShape as bs) : as.length = bs.length := by
  simpa using congrArg List.length h

/-- Trees of the same shape are within a limit together, and become the same. -/
theorem SameShape.map_redactWithin {β : Type} (h : SameShape as bs) (limit : Int)
    (f : Option Node → β) :
    (as.map fun node => f (node.redactWithin limit)) =
      bs.map fun node => f (node.redactWithin limit) := by
  have hmap : ∀ nodes : List Node, (nodes.map fun node => f (node.redactWithin limit)) =
      (nodes.map Node.redact).map fun node => f (node.redactWithin limit) := by
    intro nodes
    rw [List.map_map]
    refine List.map_congr_left fun node _ => ?_
    exact congrArg f (Node.redactWithin_congr node.redact_redact.symm limit)
  rw [hmap as, hmap bs, h]

/-! ## The format -/

theorem looksLikeDocument_printed {node : Node} (h : node.IsPlain) (nodes : List Node) :
    BodyFormat.looksLikeDocument (printed (node :: nodes) ended) = node.isContainer := by
  obtain ⟨c, cs, hc, hstart, hcontainer⟩ := Batch.printed_eq_cons h nodes ended
  rw [BodyFormat.looksLikeDocument, hc, Text.trimStart,
    List.dropWhile_cons_of_neg (by simp [Json.isBlank_of_startsValue hstart])]
  exact hcontainer

/-- The format of a printed body is found from its shape. -/
theorem detect?_printed (h : SameShape as bs) (ha : ∀ a ∈ as, IsReadable a)
    (hb : ∀ b ∈ bs, IsReadable b) (type : Option MediaType) (endpoint : Text) :
    BodyFormat.detect? type endpoint (printed as ended) =
      BodyFormat.detect? type endpoint (printed bs ended) := by
  have hlooks : BodyFormat.looksLikeDocument (printed as ended) =
      BodyFormat.looksLikeDocument (printed bs ended) := by
    cases as with
    | nil => rw [List.eq_nil_of_length_eq_zero h.length_eq.symm]
    | cons a as =>
      cases bs with
      | nil => cases h.length_eq
      | cons b bs =>
        have hab : a.redact = b.redact := (List.cons.inj h).1
        rw [looksLikeDocument_printed (ha a List.mem_cons_self).1,
          looksLikeDocument_printed (hb b List.mem_cons_self).1, ← Node.isContainer_redact, hab,
          Node.isContainer_redact]
  cases type with
  | some type => rfl
  | none => simp only [BodyFormat.detect?, hlooks]

/-! ## The body -/

namespace Request

/-- What becomes of a printed body in any format depends on its shape alone. -/
theorem redactText_printed {limits : Json.Limits} (hkeep : limits.keepInvalid = false)
    (h : SameShape as bs) (ha : ∀ a ∈ as, IsReadable a) (hb : ∀ b ∈ bs, IsReadable b)
    (hla : ((printed as ended).length : Int) ≤ limits.length)
    (hlb : ((printed bs ended).length : Int) ≤ limits.length) (format : Option BodyFormat) :
    (redactText limits format (printed as ended)).value =
      (redactText limits format (printed bs ended)).value := by
  match as, bs with
  | [], [] => rfl
  | [], _ :: _ | _ :: _, [] => cases h.length_eq
  | a :: as, b :: bs =>
    obtain ⟨hplainA, hdepthA⟩ := ha a List.mem_cons_self
    obtain ⟨hplainB, hdepthB⟩ := hb b List.mem_cons_self
    cases format with
    | none => rfl
    | some format =>
      cases format with
      | document =>
        simp only [redactText]
        match as, bs with
        | [], [] =>
          have hab : a.redact = b.redact := (List.cons.inj h).1
          rw [Batch.redactLine_printed_singleton hkeep hplainA hdepthA hla,
            Batch.redactLine_printed_singleton hkeep hplainB hdepthB hlb,
            Node.redactWithin_congr hab]
        | [], _ :: _ | _ :: _, [] => cases h.length_eq
        | a' :: as, b' :: bs =>
          rw [Batch.redactLine_printed_cons_cons hkeep hplainA (ha a' (by simp)).1 hdepthA,
            Batch.redactLine_printed_cons_cons hkeep hplainB (hb b' (by simp)).1 hdepthB]
      | batch =>
        obtain ⟨c, cs, hc, hstartA, -⟩ := Batch.printed_eq_cons hplainA as ended
        obtain ⟨d, ds, hd, hstartB, -⟩ := Batch.printed_eq_cons hplainB bs ended
        simp only [redactText, Logged.value_bind, Logged.value_pure]
        rw [hc, hd, Json.dropMark_of_startsValue hstartA, Json.dropMark_of_startsValue hstartB, ← hc,
          ← hd, Batch.redactText_printed hkeep (List.cons_ne_nil a as) ha hla,
          Batch.redactText_printed hkeep (List.cons_ne_nil b bs) hb hlb,
          h.map_redactWithin limits.depth Batch.shown]

/-- So is the outcome of redacting the body, errors in the type included. -/
theorem redactBody_printed [Encoding.Codecs] {options : Options} (hkeep : options.keepInvalidJson.isTruthy = false)
    (h : SameShape as bs) (ha : ∀ a ∈ as, IsReadable a) (hb : ∀ b ∈ bs, IsReadable b)
    (hla : (printed as ended).length ≤ options.maxInputLength)
    (hlb : (printed bs ended).length ≤ options.maxInputLength) (method endpoint : Text)
    (contentType : Option Text) :
    (redactBody options ⟨method, endpoint, some (.text (printed as ended)), contentType⟩).value =
      (redactBody options ⟨method, endpoint, some (.text (printed bs ended)), contentType⟩).value := by
  match as, bs with
  | [], [] => rfl
  | [], _ :: _ | _ :: _, [] => cases h.length_eq
  | a :: as, b :: bs =>
    obtain ⟨c, cs, hc, hstartA, -⟩ := Batch.printed_eq_cons (ha a List.mem_cons_self).1 as ended
    obtain ⟨d, ds, hd, hstartB, -⟩ := Batch.printed_eq_cons (hb b List.mem_cons_self).1 bs ended
    have hformat : ∀ type, BodyFormat.detect? type endpoint (printed (a :: as) ended) =
        BodyFormat.detect? type endpoint (printed (b :: bs) ended) :=
      fun type => detect?_printed h ha hb type endpoint
    have htext : ∀ format, (redactText options.limits format (printed (a :: as) ended)).value =
        (redactText options.limits format (printed (b :: bs) ended)).value :=
      redactText_printed hkeep h ha hb (Int.ofNat_le.2 hla) (Int.ofNat_le.2 hlb)
    have hemptyA : (Payload.text (printed (a :: as) ended)).isEmpty = false := by rw [hc]; rfl
    have hemptyB : (Payload.text (printed (b :: bs) ended)).isEmpty = false := by rw [hd]; rfl
    have hmarkA : Body.dropMark (printed (a :: as) ended) = printed (a :: as) ended := by
      rw [hc, Json.dropMark_of_startsValue hstartA]
    have hmarkB : Body.dropMark (printed (b :: bs) ended) = printed (b :: bs) ended := by
      rw [hd, Json.dropMark_of_startsValue hstartB]
    simp only [redactBody, redactPayload, hemptyA, hemptyB, Body.decode, hmarkA, hmarkB]
    cases ContentType.read? contentType with
    | error e => rfl
    | ok type => simp [hformat, htext]

end Request

/-- **Redaction of request bodies is non-interfering.** The bodies of two requests are printed trees,
    each on a line of its own, that have the same shape and lie within the limit. Then the requests
    are captured alike: with the same error, or with statements that tell the same. -/
theorem captureRequest_of_sameShape [Encoding.Codecs] {options : Options}
    (hkeep : options.keepInvalidJson.isTruthy = false) (h : SameShape as bs)
    (ha : ∀ a ∈ as, a.IsPlain ∧ a.depth < 150) (hb : ∀ b ∈ bs, b.IsPlain ∧ b.depth < 150)
    (hla : (printed as ended).length ≤ options.maxInputLength)
    (hlb : (printed bs ended).length ≤ options.maxInputLength) (method endpoint : Text)
    (contentType : Option Text) :
    (captureRequest options
        ⟨method, endpoint, some (.text (printed as ended)), contentType⟩).value.map Statement.told =
      (captureRequest options
        ⟨method, endpoint, some (.text (printed bs ended)), contentType⟩).value.map
          Statement.told := by
  have hreadable : ∀ {node : Node}, node.IsPlain ∧ node.depth < 150 → IsReadable node := by
    intro node hnode
    exact ⟨hnode.1, by rw [nestingLimit]; omega⟩
  have hbody := Request.redactBody_printed hkeep h (fun a hmem => hreadable (ha a hmem))
    (fun b hmem => hreadable (hb b hmem)) hla hlb method endpoint contentType
  unfold captureRequest
  by_cases hcapture : options.captureStatement.isTruthy = true
  · simp only [if_pos hcapture, Logged.value_bind, hbody]
    cases (Request.redactBody options
      ⟨method, endpoint, some (.text (printed bs ended)), contentType⟩).value with
    | error e => rfl
    | ok redacted => rfl
  · simp only [if_neg hcapture, Logged.value_pure]
    rfl

/-- Two batches whose values differ in kind and length, and of which one holds the end of a line. -/
theorem captureRequest_of_sameShape_of_batch :
    (captureRequest Options.default ⟨("post" : Text), ("logs/_bulk" : Text),
        some (.text (printed [.object [(("k" : Text), .scalar (.string ("\n\"\x7d;\x7b" : Text)))],
          .array [.scalar (.boolean true)]] true)), none⟩).value.map Statement.told =
      (captureRequest Options.default ⟨("post" : Text), ("logs/_bulk" : Text),
        some (.text (printed [.object [(("k" : Text), .scalar (.integer (-17)))],
          .array [.scalar .null]] true)), none⟩).value.map Statement.told := by
  have hsmall : Json.Scalar.IsPlain (.integer (-17)) :=
    Nat.lt_of_lt_of_le (by decide) (Nat.pow_le_pow_right (by decide) (by decide : 2 ≤ 4300))
  refine captureRequest_of_sameShape rfl ?_ ?_ ?_ ?_ ?_ _ _ _
  · simp [SameShape]
  · rintro a (_ | ⟨_, _ | ⟨_, ⟨⟩⟩⟩)
    · exact ⟨.object (by rintro _ (_ | ⟨_, ⟨⟩⟩); exact .scalar trivial), by simp⟩
    · exact ⟨.array (by rintro _ (_ | ⟨_, ⟨⟩⟩); exact .scalar trivial), by simp⟩
  · rintro b (_ | ⟨_, _ | ⟨_, ⟨⟩⟩⟩)
    · exact ⟨.object (by rintro _ (_ | ⟨_, ⟨⟩⟩); exact .scalar hsmall), by simp⟩
    · exact ⟨.array (by rintro _ (_ | ⟨_, ⟨⟩⟩); exact .scalar trivial), by simp⟩
  · cbv
  · cbv

end Redaction
