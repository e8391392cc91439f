/-
  What redaction tells on the side.

  The events of redaction are told in words that do not depend on what is redacted. Only numbers are
  put in: limits, counts, and places in a text.

  * `wordings`: the messages of redaction without their digits, of which there are fifteen;
  * `Event.IsMeasured`: an event of redaction, whose limit is positive if it names one;
  * `Event.IsMeasured.worded`: such an event is told in one of the wordings;
  * `isMeasured_of_redactPayload`, `Json.isMeasured_of_redactDecoded`, `Batch.isMeasured_of_redactText`:
    the events on the way to a redacted statement, document or batch are such events;
  * `events_worded`: so what is told of them carries nothing of the text.
-/
import Redaction.Proofs.Limit
import Redaction.Sql.Redaction

namespace Redaction

open Json (Failure Fault Limits)

/-! ## Wordings -/

/-- A message without its decimal digits. -/
def withoutDigits (message : Text) : Text := message.filter fun c => ! c.isAsciiDigit

/-- What can be wrong with a text that is no document. -/
def Json.faults : List Fault :=
  [.expectedValue, .expectedKey, .expectedColon, .expectedComma, .extraData, .controlCharacter,
   .invalidEscape, .invalidHexEscape, .unterminatedString, .byteOrderMark]

/-- A failure to read a document of each wording. -/
def Json.sampleFailures : List Failure :=
  [.tooLong 1, .tooDeep 1, .longInteger 1] ++ faults.map fun fault => .malformed fault ⟨1, 1, 1⟩

/-- An event of redaction of each wording. -/
def sampleEvents : List Event :=
  [.statementCut 1, .batchCut 1] ++ Json.sampleFailures.map .bodyUnredacted

/-- The messages of redaction without their digits. -/
def wordings : List Text := sampleEvents.map fun event => withoutDigits event.message

theorem withoutDigits_append (a b : Text) :
    withoutDigits (a ++ b) = withoutDigits a ++ withoutDigits b := List.filter_append a b

theorem withoutDigits_decimal (n : Nat) : withoutDigits (Text.decimal n) = [] := by
  refine List.filter_eq_nil_iff.2 fun c hc => ?_
  simp [Text.isAsciiDigit_of_mem_decimal hc]

theorem withoutDigits_integer {n : Int} (h : 0 < n) : withoutDigits (Text.integer n) = [] := by
  obtain ⟨m, rfl⟩ := Int.eq_ofNat_of_zero_le h.le
  exact withoutDigits_decimal m

/-! ## Events that are told in them -/

/-- The limit that a failure names is positive, if it names one. -/
def Json.Failure.IsMeasured : Failure → Prop
  | .tooLong limit | .tooDeep limit => 0 < limit
  | .longInteger _ | .malformed .. => True

/-- An event of redaction, whose limit is positive if it names one. -/
inductive Event.IsMeasured : Event → Prop
  | statementCut {limit} : 0 < limit → IsMeasured (.statementCut limit)
  | batchCut {limit} : 0 < limit → IsMeasured (.batchCut limit)
  | bodyUnredacted {failure} : failure.IsMeasured → IsMeasured (.bodyUnredacted failure)

/-- A failure is told like one of the samples. -/
theorem Json.Failure.IsMeasured.exists_sample {failure : Failure} (h : failure.IsMeasured) :
    ∃ sample ∈ sampleFailures,
      withoutDigits failure.message = withoutDigits sample.message := by
  have hone : withoutDigits (Text.integer 1) = [] := withoutDigits_integer Int.one_pos
  cases failure with
  | tooLong limit =>
    refine ⟨.tooLong 1, by simp [sampleFailures], ?_⟩
    rw [message, message, withoutDigits_append, withoutDigits_append, withoutDigits_integer h, hone]
  | tooDeep limit =>
    refine ⟨.tooDeep 1, by simp [sampleFailures], ?_⟩
    rw [message, message, withoutDigits_append, withoutDigits_append, withoutDigits_integer h, hone]
  | longInteger digits =>
    refine ⟨.longInteger 1, by simp [sampleFailures], ?_⟩
    simp only [message, withoutDigits_append, withoutDigits_decimal]
  | malformed fault position =>
    have hfault : fault ∈ faults := by cases fault <;> decide
    refine ⟨.malformed fault ⟨1, 1, 1⟩, by simp [sampleFailures, hfault], ?_⟩
    simp only [message, Position.message, withoutDigits_append, withoutDigits_decimal]

/-- **An event of redaction is told in one of the wordings**, and matters to nobody else. -/
theorem Event.IsMeasured.worded {event : Event} (h : event.IsMeasured) :
    event.level = .debug ∧ withoutDigits event.message ∈ wordings := by
  have hone : withoutDigits (Text.integer 1) = [] := withoutDigits_integer Int.one_pos
  cases h with
  | statementCut hlimit =>
    refine ⟨rfl, List.mem_map.2 ⟨.statementCut 1, by simp [sampleEvents], ?_⟩⟩
    simp only [message, withoutDigits_append, withoutDigits_integer hlimit, hone]
  | batchCut hlimit =>
    refine ⟨rfl, List.mem_map.2 ⟨.batchCut 1, by simp [sampleEvents], ?_⟩⟩
    simp only [message, withoutDigits_append, withoutDigits_integer hlimit, hone]
  | bodyUnredacted hfailure =>
    obtain ⟨sample, hsample, hmessage⟩ := hfailure.exists_sample
    refine ⟨rfl, List.mem_map.2 ⟨.bodyUnredacted sample, by simp [sampleEvents, hsample], ?_⟩⟩
    rw [message, message, withoutDigits_append, withoutDigits_append, hmessage]

example : withoutDigits (Event.batchCut 1024).message =
    ("Batch body longer than  characters, dropping the remaining lines" : Text) := by cbv

/-! ## Events of redaction -/

section Redaction

variable {limit : Int} {limits : Limits} {event : Event} {t : Text}

theorem isMeasured_of_redactPayload (hlimit : 0 < limit)
    (h : event ∈ (Sql.redactPayload limit (some (.text t))).log) : event.IsMeasured := by
  have hlog : (Sql.redactPayload limit (some (.text t))).log = (Sql.redact limit t).log := by
    rw [Sql.redactPayload, Logged.log_bind, Logged.log_pure, List.append_nil]
  rw [hlog, Sql.redact] at h
  split at h
  · cases h
  · split at h
    · cases h
    · obtain rfl : event = .statementCut limit := by simpa using h
      exact .statementCut hlimit

namespace Json

/-- A document is refused for a positive limit, or for what it holds. -/
theorem isMeasured_of_redactText (hlength : 0 < limits.length) (hdepth : 0 < limits.depth)
    {failure : Failure} (h : redactText limits t = .error failure) : failure.IsMeasured := by
  unfold redactText parse at h
  split at h
  case h_1 refusal hparse =>
    obtain rfl := Except.error.inj h
    split at hparse
    · obtain rfl := Except.error.inj hparse
      exact hlength
    · split at hparse
      · cases hparse
      case h_2 halt _ =>
        obtain rfl := Except.error.inj hparse
        cases halt with
        | fault | longInteger => trivial
        | noRoom => exact (by decide : (0 : Int) < nestingLimit)
  case h_2 node _ =>
    split at h
    · cases h
    · obtain rfl := Except.error.inj h
      exact hdepth

theorem isMeasured_of_redactDecoded (hlength : 0 < limits.length) (hdepth : 0 < limits.depth)
    (h : event ∈ (redactDecoded limits t).log) : event.IsMeasured := by
  rw [redactDecoded] at h
  split at h
  · cases h
  · cases hredacted : redactText limits t with
    | ok redacted =>
      rw [hredacted] at h
      cases h
    | error failure =>
      rw [hredacted] at h
      obtain rfl : event = .bodyUnredacted failure := by simpa using h
      exact .bodyUnredacted (isMeasured_of_redactText hlength hdepth hredacted)

end Json

theorem Batch.isMeasured_of_redactText (hlength : 0 < limits.length) (hdepth : 0 < limits.depth)
    (h : event ∈ (redactText limits t).log) : event.IsMeasured := by
  rw [redactText, Logged.log_bind, Logged.log_pure, List.append_nil, segments, List.mem_append] at h
  rcases h with h | h
  · obtain ⟨log, hlog, hevent⟩ := List.mem_flatten.1 h
    rw [List.map_map] at hlog
    obtain ⟨line, -, rfl⟩ := List.mem_map.1 hlog
    rw [Function.comp_apply, log_segment] at hevent
    exact Json.isMeasured_of_redactDecoded hlength hdepth hevent
  · split at h
    · cases h
    · obtain rfl := List.mem_singleton.1 h
      exact .batchCut hlength

end Redaction

/-- **What is told of redaction carries nothing of the text.** Whatever the text is, and whatever
    positive limits are put on it, the events on the way to the redacted statement, document or batch
    matter to nobody else, and without its digits the message of each of them is one of the
    wordings. -/
theorem events_worded [Encoding.Codecs] {limit : Int} {limits : Limits} (hlimit : 0 < limit)
    (hlength : 0 < limits.length) (hdepth : 0 < limits.depth) (encoding t : Text) :
    (∀ event ∈ (Sql.redactPayload limit (some (.text t))).log,
        event.level = .debug ∧ withoutDigits event.message ∈ wordings) ∧
      (∃ redacted, Json.redact limits encoding (some (.text t)) = .ok redacted ∧
        ∀ event ∈ redacted.log, event.level = .debug ∧ withoutDigits event.message ∈ wordings) ∧
      ∃ redacted, Batch.redact limits encoding (some (.text t)) = .ok redacted ∧
        ∀ event ∈ redacted.log, event.level = .debug ∧ withoutDigits event.message ∈ wordings := by
  refine ⟨fun event h => (isMeasured_of_redactPayload hlimit h).worded, ⟨_, rfl, fun event h => ?_⟩,
    ⟨_, rfl, fun event h => ?_⟩⟩
  · rw [Logged.log_bind, Logged.log_pure, List.nil_append, Logged.value_pure] at h
    exact (Json.isMeasured_of_redactDecoded hlength hdepth h).worded
  · rw [Logged.log_bind, Logged.log_pure, List.nil_append, Logged.value_pure] at h
    exact (Batch.isMeasured_of_redactText hlength hdepth h).worded

/-- A batch with a word that is no document, a document that is too deep, and lines beyond the limit. -/
theorem events_worded_of_short_batch :
    (0 : Int) < 18 ∧ (0 : Int) < 1 ∧
      ∃ redacted, Batch.redact ⟨18, 1, false⟩ [] (some (.text ("\x7b\"pw\": 4711x\n[[]]\n42" : Text))) =
          .ok redacted ∧
        redacted.log = [.bodyUnredacted (.malformed .expectedComma ⟨1, 12, 11⟩),
          .bodyUnredacted (.tooDeep 1), .batchCut 18] ∧
        ∀ event ∈ redacted.log, event.level = .debug ∧ withoutDigits event.message ∈ wordings := by
  obtain ⟨-, -, redacted, hredacted, hworded⟩ := @events_worded _ 1 ⟨18, 1, false⟩
    Int.one_pos (by decide) (by decide) [] ("\x7b\"pw\": 4711x\n[[]]\n42" : Text)
  refine ⟨by decide, by decide, redacted, hredacted, ?_, hworded⟩
  obtain rfl := Except.ok.inj hredacted
  cbv

end Redaction
