/-
  Captured statements and their limit.

  * `Abridges`: what stands for a list under a limit, and `abridges_iff`: `abridge` gives just that;
  * `Call` is a call with a statement in text or with a request, `Call.whole` what it becomes before
    anything is cut, and `Call.capture_eq`: what is captured is this under the limit;
  * `Call.whole_withMaxLength` and `Call.told_congr`: the limit makes no difference to it, and what is
    captured makes none to verb and database;
  * `Call.captured_within_limit`: so captured statements respect their limit and are whole where they
    fit it, and verb and database do not depend on what is captured.
-/
import Redaction.Proofs.Document

namespace Redaction

/-! ## Lists under a limit -/

section Abridges

variable {α : Type} {middle whole short : List α} {limit : Nat}

/-- What stands for a list under a limit: the list if it fits, its beginning if `middle` alone fills
    the limit, and else a head and a tail with `middle` between them that fill the limit. Head and tail
    are apart in the list, and of one length but for the odd element, which is in the head. -/
inductive Abridges (middle : List α) (limit : Nat) (whole : List α) : List α → Prop
  | fitting (hfits : whole.length ≤ limit) : Abridges middle limit whole whole
  | start (hlong : limit < whole.length) (hmiddle : limit ≤ middle.length) :
      Abridges middle limit whole (whole.take limit)
  | ends {head inner tail : List α} (hlong : limit < whole.length) (hmiddle : middle.length < limit)
      (hwhole : whole = head ++ inner ++ tail) (hlength : (head ++ middle ++ tail).length = limit)
      (hodd : head.length = tail.length ∨ head.length = tail.length + 1) :
      Abridges middle limit whole (head ++ middle ++ tail)

namespace Abridges

theorem length_eq (h : Abridges middle limit whole short) (hlong : limit < whole.length) :
    short.length = limit := by
  cases h with
  | fitting hfits => omega
  | start => exact List.length_take_of_le (by omega)
  | ends _ _ _ hlength => exact hlength

theorem length_le (h : Abridges middle limit whole short) : short.length ≤ limit := by
  by_cases hlong : limit < whole.length
  · exact (h.length_eq hlong).le
  · cases h with
    | fitting hfits => exact hfits
    | start hlong' | ends hlong' => exact absurd hlong' hlong

end Abridges

/-- A list in three parts, told by where the first ends and the last begins. -/
theorem take_append_inner_append_drop {xs : List α} {m n : Nat} (h : m ≤ n) :
    xs = xs.take m ++ (xs.take n).drop m ++ xs.drop n := by
  have hfirst : xs.take m = (xs.take n).take m := by rw [List.take_take, Nat.min_eq_left h]
  rw [hfirst, List.take_append_drop, List.take_append_drop]

theorem abridges_abridge (middle : List α) (limit : Nat) (whole : List α) :
    Abridges middle limit whole (abridge middle limit whole) := by
  by_cases hlong : limit < whole.length
  · rw [abridge, if_neg (by omega)]
    by_cases hmiddle : limit ≤ middle.length
    · rw [if_pos (by omega), upTo_natCast]
      exact .start hlong hmiddle
    · obtain ⟨kept, rfl⟩ : ∃ kept, limit = kept + middle.length := ⟨limit - middle.length, by omega⟩
      have hkept : (((kept + middle.length : Nat) : Int) - middle.length).toNat = kept := by omega
      simp only [hkept]
      rw [if_neg (by omega)]
      -- the tail is the smaller half of what is kept
      have hhead : (whole.take (kept - kept / 2)).length = kept - kept / 2 :=
        List.length_take_of_le (by omega)
      have htail : (whole.drop (whole.length - kept / 2)).length = kept / 2 := by
        rw [List.length_drop]
        omega
      refine .ends hlong (by omega) (take_append_inner_append_drop (by omega)) ?_ ?_
      · rw [List.length_append, List.length_append, hhead, htail]
        omega
      · rw [hhead, htail]
        omega
  · rw [abridge_of_le (by omega)]
    exact .fitting (by omega)

/-- Nothing else stands for a list under a limit. -/
theorem Abridges.eq_abridge (h : Abridges middle limit whole short) :
    short = abridge middle limit whole := by
  cases h with
  | fitting hfits => rw [abridge_of_le (by omega)]
  | start hlong hmiddle => rw [abridge, if_neg (by omega), if_pos (by omega), upTo_natCast]
  | @ends head inner tail hlong hmiddle hwhole hlength hodd =>
    rw [List.length_append, List.length_append] at hlength
    have hkept : ((limit : Int) - middle.length).toNat = head.length + tail.length := by omega
    have hhalf : (head.length + tail.length) / 2 = tail.length := by omega
    rw [abridge, if_neg (by omega), if_neg (by omega)]
    simp only [hkept, hhalf, Nat.add_sub_cancel]
    have hhead : whole.take head.length = head := by rw [hwhole, List.append_assoc, List.take_left]
    have htail : whole.drop (whole.length - tail.length) = tail := by
      rw [hwhole, List.length_append, Nat.add_sub_cancel, List.drop_left]
    rw [hhead, htail]

/-- **A list is abridged** to what stands for it under the limit, and to nothing else. -/
theorem abridges_iff : Abridges middle limit whole short ↔ short = abridge middle limit whole := by
  constructor
  · exact Abridges.eq_abridge
  · rintro rfl
    exact abridges_abridge middle limit whole

end Abridges

/-! ## Calls -/

/-- A call to a database: with a statement in text or none and a database that may be known, or with a
    request. -/
inductive Call where
  | sql (text : Option Text) (database : Value)
  | search (request : Request)

namespace Call

/-- What is captured of a call. -/
def capture [Encoding.Codecs] (options : Options) : Call → Except StatementError Statement
  | .sql text database => (captureSql options (text.map Payload.text) database).value
  | .search request => (captureRequest options request).value

/-- What a call becomes before anything of it is cut. -/
def whole [Encoding.Codecs] (options : Options) : Call → Except StatementError Text
  | .sql none _ => .ok []
  | .sql (some t) _ => .ok (Sql.redact options.maxInputLength t).value.sanitized
  | .search request => (request.redactBody options).value.map request.shown

/-- The statement with something captured of a call or nothing. -/
def told (options : Options) (sanitized : Option Payload) : Call → Statement
  | .sql text database => {
      sanitized
      operation := (Sql.redactPayload options.maxInputLength (text.map Payload.text)).value.operation
      database := options.databaseOr database
      raw := text.map Payload.text }
  | .search request => {
      sanitized
      operation := .text (Request.verb request.method)
      database := Request.database request.endpoint
      raw := request.body }

variable {options other : Options} {call : Call} {statement again : Statement}

@[simp] theorem sanitized_told (sanitized : Option Payload) :
    (call.told options sanitized).sanitized = sanitized := by
  cases call <;> rfl

theorem operation_told (shown sanitized : Option Payload) :
    (call.told options shown).operation = (call.told options sanitized).operation := by
  cases call <;> rfl

theorem database_told (shown sanitized : Option Payload) :
    (call.told options shown).database = (call.told options sanitized).database := by
  cases call <;> rfl

/-- What is captured of a call is what it becomes, made fit for the limit, unless nothing is to be
    captured. -/
theorem capture_eq [Encoding.Codecs] (options : Options) (call : Call) :
    call.capture options =
      if options.captureStatement.isTruthy then
        (call.whole options).map fun whole =>
          call.told options (some (.text (abridge cutMarker options.maxLength whole)))
      else .ok (call.told options none) := by
  cases call with
  | sql text database =>
    cases hcapture : options.captureStatement.isTruthy <;> cases text <;>
      simp [capture, whole, told, captureSql, Options.captured, fit, hcapture, Sql.redactPayload,
        Except.map]
  | search request =>
    simp only [capture, captureRequest, whole, told]
    split
    · simp only [Logged.value_bind]
      cases (request.redactBody options).value <;> rfl
    · rfl

/-- How much is captured makes no difference to what a call becomes. -/
theorem whole_withMaxLength [Encoding.Codecs] {limit : Nat} (hlimit : 0 < limit) :
    call.whole (options.withMaxLength limit hlimit) = call.whole options := by
  rcases call with ⟨_ | _⟩ | _ <;> rfl

/-- Verb and database come from the call, from how much of a statement is looked at, and from the
    namespace that is assumed. -/
theorem told_congr (hinput : other.maxInputLength = options.maxInputLength)
    (hnamespace : other.defaultNamespace = options.defaultNamespace) (sanitized : Option Payload) :
    call.told other sanitized = call.told options sanitized := by
  cases call with
  | sql => simp only [told, Options.databaseOr, hinput, hnamespace]
  | search => rfl

/-- Where a call is captured, either nothing is shown of it, or what it becomes under the limit. -/
theorem capture_cases [Encoding.Codecs] (h : call.capture options = .ok statement) :
    (options.captureStatement.isTruthy = false ∧ statement = call.told options none) ∨
      ∃ whole, options.captureStatement.isTruthy = true ∧ call.whole options = .ok whole ∧
        statement = call.told options (some (.text (abridge cutMarker options.maxLength whole))) := by
  rw [capture_eq] at h
  split at h
  next hcapture =>
    cases hwhole : call.whole options with
    | error e => simp [hwhole, Except.map] at h
    | ok whole =>
      rw [hwhole] at h
      cases h
      exact .inr ⟨whole, hcapture, rfl, rfl⟩
  next hcapture =>
    cases h
    exact .inl ⟨Bool.eq_false_of_not_eq_true hcapture, rfl⟩

/-- Under any limit that what a call becomes fits, it is captured whole. -/
theorem sanitized_withMaxLength [Encoding.Codecs] {whole : Text} {limit : Nat}
    (hcapture : options.captureStatement.isTruthy = true) (hwhole : call.whole options = .ok whole)
    (hlimit : 0 < limit) (hfits : whole.length ≤ limit) :
    (call.capture (options.withMaxLength limit hlimit)).map Statement.sanitized =
      .ok (some (.text whole)) := by
  have hcapture' : (options.withMaxLength limit hlimit).captureStatement.isTruthy = true := hcapture
  rw [capture_eq, if_pos hcapture', whole_withMaxLength, hwhole]
  simp only [Except.map, sanitized_told, Options.withMaxLength]
  rw [abridge_of_le (by omega)]

theorem told_of_capture [Encoding.Codecs] (h : call.capture options = .ok statement) :
    ∃ sanitized, statement = call.told options sanitized := by
  obtain ⟨_, rfl⟩ | ⟨_, _, _, rfl⟩ := capture_cases h <;> exact ⟨_, rfl⟩

/-- **Captured statements respect their limit, and verb and database do not depend on what is
    captured.** Something is shown of a call just if statements are captured. It is text within the
    limit, and one text stands behind what is shown under every limit: it is shown as it is under any
    limit that it fits. Where it is too long, what is shown fills the limit with its beginning or with
    its two ends. Verb and database are the same under any options with the same limit on what is
    looked at and the same namespace that is assumed. -/
theorem captured_within_limit [Encoding.Codecs] (h : call.capture options = .ok statement) :
    (statement.sanitized = none ↔ options.captureStatement.isTruthy = false) ∧
      (∀ sanitized, statement.sanitized = some sanitized →
        ∃ whole short : Text,
          sanitized = .text short ∧
            short.length ≤ options.maxLength ∧
            (options.maxLength < whole.length → short.length = options.maxLength) ∧
            Abridges cutMarker options.maxLength whole short ∧
            ∀ (limit : Nat) (hlimit : 0 < limit), whole.length ≤ limit →
              (call.capture (options.withMaxLength limit hlimit)).map Statement.sanitized =
                .ok (some (.text whole))) ∧
      ∀ (other : Options) (again : Statement),
        other.maxInputLength = options.maxInputLength →
        other.defaultNamespace = options.defaultNamespace →
        call.capture other = .ok again →
          again.operation = statement.operation ∧ again.database = statement.database := by
  refine ⟨?_, fun sanitized hsanitized => ?_, fun other again hinput hnamespace hagain => ?_⟩
  · obtain ⟨hcapture, rfl⟩ | ⟨whole, hcapture, _, rfl⟩ := capture_cases h <;> simp [hcapture]
  · obtain ⟨hcapture, rfl⟩ | ⟨whole, hcapture, hwhole, rfl⟩ := capture_cases h
    · rw [sanitized_told] at hsanitized
      cases hsanitized
    · rw [sanitized_told, Option.some.injEq] at hsanitized
      have habridges : Abridges cutMarker options.maxLength whole _ := abridges_iff.2 rfl
      exact ⟨whole, _, hsanitized.symm, habridges.length_le, habridges.length_eq, habridges,
        fun limit hlimit hfits => sanitized_withMaxLength hcapture hwhole hlimit hfits⟩
  · obtain ⟨shown, rfl⟩ := told_of_capture h
    obtain ⟨shownAgain, rfl⟩ := told_of_capture hagain
    rw [told_congr hinput hnamespace]
    exact ⟨operation_told .., database_told ..⟩

/-- A search that is told by its verb and path, of which eight characters are shown. -/
theorem captured_within_limit_of_search :
    ∃ statement, (search ⟨("get" : Text), ("books/_search" : Text), none, none⟩).capture
          (Options.default.withMaxLength 8 (by decide)) = .ok statement ∧
      statement.sanitized = some (.text ("GET...ch" : Text)) ∧
      ∃ whole, Abridges cutMarker 8 whole ("GET...ch" : Text) ∧
        ((search ⟨("get" : Text), ("books/_search" : Text), none, none⟩).capture
          (Options.default.withMaxLength whole.length.succ (by simp))).map Statement.sanitized =
            .ok (some (.text whole)) := by
  have h : (search ⟨("get" : Text), ("books/_search" : Text), none, none⟩).capture
      (Options.default.withMaxLength 8 (by decide)) =
        .ok ⟨some (.text ("GET...ch" : Text)), .text ("GET" : Text), .text ("books" : Text), none⟩ := by
    cbv
  obtain ⟨whole, short, hshort, -, -, habridges, hwhole⟩ := (captured_within_limit h).2.1 _ rfl
  obtain rfl := Payload.text.inj hshort
  exact ⟨_, h, rfl, whole, habridges, hwhole _ _ (Nat.le_succ _)⟩

end Call

end Redaction
