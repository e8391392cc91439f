/-
  Titles of spans.

  * `Value.isName`: a value that can stand in the name of a span;
  * `Labels.exists_ofStatement_iff`: a statement can be told on a span if its operation and its
    database are names;
  * `Instrumenter.title`: what is asked of the tracer for a deed, or the error that comes in its place;
  * `Instrumenter.exists_title_of_isPlain`: there is a title for every deed without bytes in place of a
    statement, and `Instrumenter.exists_title_bytes_iff` tells when there is one for bytes.
-/
import Redaction.Span.Run
import Mathlib.Tactic.Common

namespace Redaction

/-! ## Names -/

/-- A value that can stand in the name of a span: a text, or a value that does not count as yes, which
    is left out. -/
def Value.isName : Value → Bool
  | .text _ => true
  | value => ! value.isTruthy

theorem Value.isName_orElse {value other : Value} (hvalue : value.isName = true)
    (hother : other.isName = true) : (value.orElse other).isName = true := by
  unfold Value.orElse
  split
  · exact hvalue
  · exact hother

/-- The database of a call is a name if the one it names and the one that is assumed are. -/
theorem Options.isName_databaseOr {options : Options} {named : Value}
    (hdefault : options.defaultNamespace.isName = true) (hnamed : named.isName = true) :
    (options.databaseOr named).isName = true :=
  Value.isName_orElse (Value.isName_orElse hnamed hdefault) rfl

namespace Labels

theorem exists_part_iff {place : Nat} {value : Value} :
    (∃ t, part place value = .ok t) ↔ value.isName = true := by
  cases value with
  | text t => exact ⟨fun _ => rfl, fun _ => ⟨t, rfl⟩⟩
  | _ => simp only [part, Value.isName]; split <;> simp_all

/-- A statement can be told on a span if its operation and its database are names. -/
theorem exists_ofStatement_iff {statement : Statement} :
    (∃ labels, ofStatement (some statement) = .ok labels) ↔
      (valueOf statement.operation).isName = true ∧ statement.database.isName = true := by
  constructor
  · rintro ⟨labels, h⟩
    simp only [ofStatement, bind, Except.bind] at h
    split at h
    · cases h
    next operation hoperation =>
      split at h
      · cases h
      next database hdatabase =>
        exact ⟨exists_part_iff.1 ⟨operation, hoperation⟩, exists_part_iff.1 ⟨database, hdatabase⟩⟩
  · rintro ⟨hoperation, hdatabase⟩
    obtain ⟨operation, ho⟩ : ∃ t, part 0 (valueOf statement.operation) = .ok t :=
      exists_part_iff.2 hoperation
    obtain ⟨database, hd⟩ :
        ∃ t, part (if operation.isEmpty then 0 else 1) statement.database = .ok t :=
      exists_part_iff.2 hdatabase
    refine ⟨⟨operation, database, statement.sanitized.getD (.text [])⟩, ?_⟩
    simp only [ofStatement, bind, Except.bind, ho, hd, pure, Except.pure]

theorem kind_of_part {place : Nat} {value : Value} {raised : Raised}
    (h : part place value = .error raised) : raised.kind = ("TypeError" : Text) := by
  rw [part.eq_def] at h
  split at h
  · cases h
  · split at h
    · cases h
      rfl
    · cases h

/-- What keeps a statement from being told on a span is the sort of a value. -/
theorem kind_of_ofStatement {statement : Option Statement} {raised : Raised}
    (h : ofStatement statement = .error raised) : raised.kind = ("TypeError" : Text) := by
  cases statement with
  | none => cases h
  | some statement =>
    simp only [ofStatement, bind, Except.bind] at h
    split at h
    · next hoperation =>
      cases h
      exact kind_of_part hoperation
    · split at h
      · next hdatabase =>
        cases h
        exact kind_of_part hdatabase
      · cases h

end Labels

/-! ## The guard -/

theorem ContentType.ContentTypeError.isError_raised (e : ContentTypeError) :
    e.raised.isError = true := by
  cases e with
  | encoding name e => cases e <;> rfl
  | _ => rfl

/-- What keeps a statement from being captured is an error, and no demand to stop. -/
theorem StatementError.isError_raised (e : StatementError) : e.raised.isError = true := by
  cases e with
  | contentType e => exact e.isError_raised
  | encoding name e => cases e <;> rfl
  | longBytes => rfl

/-- Outside of tests no error of the library reaches its callers. -/
theorem Raised.reachesCallers_of_unset {environment : Environment}
    (h : environment.find? testVariable = none) : reachesCallers environment = false := by
  rw [reachesCallers, h]

/-! ## Titles -/

/-- Who makes the span that a deed begins. -/
def Deed.kind : Deed → SpanKind
  | .appSpan _ => .internal
  | _ => .client

namespace Instrumenter

variable {instrumenter : Instrumenter}

theorem titleOf_eq (statement : Option Statement) :
    instrumenter.titleOf statement = (Labels.ofStatement statement).map fun labels =>
      { name := labels.name instrumenter.system
        kind := .client
        attributes := labels.attributes instrumenter.convention instrumenter.system } := by
  rw [titleOf]
  cases Labels.ofStatement statement <;> rfl

theorem exists_titleOf_iff (captured : Except StatementError Statement) :
    (∃ title, instrumenter.titleOf captured.toOption = .ok title) ↔
      ∀ statement, captured = .ok statement →
        (Labels.valueOf statement.operation).isName = true ∧ statement.database.isName = true := by
  cases captured with
  | error e => exact ⟨by rintro - _ ⟨⟩, fun _ => ⟨_, rfl⟩⟩
  | ok statement =>
    simp only [Except.toOption, titleOf_eq, Except.ok.injEq, forall_eq',
      ← Labels.exists_ofStatement_iff]
    cases Labels.ofStatement (some statement) with
    | error raised => exact ⟨nofun, nofun⟩
    | ok labels => exact ⟨fun _ => ⟨_, rfl⟩, fun _ => ⟨_, rfl⟩⟩

theorem kind_of_titleOf {statement : Option Statement} {raised : Raised}
    (h : instrumenter.titleOf statement = .error raised) : raised.kind = ("TypeError" : Text) := by
  rw [titleOf_eq] at h
  cases hlabels : Labels.ofStatement statement with
  | error e =>
    rw [hlabels] at h
    cases h
    exact Labels.kind_of_ofStatement hlabels
  | ok labels =>
    rw [hlabels] at h
    cases h

theorem kind_titleOf {statement : Option Statement} {title : Title}
    (h : instrumenter.titleOf statement = .ok title) : title.kind = .client := by
  rw [titleOf_eq] at h
  cases hlabels : Labels.ofStatement statement with
  | error e =>
    rw [hlabels] at h
    cases h
  | ok labels =>
    rw [hlabels] at h
    cases h
    rfl

variable [Encoding.Codecs] (instrumenter)

/-- What is asked of the tracer for a deed, or the error that comes up in its place. -/
def title : Deed → Except Raised Title
  | .sqlSpan statement database =>
    instrumenter.titleOf (captureSql instrumenter.options statement database).value.toOption
  | .requestSpan request =>
    instrumenter.titleOf (captureRequest instrumenter.options request).value.toOption
  | .appSpan name => .ok ⟨name, .internal, []⟩
  | .suppress | .setMark .. | .nothing => .ok ⟨[], .client, []⟩

variable {instrumenter}

/-- What comes up in place of a title is about the sort of a value. -/
theorem kind_of_title {deed : Deed} {raised : Raised}
    (h : instrumenter.title deed = .error raised) : raised.kind = ("TypeError" : Text) := by
  cases deed with
  | sqlSpan | requestSpan => exact kind_of_titleOf h
  | appSpan | suppress | setMark | nothing => cases h

/-- A span is made for its deed, and one of the application has the name that it was given. -/
theorem made_title {deed : Deed} {title : Title} (h : instrumenter.title deed = .ok title) :
    title.kind = deed.kind ∧ ∀ name, deed = .appSpan name → title.name = name := by
  cases deed with
  | sqlSpan | requestSpan =>
    exact ⟨kind_titleOf h, nofun⟩
  | appSpan name =>
    cases h
    exact ⟨rfl, fun _ heq => by cases heq; rfl⟩
  | suppress | setMark | nothing =>
    cases h
    exact ⟨rfl, nofun⟩

end Instrumenter

/-! ## Statements in text, and requests -/

/-- A request is captured with a verb in text, and with an index in text or none. -/
theorem isName_of_captureRequest [Encoding.Codecs] {options : Options} {request : Request}
    {statement : Statement} (h : (captureRequest options request).value = .ok statement) :
    (Labels.valueOf statement.operation).isName = true ∧ statement.database.isName = true := by
  have hdatabase : (Request.database request.endpoint).isName = true := by
    unfold Request.database
    split <;> rfl
  unfold captureRequest at h
  split at h
  · simp only [Logged.value_bind] at h
    split at h
    · cases h
    · cases h
      exact ⟨rfl, hdatabase⟩
  · cases h
    exact ⟨rfl, hdatabase⟩

/-- What is captured of a statement in text has a verb in text, and so has that of no statement. -/
theorem isName_of_captureSql {options : Options} (hdefault : options.defaultNamespace.isName = true)
    {text : Option Text} {database : Value} (hdatabase : database.isName = true)
    {statement : Statement}
    (h : (captureSql options (text.map Payload.text) database).value = .ok statement) :
    (Labels.valueOf statement.operation).isName = true ∧ statement.database.isName = true := by
  simp only [captureSql, Logged.value_bind, Logged.value_pure] at h
  split at h
  · cases h
  · cases h
    refine ⟨?_, Options.isName_databaseOr hdefault hdatabase⟩
    cases text <;> rfl

/-! ## Statements in bytes -/

theorem Bytes.firstWord_eq_nil_iff {bytes : Bytes} :
    firstWord bytes = [] ↔ ∀ b ∈ bytes, isBlank b = true := by
  simp only [firstWord, List.map_eq_nil_iff]
  induction bytes with
  | nil => simp
  | cons b bytes ih =>
    cases h : isBlank b
    · simp [h]
    · simpa [h] using ih

/-- A statement in bytes becomes the bytes that are looked at, whose first word is its operation. -/
theorem Sql.value_redactPayload_bytes (limit : Nat) (bytes : Bytes) :
    (redactPayload limit (some (.bytes bytes))).value = (keepBytes (bytes.take limit)).value := by
  by_cases hfits : bytes.length ≤ limit
  · rw [redactPayload, if_pos (by omega), List.take_of_length_le hfits]
  · have hne : bytes.isEmpty = false := by
      cases bytes with
      | nil => simp at hfits
      | cons b bytes => rfl
    rw [redactPayload, if_neg (by omega), hne, upTo_natCast]
    rfl

theorem Sql.value_keepBytes_cons (b : UInt8) (bytes : Bytes) :
    (keepBytes (b :: bytes)).value =
      ⟨.bytes (b :: bytes),
        if (Bytes.firstWord (b :: bytes)).isEmpty then .text []
        else .bytes (Bytes.firstWord (b :: bytes))⟩ :=
  rfl

theorem Sql.isName_keepBytes_iff {bytes : Bytes} :
    (Labels.valueOf (keepBytes bytes).value.operation).isName = true ↔
      Bytes.firstWord bytes = [] := by
  cases bytes with
  | nil => exact ⟨fun _ => rfl, fun _ => rfl⟩
  | cons b bytes =>
    rw [value_keepBytes_cons]
    cases Bytes.firstWord (b :: bytes) with
    | nil => exact ⟨fun _ => rfl, fun _ => rfl⟩
    | cons => exact ⟨nofun, nofun⟩

/-- Bytes do not fit a limit if they are longer, and the limit leaves room for more than the mark of a
    cut. -/
theorem exists_fit_bytes_iff {limit : Nat} {bytes : Bytes} :
    (∃ fitted, fit cutMarker limit (.bytes bytes) = .ok fitted) ↔
      ¬ (cutMarker.length < limit ∧ limit < bytes.length) := by
  simp only [fit]
  by_cases hlength : (bytes.length : Int) ≤ limit
  · rw [if_pos hlength]
    exact ⟨fun _ => by omega, fun _ => ⟨_, rfl⟩⟩
  · rw [if_neg hlength]
    by_cases hroom : (limit : Int) ≤ cutMarker.length
    · rw [if_pos hroom]
      exact ⟨fun _ => by omega, fun _ => ⟨_, rfl⟩⟩
    · rw [if_neg hroom]
      exact ⟨nofun, fun h => absurd ⟨by omega, by omega⟩ h⟩

theorem Options.exists_captured_iff {options : Options} {sanitized : Payload} :
    (∃ captured, options.captured sanitized = .ok captured) ↔
      (options.captureStatement.isTruthy = true →
        ∃ fitted, fit cutMarker options.maxLength sanitized = .ok fitted) := by
  cases h : options.captureStatement.isTruthy with
  | false => simp [captured, h]
  | true => cases hfit : fit cutMarker options.maxLength sanitized <;> simp [captured, h, hfit]

theorem Sql.exists_captured_keepBytes_iff {options : Options} {bytes : Bytes} :
    (∃ captured, options.captured (keepBytes bytes).value.sanitized = .ok captured) ↔
      ¬ (options.captureStatement.isTruthy = true ∧ cutMarker.length < options.maxLength ∧
        options.maxLength < bytes.length) := by
  rw [Options.exists_captured_iff]
  cases bytes with
  | nil => exact ⟨fun _ => by simp, fun _ _ => ⟨_, rfl⟩⟩
  | cons b bytes =>
    rw [value_keepBytes_cons, exists_fit_bytes_iff]
    exact not_and.symm

namespace Instrumenter

variable [Encoding.Codecs] {instrumenter : Instrumenter}

theorem exists_title_text (hdefault : instrumenter.options.defaultNamespace.isName = true)
    (text : Option Text) {database : Value} (hdatabase : database.isName = true) :
    ∃ title, instrumenter.title (.sqlSpan (text.map .text) database) = .ok title :=
  (exists_titleOf_iff _).2 fun _ h => isName_of_captureSql hdefault hdatabase h

theorem exists_title_request (request : Request) :
    ∃ title, instrumenter.title (.requestSpan request) = .ok title :=
  (exists_titleOf_iff _).2 fun _ h => isName_of_captureRequest h

/-- A span for a statement in bytes gets its name if they hold no word, or if they cannot be captured
    and the span goes without them. -/
theorem exists_title_bytes_iff (hdefault : instrumenter.options.defaultNamespace.isName = true)
    (bytes : Bytes) {database : Value} (hdatabase : database.isName = true) :
    (∃ title, instrumenter.title (.sqlSpan (some (.bytes bytes)) database) = .ok title) ↔
      (∀ b ∈ bytes.take instrumenter.options.maxInputLength, Bytes.isBlank b = true) ∨
        (instrumenter.options.captureStatement.isTruthy = true ∧
          cutMarker.length < instrumenter.options.maxLength ∧
          instrumenter.options.maxLength <
            (bytes.take instrumenter.options.maxInputLength).length) := by
  rw [title, exists_titleOf_iff, ← Bytes.firstWord_eq_nil_iff, ← Sql.isName_keepBytes_iff]
  simp only [captureSql, Logged.value_bind, Logged.value_pure, Sql.value_redactPayload_bytes]
  generalize bytes.take instrumenter.options.maxInputLength = looked
  have hcaptured : (∃ captured,
      instrumenter.options.captured (Sql.keepBytes looked).value.sanitized = .ok captured) ↔ _ :=
    Sql.exists_captured_keepBytes_iff
  cases h : instrumenter.options.captured (Sql.keepBytes looked).value.sanitized with
  | error e =>
    have hlong := of_not_not (hcaptured.not.1 (by simp [h]))
    exact ⟨fun _ => .inr hlong, by rintro - _ ⟨⟩⟩
  | ok sanitized =>
    have hfits := hcaptured.1 ⟨sanitized, h⟩
    refine ⟨fun hall => .inl (hall _ rfl).1, ?_⟩
    rintro (hname | hlong) _ ⟨⟩
    · exact ⟨hname, Options.isName_databaseOr hdefault hdatabase⟩
    · exact absurd hlong hfits

end Instrumenter

/-- Whether the database that a deed names, if it names one, is a name. -/
def Deed.isNamed : Deed → Bool
  | .sqlSpan _ database => database.isName
  | _ => true

/-- Whether the statement of a deed, if it has one, is a text or none, and its database is a name. -/
def Deed.isPlain : Deed → Bool
  | .sqlSpan (some (.bytes _)) _ => false
  | deed => deed.isNamed

namespace Instrumenter

variable [Encoding.Codecs] {instrumenter : Instrumenter}

/-- There is a title for every deed without bytes in place of a statement. -/
theorem exists_title_of_isPlain (hdefault : instrumenter.options.defaultNamespace.isName = true)
    {deed : Deed} (h : deed.isPlain = true) : ∃ title, instrumenter.title deed = .ok title := by
  cases deed with
  | sqlSpan statement database =>
    match statement with
    | none => exact exists_title_text hdefault none h
    | some (.text t) => exact exists_title_text hdefault (some t) h
    | some (.bytes bytes) => cases h
  | requestSpan request => exact exists_title_request request
  | appSpan | suppress | setMark | nothing => exact ⟨_, rfl⟩

end Instrumenter

end Redaction
