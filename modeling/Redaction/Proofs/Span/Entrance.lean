/-
  Entering actions.

  * `Deed.records`: whether a deed begins a span, given whether instrumentation is suppressed;
  * `Instrumenter.enter_call_eq`: all that can come of entering a call to a database;
  * `Instrumenter.Opens`: what a world is inside of a deed, given the one outside;
  * `Instrumenter.exists_wraps_enter`: where there is a title for its span, a deed is entered, and
    `Instrumenter.enter_of_error`: where there is none, an error comes in place of what runs inside;
  * `Instrumenter.Enters` and `Instrumenter.Refuses`: a deed is entered, or is not;
  * `Instrumenter.entered_iff`: only a statement in bytes can keep a span from being entered.
-/
import Redaction.Proofs.Span.Restored
import Redaction.Proofs.Span.Title

namespace Redaction

/-! ## Deeds -/

namespace Deed

/-- Whether a deed begins a span. One for a call to a database does not where instrumentation is
    suppressed. -/
def records (suppressed : Bool) : Deed → Bool
  | .appSpan _ => true
  | .sqlSpan .. | .requestSpan _ => ! suppressed
  | .suppress | .setMark .. | .nothing => false

/-- What a deed sets a mark to, if it sets it. -/
def mark? (key : SuppressionKey) : Deed → Option Bool
  | .suppress => some true
  | .setMark other value => if other = key then some value else none
  | _ => none

/-- Whether a deed is a call to a database. -/
def isCall : Deed → Bool
  | .sqlSpan .. | .requestSpan _ => true
  | _ => false

/-- A deed that begins a span sets no marks. -/
theorem mark?_of_records {suppressed : Bool} {deed : Deed} (h : deed.records suppressed = true)
    (key : SuppressionKey) : deed.mark? key = none := by
  cases deed with
  | suppress | setMark | nothing => cases h
  | _ => rfl

theorem mark?_of_isCall {deed : Deed} (h : deed.isCall = true) (key : SuppressionKey) :
    deed.mark? key = none := by
  cases deed with
  | sqlSpan | requestSpan => rfl
  | _ => cases h

end Deed

namespace Tracing.Documented

variable {T : Tracing} (hT : T.Documented)
include hT

theorem parent_suppress (context : T.Context) : T.parent (T.suppress context) = T.parent context := by
  rw [suppress, suppressionKeys, List.foldl_cons, List.foldl_cons, List.foldl_nil, hT.parent_setMark,
    hT.parent_setMark]

/-- All marks say that instrumentation is suppressed. -/
theorem mark_suppress (context : T.Context) (key : SuppressionKey) :
    T.mark (T.suppress context) key = some true := by
  rw [suppress, suppressionKeys, List.foldl_cons, List.foldl_cons, List.foldl_nil, hT.mark_setMark,
    hT.mark_setMark]
  cases key <;> rfl

end Tracing.Documented

namespace Instrumenter

open Traced

variable {T : Tracing} {instrumenter : Instrumenter}

/-! ## Calls to databases -/

/-- Where errors of the library are kept from its callers, what was captured is given, or nothing. -/
theorem gives_build (hT : T.Documented) (hreach : instrumenter.errorsReach = false)
    (captured : Logged (Except StatementError Statement)) :
    (instrumenter.build captured : Traced T Step (Option Statement)).Gives
      (.ok captured.value.toOption) := by
  have hcapture : (do ofExcept ((← ofLogged captured).mapError StatementError.raised) :
      Traced T Step Statement).Gives (captured.value.mapError StatementError.raised) :=
    (gives_ofLogged captured).bind (gives_ofExcept _)
  rw [build, hreach]
  cases h : captured.value with
  | ok statement =>
    rw [h] at hcapture
    exact hcapture.guarded_of_ok false
  | error e =>
    rw [h] at hcapture
    exact hcapture.guarded_of_error hT e.isError_raised

theorem startSpan_eq (statement : Option Statement) (call : Option T.Handle → Traced T Step Unit)
    (world : World T Step) :
    instrumenter.startSpan statement call world =
      if ! T.isSuppressed (T.current world.state) then
        match instrumenter.titleOf statement with
        | .error raised => (.error raised, world)
        | .ok title => inSpan title (fun handle => call (some handle)) world
      else call none world := by
  rw [startSpan, bind_ok (show isSuppressed world = (.ok _, world) from rfl)]
  cases T.isSuppressed (T.current world.state) with
  | true => rfl
  | false => cases instrumenter.titleOf statement <;> rfl

/-- Capturing a statement tells events at most, before the span for it begins. -/
theorem build_startSpan_eq (hT : T.Documented) (hreach : instrumenter.errorsReach = false)
    (captured : Logged (Except StatementError Statement)) (world : World T Step) :
    ∃ before, world.Alike before ∧ ∀ call : Option T.Handle → Traced T Step Unit,
      (instrumenter.build captured >>= fun built => instrumenter.startSpan built call) world =
        if ! T.isSuppressed (T.current world.state) then
          match instrumenter.titleOf captured.value.toOption with
          | .error raised => (.error raised, before)
          | .ok title => inSpan title (fun handle => call (some handle)) before
        else call none before := by
  obtain ⟨before, hbuilt, halike⟩ := gives_build hT hreach captured world
  refine ⟨before, halike, fun call => ?_⟩
  rw [bind_ok hbuilt, startSpan_eq, halike.current]

/-! ## Entering -/

variable [Encoding.Codecs]

variable (instrumenter) in
/-- What the world is inside of a deed, given the one outside. -/
inductive Opens (deed : Deed) (outside : World T Step) : Option T.Handle → World T Step → Prop
  /-- No span begins, and some marks are set. -/
  | nothing {inside : World T Step}
      (hrecords : deed.records (T.isSuppressed (T.current outside.state)) = false)
      (counters : inside.counters = outside.counters)
      (parent : T.parent (T.current inside.state) = T.parent (T.current outside.state))
      (mark : ∀ key, T.mark (T.current inside.state) key =
        (deed.mark? key).or (T.mark (T.current outside.state) key)) :
      Opens deed outside none inside
  /-- A span begins. -/
  | span {inside : World T Step} {handle : T.Handle} {title : Title}
      (hrecords : deed.records (T.isSuppressed (T.current outside.state)) = true)
      (htitle : instrumenter.title deed = .ok title)
      (begins : T.Begins title (T.current outside.state) outside.counters handle
        (T.current inside.state) inside.counters) :
      Opens deed outside (some handle) inside

/-- All that can come of entering a call to a database: a span begins where the deed records, unless there
    is an error in place of its title. -/
theorem enter_call_eq (hT : T.Documented) (hreach : instrumenter.errorsReach = false) {deed : Deed}
    (hcall : deed.isCall = true) (world : World T Step) :
    ∃ before, world.Alike before ∧ ∀ call, instrumenter.enter deed call world =
      if deed.records (T.isSuppressed (T.current world.state)) then
        match instrumenter.title deed with
        | .error raised => (.error raised, before)
        | .ok title => inSpan title (fun handle => call (some handle)) before
      else call none before := by
  cases deed with
  | sqlSpan statement database => exact build_startSpan_eq hT hreach _ world
  | requestSpan request => exact build_startSpan_eq hT hreach _ world
  | _ => cases hcall

/-- A call to a database is entered where there is a title for its span. -/
theorem exists_wraps_call (hT : T.Documented) (hreach : instrumenter.errorsReach = false) {deed : Deed}
    (hcall : deed.isCall = true) {world : World T Step}
    (htitle : deed.records (T.isSuppressed (T.current world.state)) = true →
      ∃ title, instrumenter.title deed = .ok title) :
    ∃ handle inside, Wraps (instrumenter.enter deed) world handle inside ∧
      instrumenter.Opens deed world handle inside := by
  obtain ⟨before, halike, henter⟩ := enter_call_eq hT hreach hcall world
  cases hrecords : deed.records (T.isSuppressed (T.current world.state)) with
  | false =>
    refine ⟨none, before, (wraps_nothing before).of_alike halike fun call => ?_,
      .nothing hrecords halike.counters (by rw [halike.current]) fun key => ?_⟩
    · rw [henter, hrecords, if_neg Bool.false_ne_true]
    · rw [Deed.mark?_of_isCall hcall, halike.current, Option.none_or]
  | true =>
    obtain ⟨title, htitle⟩ := htitle hrecords
    obtain ⟨handle, inside, hwraps, hbegins⟩ := exists_wraps_inSpan hT title before
    rw [halike.current, halike.counters] at hbegins
    refine ⟨some handle, inside, hwraps.of_alike halike fun call => ?_, .span hrecords htitle hbegins⟩
    rw [henter, hrecords, if_pos rfl, htitle]

/-- A deed that no more than changes the context is entered. -/
theorem exists_wraps_context (hT : T.Documented) {deed : Deed} {context : T.Context}
    {world : World T Step}
    (henter : ∀ call : Option T.Handle → Traced T Step Unit,
      instrumenter.enter deed call world = attached context (call none) world)
    (hrecords : deed.records (T.isSuppressed (T.current world.state)) = false)
    (hparent : T.parent context = T.parent (T.current world.state))
    (hmark : ∀ key, T.mark context key = (deed.mark? key).or (T.mark (T.current world.state) key)) :
    ∃ handle inside, Wraps (instrumenter.enter deed) world handle inside ∧
      instrumenter.Opens deed world handle inside := by
  have hcurrent := hT.current_attach context world.state
  refine ⟨none, _, (wraps_attached hT context world).of_alike (.refl world) henter,
    .nothing hrecords rfl ?_ fun key => ?_⟩
  · rw [hcurrent, hparent]
  · rw [hcurrent, hmark]

/-- **A deed is entered** where there is a title for its span, or it begins none: what runs inside of it
    runs once, and is left behind its end. -/
theorem exists_wraps_enter (hT : T.Documented) (hreach : instrumenter.errorsReach = false) {deed : Deed}
    (world : World T Step)
    (htitle : deed.records (T.isSuppressed (T.current world.state)) = true →
      ∃ title, instrumenter.title deed = .ok title) :
    ∃ handle inside, Wraps (instrumenter.enter deed) world handle inside ∧
      instrumenter.Opens deed world handle inside := by
  cases deed with
  | sqlSpan statement database => exact exists_wraps_call hT hreach rfl htitle
  | requestSpan request => exact exists_wraps_call hT hreach rfl htitle
  | appSpan name =>
    obtain ⟨handle, inside, hwraps, hbegins⟩ := exists_wraps_inSpan hT ⟨name, .internal, []⟩ world
    exact ⟨some handle, inside, hwraps, .span rfl rfl hbegins⟩
  | suppress =>
    exact exists_wraps_context hT (fun _ => rfl) rfl (hT.parent_suppress _) (hT.mark_suppress _)
  | setMark key value =>
    refine exists_wraps_context hT (fun _ => rfl) rfl (hT.parent_setMark _ _ _) fun other => ?_
    rw [hT.mark_setMark, Deed.mark?]
    cases key <;> cases other <;> rfl
  | nothing => exact ⟨none, world, wraps_nothing world, .nothing rfl rfl rfl fun _ => rfl⟩

/-- An error in place of the title comes in place of what runs inside. -/
theorem enter_of_error (hT : T.Documented) (hreach : instrumenter.errorsReach = false) {deed : Deed}
    {world : World T Step} {raised : Raised}
    (hrecords : deed.records (T.isSuppressed (T.current world.state)) = true)
    (herror : instrumenter.title deed = .error raised) :
    ∃ after, world.Alike after ∧
      ∀ call, instrumenter.enter deed call world = (.error raised, after) := by
  have hcall : deed.isCall = true := by
    cases deed with
    | sqlSpan | requestSpan => rfl
    | appSpan => cases herror
    | suppress | setMark | nothing => cases hrecords
  obtain ⟨before, halike, henter⟩ := enter_call_eq hT hreach hcall world
  refine ⟨before, halike, fun call => ?_⟩
  rw [henter, hrecords, if_pos rfl, herror]

/-! ## What is entered and what is not -/

/-- That a deed is entered: what is inside of it is run once, and its result is passed on. -/
def Enters (instrumenter : Instrumenter) (deed : Deed) (world : World T Step) : Prop :=
  ∃ handle inside, Wraps (instrumenter.enter deed) world handle inside

/-- That a deed is not entered: an error of a kind comes in place of what would run inside of it. -/
def Refuses (instrumenter : Instrumenter) (deed : Deed) (kind : Text) (world : World T Step) : Prop :=
  ∃ raised after, raised.kind = kind ∧ world.Alike after ∧
    ∀ call, instrumenter.enter deed call world = (.error raised, after)

theorem Refuses.not_enters {deed : Deed} {kind : Text} {world : World T Step}
    (h : instrumenter.Refuses deed kind world) : ¬ instrumenter.Enters deed world := by
  rintro ⟨handle, inside, hwraps⟩
  obtain ⟨raised, after, -, -, hrefused⟩ := h
  obtain ⟨left, hleft, -⟩ := hwraps.left (fun _ => pure ()) rfl (.refl inside)
  cases (hrefused _).symm.trans hleft

/-- A deed is entered unless it begins a span for which there is no title. -/
theorem enters_iff (hT : T.Documented) (hreach : instrumenter.errorsReach = false) (deed : Deed)
    (world : World T Step) :
    (instrumenter.Enters deed world ↔ (deed.records (T.isSuppressed (T.current world.state)) = true →
        ∃ title, instrumenter.title deed = .ok title)) ∧
      (¬ instrumenter.Enters deed world → instrumenter.Refuses deed ("TypeError" : Text) world) := by
  have henters : (deed.records (T.isSuppressed (T.current world.state)) = true →
      ∃ title, instrumenter.title deed = .ok title) → instrumenter.Enters deed world := by
    intro htitle
    obtain ⟨handle, inside, hwraps, -⟩ := exists_wraps_enter hT hreach world htitle
    exact ⟨handle, inside, hwraps⟩
  have hrefuses : deed.records (T.isSuppressed (T.current world.state)) = true → ∀ raised,
      instrumenter.title deed = .error raised →
        instrumenter.Refuses deed ("TypeError" : Text) world := by
    intro hrecords raised herror
    obtain ⟨after, halike, hafter⟩ := enter_of_error hT hreach hrecords herror
    exact ⟨raised, after, kind_of_title herror, halike, hafter⟩
  refine ⟨⟨fun h hrecords => ?_, henters⟩, fun h => ?_⟩
  · cases htitle : instrumenter.title deed with
    | ok title => exact ⟨title, rfl⟩
    | error raised => exact absurd h (hrefuses hrecords raised htitle).not_enters
  · cases htitle : instrumenter.title deed with
    | ok title => exact absurd (henters fun _ => ⟨title, htitle⟩) h
    | error raised =>
      refine hrefuses ?_ raised htitle
      by_contra hrecords
      exact h (henters fun hrecords' => absurd hrecords' hrecords)

/-- **Entering a call to a database.** Where errors of the library are kept from its callers, every deed
    is entered, in whatever context, with one exception: a span for a statement in bytes that is not
    suppressed, if there is a word among the bytes that are looked at and they do not turn out too long
    to be captured. There an error comes in place of the call, which tells the sort of a value. -/
theorem entered_iff (hT : T.Documented) (hreach : instrumenter.errorsReach = false)
    (hdefault : instrumenter.options.defaultNamespace.isName = true) {deed : Deed}
    (hnamed : deed.isNamed = true) (world : World T Step) :
    (instrumenter.Enters deed world ↔
      ∀ bytes database, deed = .sqlSpan (some (.bytes bytes)) database →
        T.isSuppressed (T.current world.state) = true ∨
          (∀ b ∈ bytes.take instrumenter.options.maxInputLength, Bytes.isBlank b = true) ∨
          (instrumenter.options.captureStatement.isTruthy = true ∧
            cutMarker.length < instrumenter.options.maxLength ∧
            instrumenter.options.maxLength <
              (bytes.take instrumenter.options.maxInputLength).length)) ∧
      (¬ instrumenter.Enters deed world → instrumenter.Refuses deed ("TypeError" : Text) world) := by
  refine ⟨?_, (enters_iff hT hreach deed world).2⟩
  rw [(enters_iff hT hreach deed world).1]
  by_cases hbytes : ∃ bytes database, deed = .sqlSpan (some (.bytes bytes)) database
  · obtain ⟨bytes, database, rfl⟩ := hbytes
    rw [exists_title_bytes_iff hdefault bytes hnamed, Deed.records, Bool.not_eq_true']
    constructor
    · rintro h _ _ ⟨⟩
      cases hsuppressed : T.isSuppressed (T.current world.state) with
      | false => exact .inr (h hsuppressed)
      | true => exact .inl rfl
    · intro h hsuppressed
      exact (h bytes database rfl).resolve_left (by simp [hsuppressed])
  · have hplain : deed.isPlain = true := by
      unfold Deed.isPlain
      split
      · exact absurd ⟨_, _, rfl⟩ hbytes
      · exact hnamed
    exact ⟨fun _ bytes database h => absurd ⟨bytes, database, h⟩ hbytes,
      fun _ _ => exists_title_of_isPlain hdefault hplain⟩

end Instrumenter

namespace Instrumenter

/-- Bytes that are too long to be captured do not keep the span from being entered. -/
theorem entered_of_long_bytes :
    Enters ⟨("mysql" : Text), { Options.default with maxLength := 4, maxLength_pos := by decide },
        .old, Raised.reachesCallers []⟩
      (.sqlSpan (some (.bytes [0x66, 0x6C, 0x75, 0x73, 0x68])) .null)
      (World.start Tracing.standard Step) := by
  have hunset : Environment.find? [] Raised.testVariable = none := rfl
  refine ((entered_iff Tracing.standard_documented (Raised.reachesCallers_of_unset hunset) rfl rfl
    (World.start Tracing.standard Step)).1).2 ?_
  rintro bytes database ⟨⟩
  exact .inr (.inr ⟨rfl, by decide, by decide⟩)

/-- A word in bytes keeps a call to a database from being made. -/
theorem refused_of_word_in_bytes :
    ∃ after, ∀ call,
      enter ⟨("mysql" : Text), Options.default, .old, Raised.reachesCallers []⟩
          (.sqlSpan (some (.bytes [0x73, 0x65, 0x6C, 0x65, 0x63, 0x74, 0x20, 0x31])) .null) call
          (World.start Tracing.standard Step) =
        (.error (.saying "TypeError" ("sequence item 0: expected str instance, bytes found" : Text)),
          after) :=
  ⟨_, fun _ => rfl⟩

end Instrumenter

end Redaction
