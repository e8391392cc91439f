/-
  What is known of the library that spans rest on.

  * `Span.Tells`: what a span says of the error that left its work;
  * `Tracing.Begins` and `Span.EndsAs`: how a span begins, and how it ends;
  * `Tracing.Documented`: what is documented of contexts and spans. All that is proved of programs that
    make spans is proved of every library of which this holds;
  * `Tracing.standard_documented`: there is such a library.
-/
import Redaction.Span.Tracing

namespace Redaction

/-! ## Errors on spans -/

/-- That an event tells an error, by its kind and by what it says. -/
structure SpanEvent.Tells (event : SpanEvent) (raised : Raised) : Prop where
  name : event.name = errorName
  kind : event.attributes.lookup kindKey = some raised.qualifiedKind
  message : event.attributes.lookup messageKey = some raised.message

/-- That a span tells the error that left its work, and nothing else. Of a demand to stop nothing is
    told. -/
def Span.Tells (span : Span) (raised : Option Raised) : Prop :=
  match raised.filter Raised.isError with
  | none => span.status = .unset ∧ span.events = []
  | some raised => span.status = .error ∧ ∃ event, span.events = [event] ∧ event.Tells raised

namespace SpanEvent

/-- Nothing but the report on an error is changed where an event is shown. -/
theorem lookup_shown {event : SpanEvent} {key : Text} (h : key ≠ reportKey) :
    event.shown.attributes.lookup key = event.attributes.lookup key := by
  rw [shown]
  induction event.attributes with
  | nil => rfl
  | cons first rest ih =>
    rw [List.map_cons, List.lookup_cons, List.lookup_cons, ih]
    by_cases hkey : key = first.1
    · rw [if_neg (hkey ▸ h)]
    · rw [beq_false_of_ne hkey]

theorem Tells.shown {event : SpanEvent} {raised : Raised} (h : event.Tells raised) :
    event.shown.Tells raised where
  name := h.name
  kind := (lookup_shown (by decide)).trans h.kind
  message := (lookup_shown (by decide)).trans h.message

end SpanEvent

/-- A span that is shown tells what it told before. -/
theorem Span.Tells.shown {span : Span} {raised : Option Raised} (h : span.Tells raised) :
    span.shown.Tells raised := by
  unfold Span.Tells at h ⊢
  split at h
  · exact ⟨h.1, by rw [Span.shown, h.2, List.map_nil]⟩
  · obtain ⟨hstatus, event, hevents, htells⟩ := h
    exact ⟨hstatus, event.shown, by rw [Span.shown, hevents]; rfl, htells.shown⟩

/-! ## Beginning and end of a span -/

/-- That a span begins as it is asked for in a context, and with some counters: it is part of the span
    around it and is numbered by that one. In the context with it, only the span around is another
    one. -/
structure Tracing.Begins (T : Tracing) (title : Title) (around : T.Context) (counters : Counters)
    (handle : T.Handle) (inside : T.Context) (after : Counters) : Prop where
  name : (T.begun handle).name = title.name
  kind : (T.begun handle).kind = title.kind
  parent : (T.begun handle).parent = T.parent around
  number : counters.number (T.parent around) = ((T.begun handle).context, after)
  within : T.parent inside = some (T.begun handle).context
  mark : ∀ key, T.mark inside key = T.mark around key

/-- That a span ends as the one that began, and tells the error that left its work. -/
structure Span.EndsAs (begun : Span) (raised : Option Raised) (ended : Span) : Prop where
  name : ended.name = begun.name
  kind : ended.kind = begun.kind
  context : ended.context = begun.context
  parent : ended.parent = begun.parent
  tells : ended.Tells raised

/-! ## What is documented -/

/-- What is documented of contexts and spans. Nothing is said of contexts that are taken away in another
    order than the one in which they were made to hold. -/
structure Tracing.Documented (T : Tracing) : Prop where
  /-- At first no mark is set. -/
  mark_start : ∀ key, T.mark (T.current T.start) key = none
  /-- At first work is part of no span. -/
  parent_start : T.parent (T.current T.start) = none
  /-- A mark that is set is found, and the other one is kept. -/
  mark_setMark : ∀ context key value other,
    T.mark (T.setMark context key value) other = if other = key then some value else T.mark context other
  /-- Marks do not move work to another span. -/
  parent_setMark : ∀ context key value, T.parent (T.setMark context key value) = T.parent context
  /-- A context holds once it is attached. -/
  current_attach : ∀ context state, T.current (T.attach context state).2 = context
  /-- It is to be taken away, which will put back the one before. -/
  owed_attach : ∀ context state,
    T.owed (T.attach context state).2 = ((T.attach context state).1, T.current state) :: T.owed state
  /-- Taking away the last context puts back the one before. -/
  current_detach : ∀ state token before rest, T.owed state = (token, before) :: rest →
    T.current (T.detach token state) = before
  /-- It is not to be taken away again. -/
  owed_detach : ∀ state token before rest, T.owed state = (token, before) :: rest →
    T.owed (T.detach token state) = rest
  /-- A span can always begin, and a context with it is attached. -/
  enters : ∀ title state counters, ∃ handle inside after,
    T.enterSpan title state counters = (.ok handle, inside, after) ∧
      T.owed inside = (T.token handle, T.current state) :: T.owed state ∧
      T.Begins title (T.current state) counters handle (T.current inside) after
  /-- A span that ends is exported, its context is taken away, and the error that left its work, if one
      did, is passed on. -/
  exits : ∀ handle raised state exporter before rest,
    T.owed state = (T.token handle, before) :: rest → ∃ after ended,
      T.exitSpan handle raised state exporter = (raised, after, exporter.take [ended]) ∧
        T.current after = before ∧ T.owed after = rest ∧ (T.begun handle).EndsAs raised ended

/-! ## A library of which this holds -/

namespace StandardTracing

theorem tells_eventOf (raised : Raised) : (eventOf raised).Tells raised := ⟨rfl, rfl, rfl⟩

theorem endsAs_close (handle : Handle) (raised : Option Raised) :
    handle.begun.EndsAs raised (close handle.begun raised) := by
  cases raised with
  | none => exact ⟨rfl, rfl, rfl, rfl, rfl, rfl⟩
  | some raised =>
    rw [close]
    cases h : raised.isError with
    | false =>
      refine ⟨rfl, rfl, rfl, rfl, ?_⟩
      rw [Span.Tells, Option.filter_some_neg (by simp [h])]
      exact ⟨rfl, rfl⟩
    | true =>
      refine ⟨rfl, rfl, rfl, rfl, ?_⟩
      rw [Span.Tells, Option.filter_some_pos h]
      exact ⟨rfl, _, rfl, tells_eventOf raised⟩

/-- What is taken away last is the context that held before. -/
theorem before_eq {state : State} {token before : Context} {rest : List (Context × Context)}
    (h : Tracing.standard.owed state = (token, before) :: rest) :
    (detach token state).context = before ∧ Tracing.standard.owed (detach token state) = rest := by
  obtain ⟨_, _, hstate, hfirst, hrest⟩ := List.map_eq_cons_iff.1 h
  cases hfirst
  exact ⟨rfl, by rw [← hrest, detach, hstate]; rfl⟩

end StandardTracing

/-- The standard library is as documented. -/
theorem Tracing.standard_documented : Tracing.standard.Documented where
  mark_start key := by cases key <;> rfl
  parent_start := rfl
  mark_setMark context key value other := by cases key <;> cases other <;> rfl
  parent_setMark context key value := by cases key <;> rfl
  current_attach context state := rfl
  owed_attach context state := rfl
  current_detach state token before rest h := (StandardTracing.before_eq h).1
  owed_detach state token before rest h := (StandardTracing.before_eq h).2
  enters title state counters :=
    ⟨_, _, _, rfl, rfl, rfl, rfl, rfl, rfl, rfl, fun key => by cases key <;> rfl⟩
  exits handle raised state exporter before rest h :=
    ⟨_, _, rfl, (StandardTracing.before_eq h).1, (StandardTracing.before_eq h).2,
      StandardTracing.endsAs_close handle raised⟩

end Redaction
