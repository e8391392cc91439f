/-
  Calls put back the context that they found.

  * `World.Resumes`: the same context holds in two worlds, and the same contexts are to be taken away;
    `World.Alike`: they differ in the events that were told at most;
  * `Traced.Gives`: a call ends in one way in all worlds, and does no more than telling events;
  * `Traced.Wraps`: a call is run once inside of another one, whose ending takes away what its beginning
    attached;
  * `Traced.Restores`: behind a call the world resumes, whatever the call ends with. There is a lemma for
    each way of putting calls together;
  * `Instrumenter.restores_run` and `Instrumenter.resumes_perform`: so it does behind all actions.
-/
import Redaction.Proofs.Span.Documented
import Redaction.Span.Run
import Mathlib.Data.List.Forall2

namespace Redaction

variable {T : Tracing} {Note α β : Type}

@[simp] theorem Exporter.take_nil (exporter : Exporter) : exporter.take [] = exporter := by
  rw [take, List.append_nil]

theorem Exporter.take_take (exporter : Exporter) (spans₁ spans₂ : List Span) :
    (exporter.take spans₁).take spans₂ = exporter.take (spans₁ ++ spans₂) := by
  rw [take, take, take, List.append_assoc]

/-! ## Worlds -/

namespace World

/-- That the same context holds in two worlds, and the same contexts are to be taken away. -/
structure Resumes (before after : World T Note) : Prop where
  current : T.current after.state = T.current before.state
  owed : T.owed after.state = T.owed before.state

/-- That two worlds differ in the events that were told at most. -/
structure Alike (before after : World T Note) : Prop extends Resumes before after where
  counters : after.counters = before.counters
  exporter : after.exporter = before.exporter
  notes : after.notes = before.notes

theorem Resumes.refl (world : World T Note) : world.Resumes world := ⟨rfl, rfl⟩

theorem Resumes.trans {first second third : World T Note} (h₁ : first.Resumes second)
    (h₂ : second.Resumes third) : first.Resumes third :=
  ⟨h₂.current.trans h₁.current, h₂.owed.trans h₁.owed⟩

theorem Alike.refl (world : World T Note) : world.Alike world := ⟨.refl world, rfl, rfl, rfl⟩

theorem Alike.trans {first second third : World T Note} (h₁ : first.Alike second)
    (h₂ : second.Alike third) : first.Alike third :=
  ⟨h₁.toResumes.trans h₂.toResumes, h₂.counters.trans h₁.counters, h₂.exporter.trans h₁.exporter,
    h₂.notes.trans h₁.notes⟩

/-- What comes of leaving a call that ran inside of something, and of a span if one had begun: the
    context of the world outside holds again, the call is not undone, and the span is exported. -/
structure Leaves (outside : World T Note) (handle : Option T.Handle) (result : Except Raised Unit)
    (called left : World T Note) : Prop where
  resumes : outside.Resumes left
  counters : left.counters = called.counters
  notes : left.notes = called.notes
  exported : ∃ ended, left.exporter = called.exporter.take ended ∧
    List.Forall₂ (fun handle => (T.begun handle).EndsAs (Raised.ofResult result)) handle.toList ended

end World

namespace Traced

/-! ## Calls that tell events -/

/-- What a call does behind another one that gives a value. -/
theorem bind_ok {call : Traced T Note α} {next : α → Traced T Note β} {world after : World T Note}
    {a : α} (h : call world = (.ok a, after)) : (call >>= next) world = next a after := by
  simp only [bind, h]

/-- Nothing is done behind a call that ends with an error. -/
theorem bind_error {call : Traced T Note α} {next : α → Traced T Note β} {world after : World T Note}
    {raised : Raised} (h : call world = (.error raised, after)) :
    (call >>= next) world = (.error raised, after) := by
  simp only [bind, h]

/-- That a call ends in one way in all worlds, and does no more than telling events. -/
def Gives (call : Traced T Note α) (result : Except Raised α) : Prop :=
  ∀ world, ∃ after, call world = (result, after) ∧ world.Alike after

theorem gives_ofExcept (result : Except Raised α) : (ofExcept result : Traced T Note α).Gives result :=
  fun world => ⟨world, rfl, .refl world⟩

theorem gives_pure (a : α) : (pure a : Traced T Note α).Gives (.ok a) := gives_ofExcept (.ok a)

theorem Gives.bind {call : Traced T Note α} {next : α → Traced T Note β} {a : α}
    {result : Except Raised β} (hcall : call.Gives (.ok a)) (hnext : (next a).Gives result) :
    (call >>= next).Gives result := by
  intro world
  obtain ⟨called, hcalled, halike⟩ := hcall world
  obtain ⟨after, hafter, halike'⟩ := hnext called
  exact ⟨after, (bind_ok hcalled).trans hafter, halike.trans halike'⟩

theorem gives_tell (event : Event) : (tell event : Traced T Note Unit).Gives (.ok ()) :=
  fun _ => ⟨_, rfl, ⟨rfl, rfl⟩, rfl, rfl, rfl⟩

theorem gives_tellAll : ∀ events : List Event, (tellAll events : Traced T Note Unit).Gives (.ok ())
  | [] => gives_pure ()
  | event :: events => (gives_tell event).bind (gives_tellAll events)

/-- Once the events on its way are told, a result gives its value. -/
theorem gives_ofLogged (logged : Logged α) :
    (ofLogged logged : Traced T Note α).Gives (.ok logged.value) :=
  (gives_tellAll logged.log).bind (gives_pure logged.value)

theorem Gives.guarded_of_ok {call : Traced T Note α} {a : α} (h : call.Gives (.ok a)) (reaches : Bool) :
    (guarded reaches call).Gives (.ok (some a)) := by
  intro world
  obtain ⟨called, hcalled, halike⟩ := h world
  exact ⟨called, by rw [Traced.guarded, hcalled], halike⟩

/-! ## Calls inside of others -/

/-- That a call is run once inside of another one, in a world with the notes and the spans of the one
    outside. If the world inside is resumed behind the call, leaving passes on the result. -/
structure Wraps (wrap : (Option T.Handle → Traced T Note Unit) → Traced T Note Unit)
    (outside : World T Note) (handle : Option T.Handle) (inside : World T Note) : Prop where
  exporter : inside.exporter = outside.exporter
  notes : inside.notes = outside.notes
  once : ∃ leave : Except Raised Unit × World T Note → Except Raised Unit × World T Note,
    (∀ call, wrap call outside = leave (call handle inside)) ∧
      ∀ result called, inside.Resumes called → ∃ left,
        leave (result, called) = (result, left) ∧ outside.Leaves handle result called left

/-- A call inside of nothing. -/
theorem wraps_nothing (world : World T Note) : Wraps (fun call => call none) world none world := by
  refine ⟨rfl, rfl, id, fun _ => rfl, fun result called hresumes => ⟨called, rfl, ?_⟩⟩
  exact ⟨hresumes, rfl, rfl, [], (Exporter.take_nil _).symm, .nil⟩

/-- What is done before, and tells events at most, does not matter. -/
theorem Wraps.of_alike {wrap wrap' : (Option T.Handle → Traced T Note Unit) → Traced T Note Unit}
    {outside before inside : World T Note} {handle : Option T.Handle} (halike : outside.Alike before)
    (heq : ∀ call, wrap call outside = wrap' call before) (h : Wraps wrap' before handle inside) :
    Wraps wrap outside handle inside := by
  obtain ⟨leave, hleave, hleft⟩ := h.once
  refine ⟨h.exporter.trans halike.exporter, h.notes.trans halike.notes, leave,
    fun call => (heq call).trans (hleave call), fun result called hresumes => ?_⟩
  obtain ⟨left, hresult, hleaves⟩ := hleft result called hresumes
  exact ⟨left, hresult, { hleaves with resumes := halike.toResumes.trans hleaves.resumes }⟩

/-- What a call that is run inside comes to. -/
theorem Wraps.left {wrap : (Option T.Handle → Traced T Note Unit) → Traced T Note Unit}
    {outside inside called : World T Note} {handle : Option T.Handle} {result : Except Raised Unit}
    (h : Wraps wrap outside handle inside) (call : Option T.Handle → Traced T Note Unit)
    (hcall : call handle inside = (result, called)) (hresumes : inside.Resumes called) :
    ∃ left, wrap call outside = (result, left) ∧ outside.Leaves handle result called left := by
  obtain ⟨leave, hleave, hleft⟩ := h.once
  obtain ⟨left, hresult, hleaves⟩ := hleft result called hresumes
  exact ⟨left, by rw [hleave, hcall, hresult], hleaves⟩

/-! ## Calls that restore -/

/-- That behind a call the world resumes, whatever the call ends with. -/
def Restores (call : Traced T Note α) : Prop := ∀ world : World T Note, world.Resumes (call world).2

theorem Restores.resumes {call : Traced T Note α} {world after : World T Note} {result : Except Raised α}
    (h : call.Restores) (hcall : call world = (result, after)) : world.Resumes after := by
  have hresumes := h world
  rwa [hcall] at hresumes

theorem Gives.restores {call : Traced T Note α} {result : Except Raised α} (h : call.Gives result) :
    call.Restores := by
  intro world
  obtain ⟨after, hafter, halike⟩ := h world
  rw [hafter]
  exact halike.toResumes

theorem restores_note (n : Note) : (note n : Traced T Note Unit).Restores := fun _ => ⟨rfl, rfl⟩

theorem Restores.bind {call : Traced T Note α} {next : α → Traced T Note β} (hcall : call.Restores)
    (hnext : ∀ a, (next a).Restores) : (call >>= next).Restores := by
  intro world
  rcases h : call world with ⟨raised | a, called⟩
  · rw [bind_error h]
    exact hcall.resumes h
  · rw [bind_ok h]
    exact (hcall.resumes h).trans (hnext a called)

theorem Restores.catching {call : Traced T Note Unit} (h : call.Restores) (catches : Bool)
    (noteOf : Raised → Note) : (catching catches noteOf call).Restores := by
  intro world
  rw [Traced.catching]
  split
  · next raised called hcall =>
    split
    · exact (h.resumes hcall).trans (restores_note _ called)
    · exact h.resumes hcall
  · next called hcall => exact h.resumes hcall

/-- A call restores where what is inside of it does. -/
theorem Wraps.resumes {wrap : (Option T.Handle → Traced T Note Unit) → Traced T Note Unit}
    {outside inside : World T Note} {handle : Option T.Handle} (h : Wraps wrap outside handle inside)
    (call : Option T.Handle → Traced T Note Unit) (hcall : (call handle).Restores) :
    outside.Resumes (wrap call outside).2 := by
  obtain ⟨left, hleft, hleaves⟩ := h.left call (Prod.ext rfl rfl) (hcall inside)
  rw [hleft]
  exact hleaves.resumes

/-! ## Contexts and spans -/

/-- Takes a context away behind a call. -/
def detached (token : T.Token) (called : Except Raised Unit × World T Note) :
    Except Raised Unit × World T Note :=
  (called.1, { called.2 with state := T.detach token called.2.state })

/-- Ends a span behind a call. -/
def exited (handle : T.Handle) (called : Except Raised Unit × World T Note) :
    Except Raised Unit × World T Note :=
  let exit := T.exitSpan handle (Raised.ofResult called.1) called.2.state called.2.exporter
  (Raised.toResult exit.1, { called.2 with state := exit.2.1, exporter := exit.2.2 })

variable (hT : T.Documented)
include hT

/-- A call in a context, which holds inside. -/
theorem wraps_attached (context : T.Context) (world : World T Note) :
    Wraps (fun call => attached context (call none)) world none
      { world with state := (T.attach context world.state).2 } := by
  refine ⟨rfl, rfl, detached (T.attach context world.state).1, fun _ => rfl,
    fun result called hresumes => ⟨_, rfl, ?_⟩⟩
  have howed := hresumes.owed.trans (hT.owed_attach context world.state)
  exact ⟨⟨hT.current_detach _ _ _ _ howed, hT.owed_detach _ _ _ _ howed⟩, rfl, rfl, [],
    (Exporter.take_nil _).symm, .nil⟩

/-- A call inside of a span, which begins as it is asked for. -/
theorem exists_wraps_inSpan (title : Title) (world : World T Note) :
    ∃ handle inside, Wraps (fun call => inSpan title fun handle => call (some handle)) world
        (some handle) inside ∧
      T.Begins title (T.current world.state) world.counters handle (T.current inside.state)
        inside.counters := by
  obtain ⟨handle, state, counters, henter, howed, hbegins⟩ := hT.enters title world.state world.counters
  refine ⟨handle, { world with state, counters }, ⟨rfl, rfl, exited handle, ?_, ?_⟩, hbegins⟩
  · intro call
    rw [inSpan, henter]
    rfl
  · intro result called hresumes
    obtain ⟨after, ended, hexit, hcurrent, howed', hends⟩ :=
      hT.exits handle (Raised.ofResult result) called.state called.exporter _ _
        (hresumes.owed.trans howed)
    refine ⟨{ called with state := after, exporter := called.exporter.take [ended] }, ?_,
      ⟨hcurrent, howed'⟩, rfl, rfl, [ended], rfl, .cons hends .nil⟩
    rw [exited, hexit]
    cases result <;> rfl

theorem Restores.attached {call : Traced T Note Unit} (h : call.Restores) (context : T.Context) :
    (attached context call).Restores :=
  fun world => (wraps_attached hT context world).resumes (fun _ => call) h

theorem Restores.suppressing {call : Traced T Note Unit} (h : call.Restores) :
    (suppressing call).Restores :=
  fun world => h.attached hT (T.suppress (T.current world.state)) world

theorem Restores.marked {call : Traced T Note Unit} (h : call.Restores) (key : SuppressionKey)
    (value : Bool) : (marked key value call).Restores :=
  fun world => h.attached hT (T.setMark (T.current world.state) key value) world

theorem restores_inSpan {title : Title} {call : T.Handle → Traced T Note Unit}
    (h : ∀ handle, (call handle).Restores) : (inSpan title call).Restores := by
  intro world
  obtain ⟨handle, inside, hwraps, -⟩ := exists_wraps_inSpan hT title world
  exact hwraps.resumes (fun handle => handle.elim (pure ()) call) (h handle)

theorem Gives.suppressing {call : Traced T Note Unit} (h : call.Gives (.ok ())) :
    (suppressing call).Gives (.ok ()) := by
  intro world
  let context := T.suppress (T.current world.state)
  obtain ⟨called, hcalled, halike⟩ := h { world with state := (T.attach context world.state).2 }
  obtain ⟨left, hleft, hleaves⟩ :=
    (wraps_attached hT context world).left (fun _ => call) hcalled halike.toResumes
  obtain ⟨ended, hexporter, hended⟩ := hleaves.exported
  cases hended
  refine ⟨left, hleft, hleaves.resumes, hleaves.counters.trans halike.counters, ?_,
    hleaves.notes.trans halike.notes⟩
  rw [hexporter, halike.exporter, Exporter.take_nil]

/-- An error that is kept from the callers is told as an event. -/
theorem gives_report (raised : Raised) :
    (report false raised : Traced T Note Unit).Gives (.ok ()) :=
  (gives_tell .internalError).suppressing hT

/-- Where errors are kept from the callers, a call that ends with one gives nothing. -/
theorem Gives.guarded_of_error {call : Traced T Note α} {raised : Raised}
    (h : call.Gives (.error raised)) (herror : raised.isError = true) :
    (guarded false call).Gives (.ok none) := by
  have hreport : (do report false raised; return none : Traced T Note (Option α)).Gives (.ok none) :=
    (gives_report hT raised).bind (gives_pure none)
  intro world
  obtain ⟨called, hcalled, halike⟩ := h world
  obtain ⟨after, hafter, halike'⟩ := hreport called
  refine ⟨after, ?_, halike.trans halike'⟩
  simp only [Traced.guarded, hcalled, herror, if_true]
  exact hafter

theorem restores_report (reaches : Bool) (raised : Raised) :
    (report reaches raised : Traced T Note Unit).Restores := by
  cases reaches with
  | false => exact (gives_report hT raised).restores
  | true => exact (gives_ofExcept (.error raised)).restores

theorem Restores.guarded {call : Traced T Note α} (h : call.Restores) (reaches : Bool) :
    (guarded reaches call).Restores := by
  intro world
  rw [Traced.guarded]
  split
  · next a called hcall => exact h.resumes hcall
  · next raised called hcall =>
    split
    · exact (h.resumes hcall).trans
        ((restores_report hT reaches raised).bind (fun _ => (gives_pure none).restores) called)
    · exact h.resumes hcall

end Traced

/-! ## Entering -/

namespace Instrumenter

open Traced

section Entering

variable (hT : T.Documented) (instrumenter : Instrumenter)
include hT

theorem restores_build (captured : Logged (Except StatementError Statement)) :
    (instrumenter.build captured : Traced T Step (Option Statement)).Restores := by
  refine Restores.guarded hT ?_ _
  exact (gives_ofLogged captured).restores.bind fun result => (gives_ofExcept _).restores

variable {call : Option T.Handle → Traced T Step Unit} (hcall : ∀ handle, (call handle).Restores)
include hcall

theorem restores_startSpan (statement : Option Statement) :
    (instrumenter.startSpan statement call).Restores := by
  refine Restores.bind (fun world => .refl world) fun suppressed => ?_
  cases suppressed with
  | true => exact hcall none
  | false =>
    refine (gives_ofExcept _).restores.bind fun title => ?_
    exact restores_inSpan hT fun handle => hcall (some handle)

variable [Encoding.Codecs]

/-- Entering restores where the call inside does, even if the statement cannot be captured or there is no
    title for the span. -/
theorem restores_enter (deed : Deed) : (instrumenter.enter deed call).Restores := by
  cases deed with
  | sqlSpan statement database =>
    exact (restores_build hT instrumenter _).bind (restores_startSpan hT instrumenter hcall)
  | requestSpan request =>
    exact (restores_build hT instrumenter _).bind (restores_startSpan hT instrumenter hcall)
  | appSpan name => exact restores_inSpan hT fun handle => hcall (some handle)
  | suppress => exact (hcall none).suppressing hT
  | setMark key value => exact (hcall none).marked hT key value
  | nothing => exact hcall none

end Entering

/-! ## Running -/

theorem restores_noteEntered (deed : Deed) (handle : Option T.Handle) :
    (noteEntered deed handle).Restores :=
  Restores.bind (fun world => .refl world) fun _ => restores_note _

variable [Encoding.Codecs] (instrumenter : Instrumenter)

mutual

/-- **Behind an action the context that held before it holds again**, on every way out: by induction on
    the action, as what it enters restores where its body does. -/
theorem restores_run (hT : T.Documented) : ∀ action : Action,
    (instrumenter.run action : Traced T Step Unit).Restores
  | .action deed inner raises catches => by
    rw [run]
    refine Restores.catching (restores_enter hT instrumenter (fun handle => ?_) deed) catches _
    refine (restores_noteEntered deed handle).bind fun _ => ?_
    exact (restores_runAll hT inner).bind fun _ => (gives_ofExcept _).restores

theorem restores_runAll (hT : T.Documented) : ∀ actions : List Action,
    (instrumenter.runAll actions : Traced T Step Unit).Restores
  | [] => by
    rw [runAll]
    exact (gives_pure ()).restores
  | action :: actions => by
    rw [runAll]
    exact (restores_run hT action).bind fun _ => restores_runAll hT actions

end

/-- Behind actions that are performed the first context holds again. -/
theorem resumes_perform (hT : T.Documented) (actions : List Action) (world : World T Step) :
    world.Resumes (instrumenter.perform actions world).2 := by
  induction actions generalizing world with
  | nil => exact .refl world
  | cons action actions ih => exact (restores_run instrumenter hT action world).trans (ih _)

end Instrumenter

end Redaction
