/-
  What comes of performing a program.

  * `Program.context` numbers the spans of a program by its places alone, and `Program.bodyError` is
    the error that leaves the body of an action;
  * `Program.Matches`: what the context that holds inside of a place has to be;
  * `Program.Describes`: what the span of a place has to be, and `Program.Yields`: what has to come of
    running actions;
  * `Instrumenter.run_spec`: entering an action keeps the match of context and counters with its place,
    so that a run exports the spans of its places;
  * `Instrumenter.perform_spec`: so does a whole program.
-/
import Redaction.Proofs.Span.Place

namespace Redaction

/-- The deed that a note says was entered, and whether instrumentation is suppressed inside of it. -/
def Step.entered? : Step → Option (Deed × Bool)
  | .entered deed suppressed _ => some (deed, suppressed)
  | .caught _ => none

/-- The error that a note says was caught. -/
def Step.caught? : Step → Option Raised
  | .entered .. => none
  | .caught raised => some raised

/-! ## Spans by their places -/

namespace Program

variable (program : Program)

/-- Whether the action at a place begins a span that is part of no other. -/
def isRoot (place : Place) : Bool := program.records place && (program.parent? place).isNone

/-- The counters behind the entering of places. -/
def counts (places : List Place) : Counters :=
  ⟨places.countP program.isRoot, places.countP program.records⟩

/-- What is entered before a place. -/
def before (place : Place) : List Place := program.entries.takeWhile fun p => p ≠ place

/-- The counters when a place is entered. -/
def countsBefore (place : Place) : Counters := program.counts (program.before place)

/-- The number of the trace inside of a place: it changes where a span begins that is part of no
    other. -/
def traceIn : Place → Nat
  | [] => 0
  | n :: around =>
    if program.isRoot (n :: around) then (program.countsBefore (n :: around)).traces + 1
    else traceIn around

/-- The numbers of the span that begins at a place. -/
def context (place : Place) : SpanContext :=
  ⟨program.traceIn place, (program.countsBefore place).spans + 1⟩

/-- The error that leaves the body of the action at a place. -/
def bodyError (place : Place) : Option Raised := (program.action? place).bind Action.bodyError

/-- Whether errors that leave the action at a place are caught. -/
def catches (place : Place) : Bool := (program.action? place).any Action.catches

/-- The error that is caught at a place. -/
def caught? (place : Place) : Option Raised :=
  if program.catches place then program.bodyError place else none

/-- The deed at a place, and whether instrumentation is suppressed inside of it. -/
def entered? (place : Place) : Option (Deed × Bool) :=
  (program.deed? place).map fun deed => (deed, program.isSuppressed place)

variable {program}

/-- Inside of a place the trace is that of the innermost span. -/
theorem traceIn_of_recorder? {place q : Place} (h : program.recorder? place = some q) :
    program.traceIn place = program.traceIn q := by
  induction place with
  | nil => cases h
  | cons n around ih =>
    rw [recorder?_cons] at h
    split at h
    · cases h
      rfl
    · next hrecords =>
      have hroot : program.isRoot (n :: around) = false := by simp [isRoot, hrecords]
      rw [traceIn, if_neg (by simp [hroot]), ih h]

/-- No place is entered twice. -/
theorem nodup_entries : program.entries.Nodup := Action.nodup_entriesIn true [] 0 program

/-- Every place that is entered is left once. -/
theorem perm_exits : program.exits.Perm program.entries := Action.perm_exitsIn true [] 0 program

theorem before_of_entries {place : Place} {earlier later : List Place}
    (h : program.entries = earlier ++ place :: later) : program.before place = earlier := by
  have hnot : place ∉ earlier := by
    have hnodup := h ▸ program.nodup_entries
    intro hmem
    exact (List.nodup_append.1 hnodup).2.2 place hmem place List.mem_cons_self rfl
  rw [before, h, List.takeWhile_append_of_pos, List.takeWhile_cons_of_neg, List.append_nil]
  · simp
  · intro p hp
    exact decide_eq_true fun heq => hnot (heq ▸ hp)

/-- A new span gets the numbers of its place, and is counted. -/
theorem number_counts {n : Nat} {around : Place} (h : program.records (n :: around) = true)
    {before after : List Place} (hentries : program.entries = before ++ (n :: around) :: after) :
    (program.counts before).number ((program.recorder? around).map program.context) =
      (program.context (n :: around), program.counts (before ++ [n :: around])) := by
  have hbefore : program.countsBefore (n :: around) = program.counts before := by
    rw [countsBefore, before_of_entries hentries]
  have hroot : program.isRoot (n :: around) = (program.recorder? around).isNone := by
    simp [isRoot, h, parent?]
  have hcounts : program.counts (before ++ [n :: around]) =
      ⟨(program.counts before).traces + if (program.recorder? around).isNone then 1 else 0,
        (program.counts before).spans + 1⟩ := by
    simp [counts, List.countP_append, h, hroot]
  rw [hcounts, context, traceIn, hroot, hbefore]
  cases hparent : program.recorder? around with
  | none => rfl
  | some q => rw [traceIn_of_recorder? hparent]; rfl

theorem counts_append_of_not_records {place : Place} (h : program.records place = false)
    (before : List Place) : program.counts (before ++ [place]) = program.counts before := by
  simp [counts, List.countP_append, isRoot, h]

/-! ## Contexts by their places -/

variable {T : Tracing}

variable (program) in
/-- What the context that holds inside of a place has to be. -/
structure Matches (place : Place) (world : World T Step) : Prop where
  parent : T.parent (T.current world.state) = (program.recorder? place).map program.context
  mark : ∀ key, (T.mark (T.current world.state) key).getD false = program.mark key place

theorem matches_start (hT : T.Documented) : program.Matches [] (World.start T Step) where
  parent := hT.parent_start
  mark key := by
    rw [World.start, hT.mark_start]
    rfl

/-- The context that holds is all that has to match. -/
theorem Matches.of_resumes {place : Place} {world after : World T Step}
    (h : program.Matches place world) (hresumes : world.Resumes after) :
    program.Matches place after := by
  constructor
  · rw [hresumes.current, h.parent]
  · intro key
    rw [hresumes.current, h.mark]

theorem Matches.isSuppressed {place : Place} {world : World T Step} (h : program.Matches place world) :
    T.isSuppressed (T.current world.state) = program.isSuppressed place := by
  rw [Tracing.isSuppressed, suppressionKeys, List.any_cons, List.any_cons, List.any_nil, h.mark, h.mark,
    Bool.or_false, Program.isSuppressed]

theorem Matches.records {n : Nat} {around : Place} {world : World T Step} {deed : Deed}
    (h : program.Matches around world) (hdeed : program.deed? (n :: around) = some deed) :
    program.records (n :: around) = deed.records (T.isSuppressed (T.current world.state)) := by
  rw [Program.records, hdeed, Option.any_some, h.isSuppressed]

/-- A deed that begins no span leaves a context that matches. -/
theorem Matches.inside {n : Nat} {around : Place} {world inside : World T Step} {deed : Deed}
    (h : program.Matches around world) (hdeed : program.deed? (n :: around) = some deed)
    (hrecords : program.records (n :: around) = false)
    (hparent : T.parent (T.current inside.state) = T.parent (T.current world.state))
    (hmark : ∀ key, T.mark (T.current inside.state) key =
      (deed.mark? key).or (T.mark (T.current world.state) key)) :
    program.Matches (n :: around) inside where
  parent := by rw [hparent, h.parent, recorder?_cons, hrecords, if_neg Bool.false_ne_true]
  mark key := by
    rw [hmark, mark_cons, hdeed, Option.bind_some, ← h.mark]
    cases deed.mark? key <;> rfl

/-- A new span leaves a context that matches. -/
theorem Matches.ofSpan {n : Nat} {around : Place} {world inside : World T Step} {deed : Deed}
    (h : program.Matches around world) (hdeed : program.deed? (n :: around) = some deed)
    (hrecords : program.records (n :: around) = true)
    (hparent : T.parent (T.current inside.state) = some (program.context (n :: around)))
    (hmark : ∀ key, T.mark (T.current inside.state) key = T.mark (T.current world.state) key) :
    program.Matches (n :: around) inside where
  parent := by rw [hparent, recorder?_cons, hrecords, if_pos rfl, Option.map_some]
  mark key := by
    have hnone : deed.mark? key = none := Deed.mark?_of_records (h.records hdeed ▸ hrecords) key
    rw [hmark, mark_cons, hdeed, Option.bind_some, hnone, Option.getD_none, h.mark]

/-! ## What has to come of a run -/

variable (program) in
/-- What the span of a place has to be when it begins. -/
structure Begins (place : Place) (span : Span) : Prop where
  made : ∀ deed, program.deed? place = some deed →
    span.kind = deed.kind ∧ ∀ name, deed = .appSpan name → span.name = name
  context : span.context = program.context place
  parent : span.parent = (program.parent? place).map program.context

variable (program) in
/-- That a span began if the action at a place is to begin one, and then that of the place. -/
def Opened (place : Place) : Option T.Handle → Prop
  | none => program.records place = false
  | some handle => program.records place = true ∧ program.Begins place (T.begun handle)

variable (program) in
/-- What the span of a place has to be when it ended. -/
structure Describes (place : Place) (span : Span) : Prop extends Begins program place span where
  tells : span.Tells (program.bodyError place)

theorem Begins.describes {place : Place} {begun ended : Span} (h : program.Begins place begun)
    (hends : begun.EndsAs (program.bodyError place) ended) : program.Describes place ended where
  made deed hdeed := hends.kind ▸ hends.name ▸ h.made deed hdeed
  context := hends.context.trans h.context
  parent := hends.parent.trans h.parent
  tells := hends.tells

/-- A span that is shown is still that of its place. -/
theorem Describes.shown {place : Place} {span : Span} (h : program.Describes place span) :
    program.Describes place span.shown :=
  ⟨⟨h.made, h.context, h.parent⟩, h.tells.shown⟩

variable (program) in
/-- What has to come of running actions whose places were found out before: the actions are entered in
    order, their spans are exported and their errors caught in the order in which the actions are left, and
    the counters have moved on by what was entered. -/
structure Yields (before entries exits : List Place) (world after : World T Step) : Prop where
  exported : ∃ spans, after.exporter = world.exporter.take spans ∧
    List.Forall₂ program.Describes (exits.filter program.records) spans
  entered : after.notes.filterMap Step.entered? =
    world.notes.filterMap Step.entered? ++ entries.filterMap program.entered?
  caught : after.notes.filterMap Step.caught? =
    world.notes.filterMap Step.caught? ++ exits.filterMap program.caught?
  counters : after.counters = program.counts (before ++ entries)

/-- At first no spans ended, so that all that are shown behind a run are those of its places. -/
theorem forall₂_shown {before entries exits : List Place} {left : World T Step}
    (h : program.Yields before entries exits (World.start T Step) left) :
    List.Forall₂ program.Describes (exits.filter program.records) left.exporter.shown := by
  obtain ⟨spans, hspans, hdescribes⟩ := h.exported
  have hshown : left.exporter.shown = spans.map Span.shown := by
    rw [hspans]
    rfl
  rw [hshown, List.forall₂_map_right_iff]
  exact hdescribes.imp fun _ _ => Describes.shown

theorem yields_nil {before : List Place} {world : World T Step}
    (hcounters : world.counters = program.counts before) : program.Yields before [] [] world world where
  exported := ⟨[], (Exporter.take_nil _).symm, .nil⟩
  entered := (List.append_nil _).symm
  caught := (List.append_nil _).symm
  counters := by rw [hcounters, List.append_nil]

theorem Yields.append {before entries₁ entries₂ exits₁ exits₂ : List Place}
    {world middle after : World T Step} (h₁ : program.Yields before entries₁ exits₁ world middle)
    (h₂ : program.Yields (before ++ entries₁) entries₂ exits₂ middle after) :
    program.Yields before (entries₁ ++ entries₂) (exits₁ ++ exits₂) world after where
  exported := by
    obtain ⟨spans₁, hexporter₁, hspans₁⟩ := h₁.exported
    obtain ⟨spans₂, hexporter₂, hspans₂⟩ := h₂.exported
    refine ⟨spans₁ ++ spans₂, by rw [hexporter₂, hexporter₁, Exporter.take_take], ?_⟩
    rw [List.filter_append]
    exact List.rel_append hspans₁ hspans₂
  entered := by rw [h₂.entered, h₁.entered, List.filterMap_append, List.append_assoc]
  caught := by rw [h₂.caught, h₁.caught, List.filterMap_append, List.append_assoc]
  counters := by rw [h₂.counters, List.append_assoc]

/-- A span of a place that ends with the error of the place is as it has to be. -/
theorem Opened.describes {place : Place} {handle : Option T.Handle} {ended : List Span}
    (h : program.Opened place handle)
    (hended : List.Forall₂ (fun handle => (T.begun handle).EndsAs (program.bodyError place))
      handle.toList ended) :
    List.Forall₂ program.Describes ([place].filter program.records) ended := by
  cases handle with
  | none =>
    rw [List.filter_singleton, show program.records place = false from h]
    cases hended
    exact .nil
  | some handle =>
    obtain ⟨hrecords, hbegins⟩ := h
    rw [List.filter_singleton, hrecords]
    cases hended with
    | cons hends hnil =>
      cases hnil
      exact .cons (hbegins.describes hends) .nil

end Program

/-! ## Running -/

@[simp] theorem Raised.ofResult_toResult (error : Option Raised) : ofResult (toResult error) = error := by
  cases error <;> rfl

namespace Traced

variable {T : Tracing}

/-- A call whose errors are caught is left without one, and the error is noted. -/
theorem catching_spec (catches : Bool) {call : Traced T Step Unit} {world left : World T Step}
    {error : Option Raised} (h : call world = (Raised.toResult error, left)) :
    ∃ after, catching catches .caught call world =
        (Raised.toResult (if catches then none else error), after) ∧
      after.counters = left.counters ∧ after.exporter = left.exporter ∧
      after.notes.filterMap Step.entered? = left.notes.filterMap Step.entered? ∧
      after.notes.filterMap Step.caught? = left.notes.filterMap Step.caught? ++
        (if catches then error else none).toList := by
  rw [catching, h]
  cases error with
  | none => exact ⟨left, by cases catches <;> rfl, rfl, rfl, rfl, by cases catches <;> simp⟩
  | some raised =>
    cases catches with
    | false => exact ⟨left, rfl, rfl, rfl, rfl, by simp⟩
    | true => exact ⟨_, rfl, rfl, rfl, by simp [Step.entered?], by simp [Step.caught?]⟩

end Traced

namespace Instrumenter

open Traced

variable {T : Tracing} {instrumenter : Instrumenter} {program : Program}

/-- That an action was entered is noted, and nothing else happens. -/
theorem noteEntered_spec (deed : Deed) (handle : Option T.Handle) (inside : World T Step) :
    ∃ noted, noteEntered deed handle inside = (.ok (), noted) ∧ inside.Resumes noted ∧
      noted.counters = inside.counters ∧ noted.exporter = inside.exporter ∧
      noted.notes.filterMap Step.entered? = inside.notes.filterMap Step.entered? ++
        [(deed, T.isSuppressed (T.current inside.state))] ∧
      noted.notes.filterMap Step.caught? = inside.notes.filterMap Step.caught? :=
  ⟨_, rfl, ⟨rfl, rfl⟩, rfl, rfl, by simp [Step.entered?], by simp [Step.caught?]⟩

/-- **What leaving keeps.** Behind the body of an action, the span that began for its place ends with the
    error that leaves the body, and the error is caught if the action catches errors. -/
theorem leave_spec {wrap : (Option T.Handle → Traced T Step Unit) → Traced T Step Unit}
    {world inside ran : World T Step} {handle : Option T.Handle}
    (hwraps : Wraps wrap world handle inside) {place : Place} (hopened : program.Opened place handle)
    (call : Option T.Handle → Traced T Step Unit)
    (hcall : call handle inside = (Raised.toResult (program.bodyError place), ran))
    (hresumes : inside.Resumes ran) {before : List Place}
    (hcounters : ran.counters = program.counts before) :
    ∃ left, catching (program.catches place) .caught (wrap call) world =
        (Raised.toResult (if program.catches place then none else program.bodyError place), left) ∧
      program.Yields before [] [place] ran left := by
  obtain ⟨ended, hended, hleaves⟩ := hwraps.left call hcall hresumes
  obtain ⟨left, hleft, hcounters', hexporter, hentered, hcaught⟩ :=
    catching_spec (program.catches place) hended
  obtain ⟨spans, hspans, hends⟩ := hleaves.exported
  rw [Raised.ofResult_toResult] at hends
  refine ⟨left, hleft, ⟨spans, hexporter.trans hspans, hopened.describes hends⟩, ?_, ?_, ?_⟩
  · rw [hentered, hleaves.notes, List.filterMap_nil, List.append_nil]
  · have hplace : [place].filterMap program.caught? = (program.caught? place).toList := by
      cases h : program.caught? place <;> simp [h]
    rw [hcaught, hleaves.notes, hplace]
    rfl
  · rw [hcounters', hleaves.counters, hcounters, List.append_nil]

variable [Encoding.Codecs]

/-- **What entering keeps.** In a world that matches the place around it, a deed with a title is entered,
    the world inside of it matches again, and a span begins where the place says so. -/
theorem enter_spec (hT : T.Documented) (hreach : instrumenter.errorsReach = false) {n : Nat}
    {around : Place} {deed : Deed} (hdeed : program.deed? (n :: around) = some deed)
    (htitle : ∃ title, instrumenter.title deed = .ok title) {before after : List Place}
    (hentries : program.entries = before ++ (n :: around) :: after) {world : World T Step}
    (hworld : program.Matches around world) (hcounters : world.counters = program.counts before) :
    ∃ handle inside, Wraps (instrumenter.enter deed) world handle inside ∧
      program.Matches (n :: around) inside ∧
      inside.counters = program.counts (before ++ [n :: around]) ∧
      program.Opened (n :: around) handle := by
  obtain ⟨handle, inside, hwraps, hopens⟩ := exists_wraps_enter hT hreach world fun _ => htitle
  refine ⟨handle, inside, hwraps, ?_⟩
  cases hopens with
  | nothing hrecords hcounters' hparent hmark =>
    rw [← hworld.records hdeed] at hrecords
    refine ⟨hworld.inside hdeed hrecords hparent hmark, ?_, hrecords⟩
    rw [hcounters', hcounters, Program.counts_append_of_not_records hrecords]
  | @span _ handle title hrecords htitle hbegins =>
    rw [← hworld.records hdeed] at hrecords
    have hnumber := hbegins.number
    rw [hworld.parent, hcounters, Program.number_counts hrecords hentries] at hnumber
    obtain ⟨hcontext, hafter⟩ := Prod.mk.inj hnumber
    refine ⟨hworld.ofSpan hdeed hrecords (hcontext ▸ hbegins.within) hbegins.mark, hafter.symm, hrecords,
      fun deed' hdeed' => ?_, hcontext.symm, hbegins.parent.trans hworld.parent⟩
    cases hdeed.symm.trans hdeed'
    rw [hbegins.kind, hbegins.name]
    exact made_title htitle

/-- Behind actions that an error leaves, nothing is done. Behind others comes the error that is raised
    there, if there is one. -/
theorem runAll_ofExcept {inner : Program} {world ran : World T Step} {error : Option Raised}
    (h : instrumenter.runAll inner world = (Raised.toResult error, ran)) (raises : Option Raised) :
    (do instrumenter.runAll inner; ofExcept (Raised.toResult raises) : Traced T Step Unit) world =
      (Raised.toResult (error.or raises), ran) := by
  cases error with
  | none => exact bind_ok h
  | some raised => exact bind_error h

mutual

/-- **A run yields what its places say**, by induction on the action: the body is run in the world that
    entering leaves, which is resumed behind it. -/
theorem run_spec (hT : T.Documented) (hreach : instrumenter.errorsReach = false) {n : Nat}
    {around : Place} {before after : List Place} {world : World T Step}
    (hworld : program.Matches around world) (hcounters : world.counters = program.counts before) :
    ∀ {action : Action}, program.action? (n :: around) = some action →
      (∀ deed ∈ action.deeds, ∃ title, instrumenter.title deed = .ok title) →
      program.entries = before ++ action.entries (n :: around) ++ after →
      ∃ left, instrumenter.run action world = (Raised.toResult action.error, left) ∧
        program.Yields before (action.entries (n :: around)) (action.exits (n :: around)) world left
  | .action deed inner raises catches, haction, htitles, hentries => by
    have hdeed : program.deed? (n :: around) = some deed := Program.deed?_of_action? haction
    have hinner : program.actionsIn (n :: around) = inner := Program.actionsIn_of_action? haction
    rw [Action.deeds, List.forall_mem_cons] at htitles
    rw [Action.entries, List.append_assoc, List.cons_append] at hentries
    obtain ⟨handle, inside, hwraps, hinside, hcounters', hopened⟩ :=
      enter_spec hT hreach hdeed htitles.1 hentries hworld hcounters
    have hentries' : program.entries = (before ++ [n :: around]) ++
        Action.entriesIn false (n :: around) 0 inner ++ after := by
      simpa using hentries
    obtain ⟨noted, hnoted, hresumes, hsame, hexporter, hnote, hnotes⟩ :=
      noteEntered_spec deed handle inside
    have hentered : program.Yields before [n :: around] [] world noted := by
      refine ⟨⟨[], ?_, .nil⟩, ?_, ?_, hsame.trans hcounters'⟩
      · rw [hexporter, hwraps.exporter, Exporter.take_nil]
      · rw [hnote, hwraps.notes, hinside.isSuppressed]
        simp [Program.entered?, hdeed]
      · rw [hnotes, hwraps.notes, List.filterMap_nil, List.append_nil]
    obtain ⟨ran, hran, hbody⟩ := runAll_spec (n := 0) hT hreach (hinside.of_resumes hresumes)
      hentered.counters hinner htitles.2 hentries'
    have hrestored : noted.Resumes ran := (restores_runAll instrumenter hT inner).resumes hran
    have hraised : program.bodyError (n :: around) = (Action.errorIn inner).or raises := by
      rw [Program.bodyError, haction]
      rfl
    have hcatches : program.catches (n :: around) = catches := by
      rw [Program.catches, haction]
      rfl
    let body (handle : Option T.Handle) : Traced T Step Unit := do
      noteEntered deed handle
      instrumenter.runAll inner
      ofExcept (Raised.toResult raises)
    have hcalled : body handle inside = (Raised.toResult (program.bodyError (n :: around)), ran) := by
      rw [hraised]
      exact (bind_ok hnoted).trans (runAll_ofExcept hran raises)
    obtain ⟨left, hleft, hended⟩ :=
      leave_spec hwraps hopened body hcalled (hresumes.trans hrestored) hbody.counters
    rw [hcatches, hraised] at hleft
    refine ⟨left, ?_, ?_⟩
    · rw [run, hleft]
      rfl
    · simpa [Action.entries, Action.exits] using hentered.append (hbody.append hended)

theorem runAll_spec (hT : T.Documented) (hreach : instrumenter.errorsReach = false) {n : Nat}
    {around : Place} {before after : List Place} {world : World T Step}
    (hworld : program.Matches around world) (hcounters : world.counters = program.counts before) :
    ∀ {actions : Program}, (program.actionsIn around).drop n = actions →
      (∀ deed ∈ Action.deedsIn actions, ∃ title, instrumenter.title deed = .ok title) →
      program.entries = before ++ Action.entriesIn false around n actions ++ after →
      ∃ left, instrumenter.runAll actions world = (Raised.toResult (Action.errorIn actions), left) ∧
        program.Yields before (Action.entriesIn false around n actions)
          (Action.exitsIn false around n actions) world left
  | [], _, _, _ => by
    rw [Action.entriesIn, Action.exitsIn, runAll]
    exact ⟨world, rfl, Program.yields_nil hcounters⟩
  | first :: rest, hdrop, htitles, hentries => by
    obtain ⟨hfirst, hrest⟩ := Program.action?_of_drop hdrop
    rw [Action.deedsIn, List.forall_mem_append] at htitles
    rw [Action.entriesIn, ← List.append_assoc, List.append_assoc] at hentries
    obtain ⟨middle, hmiddle, hone⟩ := run_spec hT hreach hworld hcounters hfirst htitles.1 hentries
    rw [Action.entriesIn, Action.exitsIn, Action.errorIn, runAll]
    cases herror : first.error with
    | some raised =>
      rw [herror] at hmiddle
      refine ⟨middle, bind_error hmiddle, ?_⟩
      simpa using hone
    | none =>
      have hresumes : world.Resumes middle := (restores_run instrumenter hT first).resumes hmiddle
      rw [herror] at hmiddle
      simp only [herror, Option.isNone_none, Bool.or_true, if_true] at hentries
      obtain ⟨left, hleft, hothers⟩ := runAll_spec hT hreach (hworld.of_resumes hresumes) hone.counters
        hrest htitles.2 (hentries.trans (List.append_assoc ..).symm)
      refine ⟨left, (bind_ok hmiddle).trans hleft, ?_⟩
      simpa using hone.append hothers

end

/-! ## Performing -/

theorem performFrom_spec (hT : T.Documented) (hreach : instrumenter.errorsReach = false) {n : Nat}
    {actions : Program} (hdrop : program.drop n = actions)
    (htitles : ∀ deed ∈ Action.deedsIn actions, ∃ title, instrumenter.title deed = .ok title)
    {before : List Place} (hentries : program.entries = before ++ Action.entriesIn true [] n actions)
    {world : World T Step} (hworld : program.Matches [] world)
    (hcounters : world.counters = program.counts before) :
    ∃ left, instrumenter.perform actions world = (actions.map Action.error, left) ∧
      program.Yields before (Action.entriesIn true [] n actions) (Action.exitsIn true [] n actions)
        world left := by
  induction actions generalizing n before world with
  | nil => exact ⟨world, rfl, Program.yields_nil hcounters⟩
  | cons first rest ih =>
    have hdrop' : (program.actionsIn []).drop n = first :: rest := hdrop
    obtain ⟨hfirst, hrest⟩ := Program.action?_of_drop hdrop'
    rw [Action.deedsIn, List.forall_mem_append] at htitles
    rw [Action.entriesIn, Bool.true_or, if_pos rfl, ← List.append_assoc] at hentries
    obtain ⟨middle, hmiddle, hone⟩ := run_spec hT hreach hworld hcounters hfirst htitles.1 hentries
    have hresumes : world.Resumes middle := (restores_run instrumenter hT first).resumes hmiddle
    obtain ⟨left, hleft, hothers⟩ :=
      ih hrest htitles.2 hentries (hworld.of_resumes hresumes) hone.counters
    refine ⟨left, ?_, ?_⟩
    · simp only [perform, hmiddle, hleft, Raised.ofResult_toResult, List.map_cons]
    · rw [Action.entriesIn, Action.exitsIn, Bool.true_or, if_pos rfl, if_pos rfl]
      exact hone.append hothers

/-- **A program performed yields what its places say.** -/
theorem perform_spec (hT : T.Documented) (hreach : instrumenter.errorsReach = false)
    (htitles : ∀ deed ∈ Action.deedsIn program, ∃ title, instrumenter.title deed = .ok title) :
    ∃ left, instrumenter.perform program (World.start T Step) = (program.map Action.error, left) ∧
      program.Yields [] program.entries program.exits (World.start T Step) left :=
  performFrom_spec (n := 0) hT hreach rfl htitles (List.nil_append _).symm (Program.matches_start hT) rfl

end Instrumenter

end Redaction
