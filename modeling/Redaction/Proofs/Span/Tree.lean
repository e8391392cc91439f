/-
  The spans of a program form the tree of its run.

  * `Program.recorded` are the places at which spans begin, in order, and `Program.roots` those of them
    with no such place around them;
  * `Program.FormsTree`: spans are those of the places, in the order in which they end; they are
    numbered in the order in which they begin, and each is part of the innermost one around it;
  * `Instrumenter.exported_perform`: the spans that are exported form the tree of the run.
-/
import Redaction.Proofs.Span.Performed

namespace Redaction

namespace Program

variable (program : Program)

/-- The places at which spans begin, in order. -/
def recorded : List Place := program.entries.filter program.records

/-- The places at which spans begin that are part of no other, in order. -/
def roots : List Place := program.recorded.filter fun place => (program.parent? place).isNone

/-- That the spans behind a program that was performed form the tree of its run, where each is given by
    the place at which it begins. -/
structure FormsTree {T : Tracing} (performed : List (Option Raised) × World T Step)
    (spanAt : Place → Span) : Prop where
  /-- The actions at the places are entered in order, with instrumentation suppressed where the places
      say so. -/
  entered : performed.2.notes.filterMap Step.entered? = program.entries.filterMap program.entered?
  /-- The spans come in the order in which the actions at their places are left. -/
  ends : performed.2.exporter.shown = (program.exits.filter program.records).map spanAt
  /-- Every action that is entered is left once. -/
  once : program.exits.Nodup ∧ program.exits.Perm program.entries
  /-- The numbers of spans count from one, in the order in which the spans begin. -/
  numbers : (program.recorded.map fun place => (spanAt place).context.span) =
    List.range' 1 program.recorded.length
  /-- So do the numbers of traces, of which each span begins one that is part of no other. -/
  traces : (program.roots.map fun place => (spanAt place).context.trace) =
    List.range' 1 program.roots.length
  /-- A span is part of the innermost one around it. -/
  parent : ∀ place ∈ program.recorded,
    (spanAt place).parent = (program.parent? place).map fun around => (spanAt around).context
  /-- That one was begun as well, and the two share their trace. -/
  trace : ∀ place ∈ program.recorded, ∀ around, program.parent? place = some around →
    around ∈ program.recorded ∧ (spanAt place).context.trace = (spanAt around).context.trace
  /-- A span tells who made it, and one of the application has the name that it was given. -/
  made : ∀ place ∈ program.recorded, ∀ deed, program.deed? place = some deed →
    (spanAt place).kind = deed.kind ∧ ∀ name, deed = .appSpan name → (spanAt place).name = name
  /-- Behind the program the context that held at first holds again. -/
  restored : (World.start T Step).Resumes performed.2

variable {program}

/-! ## Numbers -/

/-- Counting what was entered before numbers the places of a kind in order. -/
theorem map_countP_before (f : Place → Bool) {earlier rest : List Place}
    (h : program.entries = earlier ++ rest) :
    ((rest.filter f).map fun place => (program.before place).countP f + 1) =
      List.range' (earlier.countP f + 1) (rest.filter f).length := by
  induction rest generalizing earlier with
  | nil => rfl
  | cons place rest ih =>
    have hrest := ih (h.trans (List.append_cons earlier place rest))
    rw [List.countP_append, List.countP_singleton] at hrest
    cases hf : f place with
    | false =>
      rw [List.filter_cons_of_neg (by simp [hf])]
      simpa [hf] using hrest
    | true =>
      rw [List.filter_cons_of_pos hf, List.map_cons, List.length_cons, List.range'_succ,
        before_of_entries h]
      simpa [hf] using hrest

theorem roots_eq : program.roots = program.entries.filter program.isRoot := by
  rw [roots, recorded, List.filter_filter]
  exact List.filter_congr fun place _ => Bool.and_comm ..

theorem traceIn_of_isRoot {place : Place} (h : program.isRoot place = true) :
    program.traceIn place = (program.before place).countP program.isRoot + 1 := by
  cases place with
  | nil => cases h
  | cons n around =>
    rw [traceIn, if_pos h]
    rfl

/-! ## The tree -/

theorem records_of_recorder? {place around : Place} (h : program.recorder? place = some around) :
    program.records around = true ∧ around <:+ place :=
  ⟨List.find?_some h, (List.mem_tails ..).1 (List.mem_of_find?_eq_some h)⟩

/-- The span around one that was begun was begun itself. -/
theorem mem_recorded_of_parent? {place around : Place} (hplace : place ∈ program.recorded)
    (h : program.parent? place = some around) : around ∈ program.recorded := by
  obtain ⟨hrecords, hsuffix⟩ := records_of_recorder? h
  have hne : around ≠ [] := by
    rintro rfl
    cases hrecords
  refine List.mem_filter.2 ⟨?_, hrecords⟩
  have hwithin : around <:+ place := hsuffix.trans (List.tail_suffix place)
  exact mem_entriesIn_of_suffix (List.mem_filter.1 hplace).1 List.nil_suffix
    (List.length_pos_of_ne_nil hne) hwithin

/-- A span that is part of another one shares its trace. -/
theorem traceIn_of_parent? {place around : Place} (h : program.parent? place = some around) :
    program.traceIn place = program.traceIn around := by
  cases place with
  | nil => cases h
  | cons n place =>
    have hroot : program.isRoot (n :: place) = false := by simp [isRoot, h]
    rw [traceIn, if_neg (by simp [hroot])]
    exact traceIn_of_recorder? h

/-- What is related to different places, one by one, is given by the places. -/
theorem exists_map_eq_of_forall₂ {R : Place → Span → Prop} {places : List Place} {spans : List Span}
    (hnodup : places.Nodup) (h : List.Forall₂ R places spans) :
    ∃ spanAt, spans = places.map spanAt ∧ ∀ place ∈ places, R place (spanAt place) := by
  induction h with
  | nil => exact ⟨fun _ => ⟨[], .client, ⟨0, 0⟩, none, .unset, [], []⟩, rfl, nofun⟩
  | @cons first span places spans hfirst _ ih =>
    rw [List.nodup_cons] at hnodup
    obtain ⟨spanAt, hspans, hspanAt⟩ := ih hnodup.2
    have hkept : ∀ place ∈ places, Function.update spanAt first span place = spanAt place := by
      intro place hplace
      refine Function.update_of_ne ?_ _ _
      rintro rfl
      exact hnodup.1 hplace
    refine ⟨Function.update spanAt first span, ?_, List.forall_mem_cons.2 ⟨?_, fun place hplace => ?_⟩⟩
    · rw [List.map_cons, Function.update_self, List.map_congr_left hkept, hspans]
    · rwa [Function.update_self]
    · rw [hkept place hplace]
      exact hspanAt place hplace

/-- Spans that are those of their places form the tree. -/
theorem formsTree_of_describes {T : Tracing} {performed : List (Option Raised) × World T Step}
    {spanAt : Place → Span}
    (hentered : performed.2.notes.filterMap Step.entered? = program.entries.filterMap program.entered?)
    (hends : performed.2.exporter.shown = (program.exits.filter program.records).map spanAt)
    (h : ∀ place ∈ program.exits.filter program.records, program.Describes place (spanAt place))
    (hrestored : (World.start T Step).Resumes performed.2) : program.FormsTree performed spanAt := by
  have hspanAt : ∀ place ∈ program.recorded, program.Describes place (spanAt place) := by
    intro place hplace
    obtain ⟨hmem, hrecords⟩ := List.mem_filter.1 hplace
    exact h place (List.mem_filter.2 ⟨program.perm_exits.mem_iff.2 hmem, hrecords⟩)
  constructor
  case entered => exact hentered
  case ends => exact hends
  case once => exact ⟨program.perm_exits.nodup_iff.2 nodup_entries, program.perm_exits⟩
  case numbers =>
    rw [List.map_congr_left fun place hplace => congrArg SpanContext.span (hspanAt place hplace).context]
    exact map_countP_before program.records (List.nil_append _).symm
  case traces =>
    have htrace : ∀ place ∈ program.roots, (spanAt place).context.trace =
        (program.before place).countP program.isRoot + 1 := by
      intro place hplace
      rw [(hspanAt place (List.mem_of_mem_filter hplace)).context]
      rw [roots_eq] at hplace
      exact traceIn_of_isRoot (List.mem_filter.1 hplace).2
    rw [List.map_congr_left htrace, roots_eq]
    exact map_countP_before program.isRoot (List.nil_append _).symm
  case parent =>
    intro place hplace
    rw [(hspanAt place hplace).parent]
    cases haround : program.parent? place with
    | none => rfl
    | some around =>
      rw [Option.map_some, Option.map_some,
        (hspanAt around (mem_recorded_of_parent? hplace haround)).context]
  case trace =>
    intro place hplace around haround
    have hmem := mem_recorded_of_parent? hplace haround
    refine ⟨hmem, ?_⟩
    rw [(hspanAt place hplace).context, (hspanAt around hmem).context]
    exact traceIn_of_parent? haround
  case made => exact fun place hplace => (hspanAt place hplace).made
  case restored => exact hrestored

end Program

/-! ## Exports -/

namespace Instrumenter

/-- **Spans form the tree of the run.** A program is performed whose statements in calls to databases
    are texts, where errors of the library are kept from its callers. Then the spans that are exported
    are those of the places that record, each once and in the order in which the actions are left, and
    they form a tree: numbered in the order in which they begin, each a part of the innermost one
    around it. Behind the program the first context holds again. -/
theorem exported_perform [Encoding.Codecs] {T : Tracing} (hT : T.Documented)
    {instrumenter : Instrumenter} (hreach : instrumenter.errorsReach = false)
    (hdefault : instrumenter.options.defaultNamespace.isName = true) {program : Program}
    (hplain : ∀ deed ∈ Action.deedsIn program, deed.isPlain = true) :
    ∃ spanAt, program.FormsTree (instrumenter.perform program (World.start T Step)) spanAt := by
  have hresumes := resumes_perform instrumenter hT program (World.start T Step)
  obtain ⟨left, hleft, hyields⟩ := perform_spec (T := T) hT hreach fun deed hmem =>
    exists_title_of_isPlain hdefault (hplain deed hmem)
  have hnodup : (program.exits.filter program.records).Nodup :=
    (program.perm_exits.nodup_iff.2 Program.nodup_entries).filter _
  rw [hleft] at hresumes ⊢
  obtain ⟨spanAt, hspans, hspanAt⟩ :=
    Program.exists_map_eq_of_forall₂ hnodup (Program.forall₂_shown hyields)
  exact ⟨spanAt, Program.formsTree_of_describes hyields.entered hspans hspanAt hresumes⟩

/-- A call whose body is suppressed but for a span of the application, which ends with an error that is
    caught around the suppression. -/
theorem exported_perform_of_suppressed :
    ∃ spanAt, Program.FormsTree
      [.action (.sqlSpan (some (.text ("select 1" : Text))) .null)
        [.action .suppress
          [.action (.requestSpan ⟨("get" : Text), ("_cat" : Text), none, none⟩) [] none false,
            .action (.appSpan ("job" : Text)) [] (some ⟨("ValueError" : Text), none⟩) false]
          none true]
        none false]
      (perform ⟨("clickhouse" : Text), Options.default, .old, Raised.reachesCallers []⟩
        [.action (.sqlSpan (some (.text ("select 1" : Text))) .null)
          [.action .suppress
            [.action (.requestSpan ⟨("get" : Text), ("_cat" : Text), none, none⟩) [] none false,
              .action (.appSpan ("job" : Text)) [] (some ⟨("ValueError" : Text), none⟩) false]
            none true]
          none false]
        (World.start Tracing.standard Step))
      spanAt :=
  have hunset : Environment.find? [] Raised.testVariable = none := rfl
  exported_perform Tracing.standard_documented (Raised.reachesCallers_of_unset hunset) rfl (by decide)

end Instrumenter

end Redaction
