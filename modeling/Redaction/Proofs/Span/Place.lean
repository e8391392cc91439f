/-
  Places in a program.

  The actions of a program are entered in the order in which they are written. An error leaves out the
  actions behind it, up to the action that catches it. Only at the top, where each action is run on its
  own, do the others go on. So what is entered, and in which order it is left, can be told without
  running the program.

  * `Place` is where an action stands, and `Program.action?` is the action there;
  * `Action.error` is the error that comes out of an action, `Action.bodyError` that which leaves its
    body;
  * `Program.entries` are the places of the actions that are entered, in order, and `Program.exits` the
    same places in the order in which they are left (`perm_exits`, `nodup_entries`);
  * `Program.entries_within`: what is entered inside of a place;
  * `Program.records`: whether the action at a place begins a span, and `Program.parent?` is the
    innermost one around it that does.
-/
import Redaction.Proofs.Span.Entrance
import Mathlib.Data.List.Basic
import Mathlib.Data.List.Infix

namespace Redaction

/-- Actions, one after another. -/
abbrev Program := List Action

/-- A place in a program: the number of an action among those beside it, and then the place of the
    action around it. The empty place is around all actions. -/
abbrev Place := List Nat

namespace Action

def deed : Action → Deed
  | action deed _ _ _ => deed

def inner : Action → Program
  | action _ inner _ _ => inner

def raises : Action → Option Raised
  | action _ _ raises _ => raises

def catches : Action → Bool
  | action _ _ _ catches => catches

/-! ## Errors -/

mutual

/-- The error that comes out of an action. -/
def error : Action → Option Raised
  | action _ inner raises catches => if catches then none else (errorIn inner).or raises

/-- The error that comes out of actions in order. -/
def errorIn : Program → Option Raised
  | [] => none
  | first :: rest => first.error.or (errorIn rest)

end

/-- The error that leaves the body of an action, and may be caught behind it: one from inside, or else
    the one that the action ends with. -/
def bodyError (action : Action) : Option Raised := (errorIn action.inner).or action.raises

theorem error_eq (action : Action) :
    action.error = if action.catches then none else action.bodyError := by
  cases action
  rfl

/-! ## Order -/

mutual

/-- The places in an action in the order in which they are entered, given its own. -/
def entries (place : Place) : Action → List Place
  | action _ inner _ _ => place :: entriesIn false place 0 inner

/-- The places in actions in the order in which they are entered, given the number of the first one. The
    actions may go on behind an error. -/
def entriesIn (goOn : Bool) (around : Place) (n : Nat) : Program → List Place
  | [] => []
  | first :: rest =>
    first.entries (n :: around) ++
      if goOn || first.error.isNone then entriesIn goOn around (n + 1) rest else []

end

mutual

/-- The places in an action in the order in which they are left, given its own. -/
def exits (place : Place) : Action → List Place
  | action _ inner _ _ => exitsIn false place 0 inner ++ [place]

/-- The places in actions in the order in which they are left, given the number of the first one. The
    actions may go on behind an error. -/
def exitsIn (goOn : Bool) (around : Place) (n : Nat) : Program → List Place
  | [] => []
  | first :: rest =>
    first.exits (n :: around) ++
      if goOn || first.error.isNone then exitsIn goOn around (n + 1) rest else []

end

mutual

theorem perm_exits (place : Place) : ∀ action : Action,
    (action.exits place).Perm (action.entries place)
  | action _ inner _ _ => by
    rw [exits, entries]
    exact (List.perm_append_singleton ..).trans ((perm_exitsIn false place 0 inner).cons place)

theorem perm_exitsIn (goOn : Bool) (around : Place) (n : Nat) : ∀ actions : Program,
    (exitsIn goOn around n actions).Perm (entriesIn goOn around n actions)
  | [] => by rw [exitsIn, entriesIn]
  | first :: rest => by
    rw [exitsIn, entriesIn]
    refine (perm_exits _ first).append ?_
    split
    · exact perm_exitsIn goOn around (n + 1) rest
    · exact .refl _

end

/-! ## Places inside of others -/

/-- No place is inside of two actions beside each other. -/
theorem eq_of_cons_suffix {m n : Nat} {around place : Place} (hm : (m :: around) <:+ place)
    (hn : (n :: around) <:+ place) : m = n := by
  have h : (m :: around) <:+ (n :: around) :=
    List.suffix_of_suffix_length_le hm hn (Nat.le_of_eq rfl)
  exact (List.cons.inj (h.eq_of_length rfl)).1

mutual

theorem suffix_of_mem_entries {place q : Place} : ∀ {action : Action},
    q ∈ action.entries place → place <:+ q
  | action _ inner _ _, h => by
    rw [entries, List.mem_cons] at h
    rcases h with rfl | h
    · exact List.suffix_refl q
    · obtain ⟨m, -, hm⟩ := suffix_of_mem_entriesIn h
      exact (List.suffix_cons m place).trans hm

theorem suffix_of_mem_entriesIn {goOn : Bool} {around q : Place} {n : Nat} : ∀ {actions : Program},
    q ∈ entriesIn goOn around n actions → ∃ m, n ≤ m ∧ (m :: around) <:+ q
  | [], h => by
    rw [entriesIn] at h
    cases h
  | first :: rest, h => by
    rw [entriesIn, List.mem_append] at h
    rcases h with h | h
    · exact ⟨n, Nat.le_refl n, suffix_of_mem_entries h⟩
    · split at h
      · obtain ⟨m, hle, hm⟩ := suffix_of_mem_entriesIn h
        exact ⟨m, Nat.le_of_succ_le hle, hm⟩
      · cases h

end

/-- What is inside of an action has a longer place. -/
theorem length_lt_of_mem_entriesIn {goOn : Bool} {around q : Place} {n : Nat} {actions : Program}
    (h : q ∈ entriesIn goOn around n actions) : around.length < q.length := by
  obtain ⟨m, -, hm⟩ := suffix_of_mem_entriesIn h
  exact hm.length_le

mutual

theorem nodup_entries (place : Place) : ∀ action : Action, (action.entries place).Nodup
  | action _ inner _ _ => by
    rw [entries, List.nodup_cons]
    refine ⟨fun h => ?_, nodup_entriesIn false place 0 inner⟩
    exact Nat.lt_irrefl _ (length_lt_of_mem_entriesIn h)

theorem nodup_entriesIn (goOn : Bool) (around : Place) (n : Nat) : ∀ actions : Program,
    (entriesIn goOn around n actions).Nodup
  | [] => by
    rw [entriesIn]
    exact List.nodup_nil
  | first :: rest => by
    rw [entriesIn]
    split
    · refine List.nodup_append.2 ⟨nodup_entries _ first, nodup_entriesIn goOn _ _ rest, ?_⟩
      rintro p hp _ hq rfl
      obtain ⟨m, hle, hm⟩ := suffix_of_mem_entriesIn hq
      have := eq_of_cons_suffix (suffix_of_mem_entries hp) hm
      omega
    · rw [List.append_nil]
      exact nodup_entries _ first

end

mutual

/-- What deeds there are in an action. -/
def deeds : Action → List Deed
  | action deed inner _ _ => deed :: deedsIn inner

/-- What deeds there are in actions. -/
def deedsIn : Program → List Deed
  | [] => []
  | first :: rest => first.deeds ++ deedsIn rest

end

end Action

/-! ## Places in a program -/

namespace Program

variable (program : Program)

/-- The actions right inside of a place. -/
def actionsIn : Place → Program
  | [] => program
  | n :: around => ((actionsIn around)[n]?.map Action.inner).getD []

/-- The action at a place. -/
def action? : Place → Option Action
  | [] => none
  | n :: around => (program.actionsIn around)[n]?

/-- The deed at a place. -/
def deed? (place : Place) : Option Deed := (program.action? place).map Action.deed

/-- The places of the actions that are entered, in order. -/
def entries : List Place := Action.entriesIn true [] 0 program

/-- The places of the actions that are entered, in the order in which they are left. -/
def exits : List Place := Action.exitsIn true [] 0 program

/-! ## Suppression -/

/-- Whether a mark is set inside of a place: what counts is the innermost action, at the place or around
    it, that sets the mark. -/
def mark (key : SuppressionKey) (place : Place) : Bool :=
  (place.tails.findSome? fun p => (program.deed? p).bind (Deed.mark? key)).getD false

/-- Whether instrumentation is suppressed inside of a place. -/
def isSuppressed (place : Place) : Bool := program.mark .legacy place || program.mark .current place

/-- Whether the action at a place begins a span. -/
def records : Place → Bool
  | [] => false
  | n :: around => (program.deed? (n :: around)).any (Deed.records (program.isSuppressed around))

/-- The innermost place, a place itself or one around it, whose action begins a span. -/
def recorder? (place : Place) : Option Place := place.tails.find? program.records

/-- The innermost place around a place whose action begins a span. -/
def parent? (place : Place) : Option Place := program.recorder? place.tail

variable {program}

theorem mark_cons (key : SuppressionKey) (n : Nat) (around : Place) :
    program.mark key (n :: around) =
      ((program.deed? (n :: around)).bind (Deed.mark? key)).getD (program.mark key around) := by
  rw [mark, List.tails_cons, List.findSome?_cons, mark]
  cases (program.deed? (n :: around)).bind (Deed.mark? key) <;> rfl

theorem recorder?_cons (n : Nat) (around : Place) :
    program.recorder? (n :: around) =
      if program.records (n :: around) then some (n :: around) else program.recorder? around := by
  rw [recorder?, List.tails_cons, List.find?_cons, recorder?]
  cases program.records (n :: around) <;> rfl

theorem deed?_of_action? {place : Place} {action : Action} (h : program.action? place = some action) :
    program.deed? place = some action.deed := by
  rw [deed?, h, Option.map_some]

theorem actionsIn_of_action? {place : Place} {action : Action}
    (h : program.action? place = some action) : program.actionsIn place = action.inner := by
  cases place with
  | nil => cases h
  | cons n around => rw [actionsIn, show (program.actionsIn around)[n]? = some action from h]; rfl

/-- The actions from a number on: the first of them, and the others. -/
theorem action?_of_drop {around : Place} {n : Nat} {first : Action} {rest : Program}
    (h : (program.actionsIn around).drop n = first :: rest) :
    program.action? (n :: around) = some first ∧ (program.actionsIn around).drop (n + 1) = rest := by
  constructor
  · rw [action?, ← List.head?_drop, h, List.head?_cons]
  · rw [← List.tail_drop, h, List.tail_cons]

/-! ## What is entered inside of a place -/

/-- That a place is that of an action, and that of some places just those are inside of it that are
    entered in the action. -/
def IsPlaced (program : Program) (places : List Place) (place : Place) : Prop :=
  ∃ action, program.action? place = some action ∧
    ∀ q, q ∈ action.entries place ↔ q ∈ places ∧ place <:+ q

theorem IsPlaced.append_right {ps qs : List Place} {p : Place} (h : program.IsPlaced ps p)
    (hqs : ∀ q ∈ qs, ¬ p <:+ q) : program.IsPlaced (ps ++ qs) p := by
  obtain ⟨action, haction, h⟩ := h
  refine ⟨action, haction, fun q => ?_⟩
  rw [h, List.mem_append]
  exact ⟨fun ⟨hmem, hsuffix⟩ => ⟨.inl hmem, hsuffix⟩,
    fun ⟨hmem, hsuffix⟩ => ⟨hmem.resolve_right fun hq => hqs q hq hsuffix, hsuffix⟩⟩

theorem IsPlaced.append_left {ps qs : List Place} {p : Place} (h : program.IsPlaced qs p)
    (hps : ∀ q ∈ ps, ¬ p <:+ q) : program.IsPlaced (ps ++ qs) p := by
  obtain ⟨action, haction, h⟩ := h
  refine ⟨action, haction, fun q => ?_⟩
  rw [h, List.mem_append]
  exact ⟨fun ⟨hmem, hsuffix⟩ => ⟨.inr hmem, hsuffix⟩,
    fun ⟨hmem, hsuffix⟩ => ⟨hmem.resolve_left fun hq => hps q hq hsuffix, hsuffix⟩⟩

mutual

theorem isPlaced_of_mem_entries {place : Place} : ∀ {action : Action},
    program.action? place = some action → ∀ p ∈ action.entries place,
      program.IsPlaced (action.entries place) p
  | .action deed inner raises catches, hat, p, hp => by
    have hinner : program.actionsIn place = inner := actionsIn_of_action? hat
    rw [Action.entries] at hp
    rcases List.mem_cons.1 hp with rfl | hin
    · exact ⟨_, hat, fun q => ⟨fun h => ⟨h, Action.suffix_of_mem_entries h⟩, And.left⟩⟩
    · rw [Action.entries, ← List.singleton_append]
      refine (isPlaced_of_mem_entriesIn (n := 0) hinner p hin).append_left fun q hq hsuffix => ?_
      rw [List.mem_singleton.1 hq] at hsuffix
      exact absurd hsuffix.length_le (Nat.not_le.2 (Action.length_lt_of_mem_entriesIn hin))

theorem isPlaced_of_mem_entriesIn {goOn : Bool} {around : Place} {n : Nat} : ∀ {actions : Program},
    (program.actionsIn around).drop n = actions → ∀ p ∈ Action.entriesIn goOn around n actions,
      program.IsPlaced (Action.entriesIn goOn around n actions) p
  | [], _, p, hp => by
    rw [Action.entriesIn] at hp
    cases hp
  | first :: rest, hdrop, p, hp => by
    obtain ⟨hfirst, hrest⟩ := action?_of_drop hdrop
    -- The first action and those behind it have no place in common, nor one inside of the other.
    have hapart : ∀ a ∈ first.entries (n :: around),
        ∀ b ∈ Action.entriesIn goOn around (n + 1) rest, ¬ a <:+ b ∧ ¬ b <:+ a := by
      intro a ha b hb
      have hn := Action.suffix_of_mem_entries ha
      obtain ⟨m, hle, hm⟩ := Action.suffix_of_mem_entriesIn hb
      constructor
      · intro hab
        have := Action.eq_of_cons_suffix (hn.trans hab) hm
        omega
      · intro hba
        have := Action.eq_of_cons_suffix hn (hm.trans hba)
        omega
    rw [Action.entriesIn] at hp ⊢
    by_cases hgo : (goOn || first.error.isNone) = true
    · rw [if_pos hgo] at hp ⊢
      rcases List.mem_append.1 hp with hp | hp
      · exact (isPlaced_of_mem_entries hfirst p hp).append_right fun q hq => (hapart p hp q hq).1
      · exact (isPlaced_of_mem_entriesIn hrest p hp).append_left fun q hq => (hapart q hq p hp).2
    · rw [if_neg hgo, List.append_nil] at hp ⊢
      exact isPlaced_of_mem_entries hfirst p hp

end

mutual

/-- Around a place in an action that is entered, all actions are entered. -/
theorem mem_entries_of_suffix {place p q : Place} : ∀ {action : Action}, p ∈ action.entries place →
    place <:+ q → q <:+ p → q ∈ action.entries place
  | .action deed inner raises catches, hp, hplace, hq => by
    rw [Action.entries] at hp ⊢
    rcases List.mem_cons.1 hp with rfl | hin
    · rw [hq.eq_of_length_le hplace.length_le]
      exact List.mem_cons_self
    · rcases Nat.lt_or_ge place.length q.length with hlt | hge
      · exact List.mem_cons_of_mem _ (mem_entriesIn_of_suffix hin hplace hlt hq)
      · rw [hplace.eq_of_length_le hge]
        exact List.mem_cons_self

theorem mem_entriesIn_of_suffix {goOn : Bool} {around p q : Place} {n : Nat} :
    ∀ {actions : Program}, p ∈ Action.entriesIn goOn around n actions → around <:+ q →
      around.length < q.length → q <:+ p → q ∈ Action.entriesIn goOn around n actions
  | [], hp, _, _, _ => by
    rw [Action.entriesIn] at hp
    cases hp
  | first :: rest, hp, haround, hlt, hq => by
    rw [Action.entriesIn, List.mem_append] at hp ⊢
    rcases hp with hp | hp
    · have hn := List.suffix_of_suffix_length_le (Action.suffix_of_mem_entries hp) hq hlt
      exact .inl (mem_entries_of_suffix hp hn hq)
    · by_cases hgo : (goOn || first.error.isNone) = true
      · rw [if_pos hgo] at hp ⊢
        exact .inr (mem_entriesIn_of_suffix hp haround hlt hq)
      · rw [if_neg hgo] at hp
        cases hp

end

end Program

end Redaction
