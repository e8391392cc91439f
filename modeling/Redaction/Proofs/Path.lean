/-
  The parts of a path.

  The index and the API are taken from a path apart from one another, the index from what follows the
  slashes before the path, the API from what stands between the slashes around it.

  * `core`: the path without the slashes around it;
  * `FromReserved core api`: the API is what the path holds from its first reserved step on;
  * `fromReserved_api`: so is the API that is found;
  * `index?_eq`: the index is the first step, unless that is reserved or there is none;
  * `api_eq_core_iff`: the API is the whole path just then;
  * `index?_and_api`: so the two fit together.
-/
import Redaction.Proofs.Endpoint

namespace Redaction.Endpoint

/-! ## Slashes around a path -/

/-- The path without the slashes around it. -/
def core (endpoint : Text) : Text := Text.trimBy (· = slash) (path endpoint)

theorem dropWhile_eq_trimBy_append (p : CodePoint → Bool) (t : Text) :
    ∃ trail, (∀ c ∈ trail, p c) ∧ t.dropWhile p = Text.trimBy p t ++ trail := by
  refine ⟨((t.dropWhile p).reverse.takeWhile p).reverse, fun c hc => ?_, ?_⟩
  · exact List.mem_takeWhile_imp (List.mem_reverse.1 hc)
  · rw [Text.trimBy, ← List.reverse_append, List.takeWhile_append_dropWhile, List.reverse_reverse]

/-- Behind the slashes before it, a path starts with its core. -/
theorem dropWhile_path (endpoint : Text) :
    ∃ trail, (∀ c ∈ trail, c = slash) ∧
      (path endpoint).dropWhile (· = slash) = core endpoint ++ trail := by
  obtain ⟨trail, htrail, h⟩ := dropWhile_eq_trimBy_append (· = slash) (path endpoint)
  exact ⟨trail, fun c hc => of_decide_eq_true (htrail c hc), h⟩

theorem head?_core_ne_slash (endpoint : Text) : (core endpoint).head? ≠ some slash := by
  obtain ⟨trail, -, h⟩ := dropWhile_path endpoint
  have hhead := List.head?_dropWhile_not (fun c => decide (c = slash)) (path endpoint)
  rw [h] at hhead
  intro hslash
  rw [List.head?_append, hslash] at hhead
  simp at hhead

/-! ## The API -/

/-- What a path holds from its first reserved step on: nothing where no step is reserved, and
    otherwise what stands behind the steps before it and their slashes. -/
inductive FromReserved (core : Text) : Text → Prop
  | none : (∀ step ∈ core.splitOn slash, isReserved step = false) → FromReserved core []
  | first {before after : List Text} {step api : Text} :
      core.splitOn slash = before ++ step :: after → (∀ s ∈ before, isReserved s = false) →
      isReserved step → core = (before.map (· ++ [slash])).flatten ++ api → FromReserved core api

/-- Steps before others stand with their slashes before what the others make. -/
theorem intercalate_append_eq {after : List Text} (hafter : after ≠ []) (before : List Text) :
    [slash].intercalate (before ++ after) =
      (before.map (· ++ [slash])).flatten ++ [slash].intercalate after := by
  induction before with
  | nil => rfl
  | cons step before ih =>
    rw [List.cons_append, List.intercalate_cons_of_ne_nil (List.append_ne_nil_of_right_ne_nil _ hafter),
      ih, List.map_cons, List.flatten_cons, List.append_assoc, List.append_assoc, List.append_assoc]

/-- Steps start like the first of them: with a slash, or not at all, where that one is empty. -/
theorem isReserved_intercalate (step : Text) (steps : List Text) :
    isReserved ([slash].intercalate (step :: steps)) = isReserved step := by
  cases step with
  | cons c step =>
    cases steps with
    | nil => rw [List.intercalate_singleton]
    | cons next steps =>
      rw [List.intercalate_cons_cons]
      rfl
  | nil =>
    cases steps with
    | nil => rw [List.intercalate_singleton]
    | cons next steps =>
      rw [List.intercalate_cons_cons]
      rfl

theorem api_eq (endpoint : Text) :
    api endpoint =
      [slash].intercalate (((core endpoint).splitOn slash).dropWhile fun step => ! isReserved step) :=
  rfl

/-- **The API is what a path holds from its first reserved step on.** -/
theorem fromReserved_api (endpoint : Text) : FromReserved (core endpoint) (api endpoint) := by
  have hjoin : [slash].intercalate ((core endpoint).splitOn slash) = core endpoint :=
    List.intercalate_splitOn slash
  rw [api_eq]
  generalize hsteps : (core endpoint).splitOn slash = steps at hjoin ⊢
  cases hafter : steps.dropWhile fun step => ! isReserved step with
  | nil =>
    refine .none fun step hstep => ?_
    rw [hsteps] at hstep
    simpa using List.dropWhile_eq_nil_iff.1 hafter step hstep
  | cons step after =>
    have hsplit := List.takeWhile_append_dropWhile (p := fun step => ! isReserved step) (l := steps)
    rw [hafter] at hsplit
    refine .first (hsteps.trans hsplit.symm) (fun s hs => ?_) ?_ ?_
    · simpa using List.mem_takeWhile_imp hs
    · have hhead := List.head?_dropWhile_not (fun step => ! isReserved step) steps
      rw [hafter] at hhead
      simpa using hhead
    · rw [← intercalate_append_eq (List.cons_ne_nil step after), hsplit, hjoin]

/-- So what a path holds from there on starts with a low line, if it is anything. -/
theorem FromReserved.isReserved {core api : Text} (h : FromReserved core api) (hne : api ≠ []) :
    isReserved api := by
  cases h with
  | none => exact absurd rfl hne
  | @first before after step _ hsplit _ hstep hcore =>
    have hjoin : [slash].intercalate (core.splitOn slash) = core := List.intercalate_splitOn slash
    rw [hsplit, intercalate_append_eq (List.cons_ne_nil step after)] at hjoin
    rw [← List.append_cancel_left (hjoin.trans hcore), isReserved_intercalate]
    exact hstep

theorem api_of_isReserved {endpoint : Text} (h : isReserved (core endpoint)) :
    api endpoint = core endpoint := by
  have hjoin : [slash].intercalate ((core endpoint).splitOn slash) = core endpoint :=
    List.intercalate_splitOn slash
  obtain ⟨step, steps, hsteps⟩ := List.exists_cons_of_ne_nil (List.splitOn_ne_nil slash (core endpoint))
  rw [hsteps] at hjoin
  rw [← hjoin, isReserved_intercalate] at h
  rw [api_eq, hsteps, List.dropWhile_cons_of_neg (by simp [h]), hjoin]

/-- **The API is the whole path** just if the path has no step before it. -/
theorem api_eq_core_iff (endpoint : Text) :
    api endpoint = core endpoint ↔ core endpoint = [] ∨ isReserved (core endpoint) := by
  constructor
  · intro h
    by_cases hcore : core endpoint = []
    · exact .inl hcore
    · exact .inr (h ▸ (fromReserved_api endpoint).isReserved (h ▸ hcore))
  · rintro (hcore | hreserved)
    · rw [api_eq, hcore]
      rfl
    · exact api_of_isReserved hreserved

/-! ## The index -/

theorem takeWhile_append_slashes {trail : Text} (h : ∀ c ∈ trail, c = slash) (t : Text) :
    (t ++ trail).takeWhile (· ≠ slash) = t.takeWhile (· ≠ slash) := by
  induction t with
  | nil =>
    cases trail with
    | nil => rfl
    | cons c trail =>
      rw [List.nil_append, List.takeWhile_cons_of_neg (by simp [h c List.mem_cons_self])]
      rfl
  | cons c t ih => rw [List.cons_append, List.takeWhile_cons, List.takeWhile_cons, ih]

theorem head?_takeWhile_slash {t : Text} (h : t.head? ≠ some slash) :
    (t.takeWhile (· ≠ slash)).head? = t.head? := by
  cases t with
  | nil => rfl
  | cons c t =>
    have hc : c ≠ slash := fun hc => h (congrArg some hc)
    rw [List.takeWhile_cons_of_pos (by simpa using hc)]
    rfl

/-- **The index is the first step of a path**, unless that is reserved or there is none. -/
theorem index?_eq (endpoint : Text) :
    index? endpoint = if core endpoint = [] ∨ isReserved (core endpoint) then none
      else some ((core endpoint).takeWhile (· ≠ slash)) := by
  obtain ⟨trail, htrail, h⟩ := dropWhile_path endpoint
  have hhead := head?_takeWhile_slash (head?_core_ne_slash endpoint)
  rw [index?, h, takeWhile_append_slashes htrail]
  simp only [List.isEmpty_iff, ← List.head?_eq_none_iff, isReserved, hhead]

theorem index?_eq_none_iff (endpoint : Text) :
    index? endpoint = none ↔ core endpoint = [] ∨ isReserved (core endpoint) := by
  rw [index?_eq, ite_eq_left_iff]
  exact ⟨fun h => by_contra fun hcore => Option.some_ne_none _ (h hcore), fun h hcore => absurd h hcore⟩

/-- Behind its first step, a text goes on with a slash or not at all. -/
theorem eq_takeWhile_slash_or (t : Text) :
    t = t.takeWhile (· ≠ slash) ∨ ∃ rest, t = t.takeWhile (· ≠ slash) ++ slash :: rest := by
  have hsplit := List.takeWhile_append_dropWhile (p := (· ≠ slash)) (l := t)
  have hhead := List.head?_dropWhile_not (· ≠ slash) t
  cases hdrop : t.dropWhile (· ≠ slash) with
  | nil =>
    rw [hdrop, List.append_nil] at hsplit
    exact .inl hsplit.symm
  | cons d behind =>
    rw [hdrop] at hhead hsplit
    obtain rfl : d = slash := by simpa using hhead
    exact .inr ⟨behind, hsplit.symm⟩

/-- An index is not empty, it starts like the path, and the path goes on behind it with a slash or not at
    all. -/
theorem index_of_core {endpoint index : Text} (h : index? endpoint = some index) :
    index ≠ [] ∧ isReserved index = false ∧ slash ∉ index ∧
      (core endpoint = index ∨ ∃ rest, core endpoint = index ++ slash :: rest) := by
  rw [index?_eq] at h
  split at h
  case isTrue => cases h
  case isFalse hstarts =>
    obtain ⟨hne, hreserved⟩ := not_or.1 hstarts
    have hsplit := eq_takeWhile_slash_or (core endpoint)
    have hslash : slash ∉ (core endpoint).takeWhile (· ≠ slash) := fun hmem => by
      simpa using List.mem_takeWhile_imp hmem
    have hhead := head?_takeWhile_slash (head?_core_ne_slash endpoint)
    obtain rfl := Option.some.inj h
    refine ⟨?_, ?_, hslash, hsplit⟩
    · rwa [Ne, ← List.head?_eq_none_iff, hhead, List.head?_eq_none_iff]
    · rw [isReserved, hhead]
      exact Bool.eq_false_iff.2 hreserved

theorem mem_path_of_mem_core {endpoint : Text} {c : CodePoint} (h : c ∈ core endpoint) :
    c ∈ path endpoint := by
  obtain ⟨trail, -, hpath⟩ := dropWhile_path endpoint
  refine (List.dropWhile_suffix (fun c => decide (c = slash))).subset ?_
  rw [hpath]
  exact List.mem_append_left trail h

theorem mem_path_of_mem_index {endpoint index : Text} (h : index? endpoint = some index)
    {c : CodePoint} (hc : c ∈ index) : c ∈ path endpoint := by
  refine mem_path_of_mem_core ?_
  obtain ⟨-, -, -, hcore | ⟨rest, hcore⟩⟩ := index_of_core h
  · rwa [hcore]
  · rw [hcore]
    exact List.mem_append_left _ hc

/-- **Index and API of an endpoint fit together.** The API is what the path holds from its first
    reserved step on. There is no index just if the API is the whole path; otherwise the index is the
    first step of the path, which is not empty, not reserved, and holds no sign that ends a step or a
    path. -/
theorem index?_and_api (endpoint : Text) :
    FromReserved (core endpoint) (api endpoint) ∧
      (index? endpoint = none ↔ api endpoint = core endpoint) ∧
      ∀ index, index? endpoint = some index →
        index ≠ [] ∧ isReserved index = false ∧
          (∀ c ∈ index, c ≠ '/' ∧ c ≠ '?' ∧ c ≠ '#') ∧
          (core endpoint = index ∨ ∃ rest, core endpoint = index ++ slash :: rest) := by
  refine ⟨fromReserved_api endpoint, ?_, fun index hindex => ?_⟩
  · rw [index?_eq_none_iff, api_eq_core_iff]
  · obtain ⟨hne, hreserved, hslash, hcore⟩ := index_of_core hindex
    refine ⟨hne, hreserved, fun c hc => ⟨?_, ?_⟩, hcore⟩
    · rintro rfl
      exact hslash hc
    · exact not_or.1 (not_endsPath_of_mem_path (mem_path_of_mem_index hindex hc))

end Redaction.Endpoint
