/-
  How far a token looks.

  Most tokens end where the next character does not belong to them, so that one character behind
  them is all they look at.  Numbers look further, and an open brace looks for the next brace.

  * `Resumes r s`: behind a token, `s` goes on like `r`, or with a placeholder;
  * `shape_resume`: a token that is no number and no brace stays as it is when what follows resumes;
  * `parameterLength?_append`: a brace looks no further than the next brace;
  * `numberShape_append`: a number looks no further than a character that no number goes on with
    (`EndsNumber`);
  * `tokensFrom_induction`: induction on a text along its tokens.
-/
import Mathlib
import Redaction.Sql.Redaction

namespace Redaction.Sql

/-! ## Characters -/

/-- A blank is no character of a name. -/
theorem isNameChar_of_isBlank {c : CodePoint} (h : c.isBlank) : isNameChar c = false := by
  obtain ⟨range, hmem, hlow, hhigh⟩ := Ranges.mem_of_contains h
  have htable : ∀ range ∈ Ranges.blank, ∀ n ∈ List.range' range.1 (range.2 + 1 - range.1),
      Ranges.letter.contains n = false ∧ Ranges.decimal.contains n = false ∧ n ≠ 0x5F ∧
        n ≠ 0x24 := by
    decide +kernel
  obtain ⟨hletter, hdecimal, hline, hdollar⟩ :=
    htable range hmem c.val (List.mem_range'_1.2 ⟨hlow, by omega⟩)
  have h₁ : c ≠ CodePoint.ofChar '_' := fun hc => hline (hc ▸ rfl)
  have h₂ : c ≠ CodePoint.ofChar '$' := fun hc => hdollar (hc ▸ rfl)
  simp [isNameChar, CodePoint.isWord, CodePoint.isAlphanumeric, CodePoint.isDecimal, hletter,
    hdecimal, h₁, h₂]

theorem isBlank_of_isNameChar {c : CodePoint} (h : isNameChar c) : c.isBlank = false := by
  by_contra hblank
  rw [isNameChar_of_isBlank (by simpa using hblank)] at h
  cases h

theorem isNameChar_of_isDecimal {c : CodePoint} (h : c.isDecimal) : isNameChar c := by
  simp [isNameChar, CodePoint.isWord, CodePoint.isAlphanumeric_of_isDecimal h]

theorem isNameChar_of_isHexDigit {c : CodePoint} (h : c.isHexDigit) : isNameChar c := by
  have hsmall : c.val < 0x67 := by
    unfold CodePoint.isHexDigit CodePoint.hexValue? CodePoint.isAsciiDigit at h
    split_ifs at h with h₁ h₂ h₃
    all_goals simp only [Bool.and_eq_true, decide_eq_true_eq] at *
    all_goals first | omega | cases h
  have htable : ∀ n < 0x67, ∀ hn : n < 0x110000,
      (CodePoint.mk n hn).isHexDigit → isNameChar ⟨n, hn⟩ := by
    decide +kernel
  exact htable c.val hsmall c.val_lt h

/-! ## Runs of characters -/

section Runs

variable {α : Type} {p : α → Bool} {u r : List α}

theorem takeWhile_append_of_head (h : r.head?.any p = false) :
    (u ++ r).takeWhile p = u.takeWhile p := by
  have hr : r.takeWhile p = [] := by
    cases r with
    | nil => rfl
    | cons d r => exact List.takeWhile_cons_of_neg (by simpa using h)
  rw [List.takeWhile_append, hr, List.append_nil]
  split
  case isTrue hlen => exact ((List.takeWhile_prefix p).eq_of_length hlen).symm
  case isFalse => rfl

/-- A run that ends where `r` starts holds all of `u`, and `r` does not go on with it. -/
theorem run_of_length_takeWhile (h : ((u ++ r).takeWhile p).length = u.length) :
    (∀ c ∈ u, p c) ∧ r.head?.any p = false := by
  have htake : (u ++ r).takeWhile p = u := by
    have hprefix : (u ++ r).takeWhile p <+: u ++ r := List.takeWhile_prefix p
    exact (List.prefix_of_prefix_length_le hprefix (List.prefix_append u r)
      (Nat.le_of_eq h)).eq_of_length h
  have hu : ∀ c ∈ u, p c := by
    intro c hc
    rw [← htake] at hc
    exact List.mem_takeWhile_imp hc
  refine ⟨hu, ?_⟩
  rw [List.takeWhile_append_of_pos hu] at htake
  cases r with
  | nil => rfl
  | cons d r =>
    by_contra hd
    rw [List.takeWhile_cons_of_pos (by simpa using hd)] at htake
    simp at htake

theorem length_takeWhile_of_run (hu : ∀ c ∈ u, p c) (hr : r.head?.any p = false) :
    ((u ++ r).takeWhile p).length = u.length := by
  rw [takeWhile_append_of_head hr, List.takeWhile_eq_self_iff.2 hu]

end Runs

/-! ## What follows a token -/

/-- Behind a token, `s` goes on like `r`, or with a placeholder where `r` goes on with no blank. -/
structure Resumes (r s : Text) : Prop where
  nil : r = [] → s = []
  head : s.head? = r.head? ∨ (s.head? = some (CodePoint.ofChar '?') ∧
    r.head?.any CodePoint.isBlank = false)

namespace Resumes

variable {r s u : Text}

/-- What `r` does not start with, `s` does not start with either. -/
theorem any_head (h : Resumes r s) {p : CodePoint → Bool} (hp : p '?' = false)
    (hr : r.head?.any p = false) : s.head?.any p = false := by
  rcases h.head with hs | ⟨hs, -⟩ <;> rw [hs]
  · exact hr
  · exact hp

theorem head_eq (h : Resumes r s) {c : CodePoint} (hc : c ≠ '?') (hs : s.head? = some c) :
    r.head? = some c := by
  rcases h.head with hr | ⟨hr, -⟩
  · exact hr ▸ hs
  · exact absurd (Option.some.inj (hs.symm.trans hr)) hc

/-- So it is behind more of the token. -/
theorem head_append (h : Resumes r s) {c : CodePoint} (hc : c ≠ '?')
    (hs : (u ++ s).head? = some c) : (u ++ r).head? = some c := by
  cases u with
  | nil => exact h.head_eq hc hs
  | cons d u => exact hs

theorem any_head_append (h : Resumes r s) {p : CodePoint → Bool} (hp : p '?' = false)
    (hs : (u ++ s).head?.any p) : (u ++ r).head?.any p := by
  cases u with
  | nil =>
    by_contra hr
    rw [List.nil_append] at hs hr
    rw [h.any_head hp (by simpa using hr)] at hs
    cases hs
  | cons d u => exact hs

/-- A line ends where it ended. -/
theorem any_head_of_lineEnd (h : Resumes r s)
    (hr : r.head?.any (· ≠ CodePoint.lineFeed) = false) :
    s.head?.any (· ≠ CodePoint.lineFeed) = false := by
  cases r with
  | nil => rw [h.nil rfl]; rfl
  | cons c r =>
    have hc : c = CodePoint.lineFeed := by simpa using hr
    rcases h.head with hs | ⟨-, hblank⟩
    · rw [hs]; exact hr
    · rw [hc, List.head?_cons] at hblank
      exact absurd hblank (by decide)

theorem length_takeWhile (h : Resumes r s) {p : CodePoint → Bool} (hp : p '?' = false)
    (hlen : ((u ++ r).takeWhile p).length = u.length) :
    ((u ++ s).takeWhile p).length = u.length := by
  obtain ⟨hu, hr⟩ := run_of_length_takeWhile hlen
  exact length_takeWhile_of_run hu (h.any_head hp hr)

end Resumes

/-! ## Comments and quoted texts -/

theorem blockCommentLength_cons (n : Nat) (c : CodePoint) (rest : Text) :
    blockCommentLength n (c :: rest) =
      if c = CodePoint.ofChar '*' ∧ rest.head? = some (CodePoint.ofChar '/') then n + 2
      else blockCommentLength (n + 1) rest :=
  rfl

theorem le_blockCommentLength (n : Nat) (t : Text) : n ≤ blockCommentLength n t := by
  induction t generalizing n with
  | nil => exact Nat.le_refl n
  | cons c rest ih =>
    rw [blockCommentLength_cons]
    split
    · omega
    · exact Nat.le_of_succ_le (ih (n + 1))

theorem blockCommentLength_le (n : Nat) (t : Text) : blockCommentLength n t ≤ n + t.length := by
  induction t generalizing n with
  | nil => exact Nat.le_refl n
  | cons c rest ih =>
    rw [blockCommentLength_cons, List.length_cons]
    split
    case isTrue h =>
      obtain ⟨more, rfl⟩ := List.head?_eq_some_iff.1 h.2
      simp only [List.length_cons]
      omega
    case isFalse =>
      have := ih (n + 1)
      omega

theorem lt_blockCommentLength (n : Nat) (c : CodePoint) (t : Text) :
    n < blockCommentLength n (c :: t) := by
  rw [blockCommentLength_cons]
  split
  · omega
  · exact le_blockCommentLength (n + 1) t

/-- A comment that ends with `u` ends there whatever follows, unless it takes the rest. -/
theorem blockCommentLength_resume {n : Nat} {u r s : Text} (hnil : r = [] → s = [])
    (h : blockCommentLength n (u ++ r) = n + u.length) :
    blockCommentLength n (u ++ s) = n + u.length := by
  induction u generalizing n with
  | nil =>
    cases r with
    | nil => rw [hnil rfl]; rfl
    | cons d r =>
      have := lt_blockCommentLength n d r
      rw [List.nil_append, List.length_nil] at h
      omega
  | cons d u ih =>
    rw [List.cons_append, blockCommentLength_cons] at h ⊢
    rw [List.length_cons] at h ⊢
    cases u with
    | nil =>
      cases r with
      | nil => rw [hnil rfl]; exact h
      | cons e r =>
        split at h
        · simp at h
        · have := lt_blockCommentLength (n + 1) e r
          simp at h
          omega
    | cons e u =>
      rw [List.cons_append, List.head?_cons] at h ⊢
      by_cases hend : d = CodePoint.ofChar '*' ∧ some e = some (CodePoint.ofChar '/')
      · rw [if_pos hend] at h ⊢
        exact h
      · rw [if_neg hend] at h ⊢
        have := ih (by rw [List.cons_append, h]; omega)
        rw [List.cons_append] at this
        omega

section Quoted

variable {quote c : CodePoint} {n m : Nat} {t u r s : Text}

theorem quotedLength?_open (hc : c ≠ quote) :
    quotedLength? quote n (c :: t) = quotedLength? quote (n + 1) t := by
  cases t with
  | nil => simp [quotedLength?, hc]
  | cons d t => rw [quotedLength?, if_neg hc]

theorem quotedLength?_doubled :
    quotedLength? quote n (quote :: quote :: t) = quotedLength? quote (n + 2) t := by
  rw [quotedLength?, if_pos rfl, if_pos rfl]

theorem quotedLength?_closed (ht : t.head? ≠ some quote) :
    quotedLength? quote n (quote :: t) = some (n + 1) := by
  cases t with
  | nil => simp [quotedLength?]
  | cons d t =>
    have hd : d ≠ quote := fun hd => ht (by rw [hd]; rfl)
    rw [quotedLength?, if_pos rfl, if_neg hd]

theorem add_length_cons (n : Nat) (c : CodePoint) (t : Text) :
    n + (c :: t).length = n + 1 + t.length := by
  rw [List.length_cons]
  omega

/-- A quoted text is read character by character, but pairs of quotes are read at once. A quote that
    is not doubled is the last. -/
@[elab_as_elim]
theorem quotedText_induction (quote : CodePoint) {motive : Text → Prop} (nil : motive [])
    (opened : ∀ c t, c ≠ quote → motive t → motive (c :: t))
    (doubled : ∀ t, motive t → motive (quote :: quote :: t))
    (closed : ∀ t, t.head? ≠ some quote → motive (quote :: t)) (t : Text) : motive t := by
  induction t using List.twoStepInduction with
  | nil => exact nil
  | singleton c =>
    by_cases hc : c = quote
    · rw [hc]
      exact closed [] (by simp)
    · exact opened c [] hc nil
  | cons_cons c d t ih ih' =>
    by_cases hc : c = quote
    · subst hc
      by_cases hd : d = c
      · subst hd
        exact doubled t ih
      · exact closed (d :: t) (by simpa using hd)
    · exact opened c (d :: t) hc (ih' d)

theorem lt_of_quotedLength? (h : quotedLength? quote n t = some m) : n < m := by
  induction t using quotedText_induction quote generalizing n with
  | nil => cases h
  | opened c t hc ih =>
    rw [quotedLength?_open hc] at h
    have := ih h
    omega
  | doubled t ih =>
    rw [quotedLength?_doubled] at h
    have := ih h
    omega
  | closed t ht =>
    rw [quotedLength?_closed ht] at h
    cases h
    omega

theorem quotedLength?_le (h : quotedLength? quote n t = some m) : m ≤ n + t.length := by
  induction t using quotedText_induction quote generalizing n with
  | nil => cases h
  | opened c t hc ih =>
    rw [quotedLength?_open hc] at h
    have := ih h
    rw [List.length_cons]
    omega
  | doubled t ih =>
    rw [quotedLength?_doubled] at h
    have := ih h
    rw [List.length_cons, List.length_cons]
    omega
  | closed t ht =>
    rw [quotedLength?_closed ht] at h
    cases h
    rw [List.length_cons]
    omega

/-- A quoted text that ends with `u` ends there if no further quote follows. -/
theorem quotedLength?_resume (hs : s.head? = some quote → r.head? = some quote)
    (h : quotedLength? quote n (u ++ r) = some (n + u.length)) :
    quotedLength? quote n (u ++ s) = some (n + u.length) := by
  induction u using quotedText_induction quote generalizing n with
  | nil =>
    have := lt_of_quotedLength? h
    simp at this
  | opened c u hc ih =>
    rw [List.cons_append, quotedLength?_open hc, add_length_cons] at h ⊢
    exact ih h
  | doubled u ih =>
    rw [List.cons_append, List.cons_append, quotedLength?_doubled, add_length_cons,
      add_length_cons] at h ⊢
    exact ih h
  | closed u hu =>
    cases u with
    | cons d u =>
      have hclosed : ∀ v, quotedLength? quote n (quote :: d :: u ++ v) = some (n + 1) :=
        fun v => quotedLength?_closed hu
      rwa [hclosed] at h ⊢
    | nil =>
      refine quotedLength?_closed fun hsq => ?_
      -- behind a doubled quote the text would go on
      obtain ⟨r', rfl⟩ := List.head?_eq_some_iff.1 (hs hsq)
      rw [List.singleton_append, quotedLength?_doubled] at h
      have := lt_of_quotedLength? h
      simp at this

end Quoted

theorem quotedShape_resume {quote : CodePoint} {kind kind' : TokenKind} {u r s : Text}
    (hnil : r = [] → s = []) (hs : s.head? = some quote → r.head? = some quote)
    (h : quotedShape quote kind (u ++ r) = (kind', u.length)) :
    quotedShape quote kind (u ++ s) = (kind', u.length) := by
  unfold quotedShape at h ⊢
  cases hr : quotedLength? quote 0 (u ++ r) with
  | none =>
    rw [hr] at h
    simp only [Prod.mk.injEq, List.length_append] at h
    have hr' : r = [] := List.eq_nil_of_length_eq_zero (by omega)
    rw [hnil hr', ← hr', hr, ← h.1]
    simp [hr']
  | some n =>
    rw [hr] at h
    cases h
    have := quotedLength?_resume (n := 0) hs (by rw [hr, Nat.zero_add])
    rw [this, Nat.zero_add]

/-! ## Braces -/

theorem takeWhile_append_of_exists {α : Type} {p : α → Bool} {u r : List α}
    (h : ∃ c ∈ u, p c = false) : (u ++ r).takeWhile p = u.takeWhile p := by
  have hlen : (u.takeWhile p).length ≠ u.length := by
    intro hlen
    obtain ⟨c, hmem, hc⟩ := h
    rw [← (List.takeWhile_prefix p).eq_of_length hlen] at hmem
    rw [List.mem_takeWhile_imp hmem] at hc
    cases hc
  rw [List.takeWhile_append, if_neg hlen]

/-- **A brace looks no further than the next brace.** -/
theorem parameterLength?_append {u : Text} (h : ∃ d ∈ u, isBrace d) (r : Text) :
    parameterLength? (u ++ r) = parameterLength? u := by
  have htake : (u ++ r).takeWhile (fun c => ! isBrace c) = u.takeWhile fun c => ! isBrace c := by
    obtain ⟨d, hmem, hd⟩ := h
    exact takeWhile_append_of_exists ⟨d, hmem, by rw [hd]; rfl⟩
  have hle : (u.takeWhile fun c => ! isBrace c).length ≤ u.length :=
    (List.takeWhile_sublist _).length_le
  unfold parameterLength?
  dsimp only
  rw [htake, List.drop_append_of_le_length hle]
  cases hdrop : u.drop (u.takeWhile fun c => ! isBrace c).length with
  | nil =>
    -- all of `u` would be free of braces
    obtain ⟨d, hmem, hd⟩ := h
    have hall : (u.takeWhile fun c => ! isBrace c) = u :=
      (List.takeWhile_prefix _).eq_of_length_le (List.drop_eq_nil_iff.1 hdrop)
    rw [← hall] at hmem
    have := List.mem_takeWhile_imp hmem
    rw [hd] at this
    cases this
  | cons c more => rfl

theorem parameterLength?_le {t : Text} {n : Nat} (h : parameterLength? t = some n) :
    n ≤ t.length := by
  unfold parameterLength? at h
  dsimp only at h
  split at h
  · cases h
  case h_2 c more hdrop =>
    have hlen := congrArg List.length hdrop
    rw [List.length_drop, List.length_cons] at hlen
    split at h
    · cases h
      omega
    · cases h

/-- A parameter is one whatever follows. -/
theorem parameterLength?_resume {u r : Text} (h : parameterLength? (u ++ r) = some u.length)
    (s : Text) : parameterLength? (u ++ s) = some u.length := by
  have hbrace : ∃ d ∈ u, isBrace d := by
    by_contra hnone
    have hu : ∀ d ∈ u, (! isBrace d) = true := by
      intro d hd
      by_contra hbrace
      exact hnone ⟨d, hd, by simpa using hbrace⟩
    unfold parameterLength? at h
    dsimp only at h
    rw [List.takeWhile_append_of_pos hu] at h
    split at h
    · cases h
    · split at h
      · simp at h
        omega
      · cases h
  rw [parameterLength?_append hbrace] at h ⊢
  exact h

/-! ## Numbers -/

/-- A text that no number goes on with. -/
def EndsNumber (r : Text) : Prop :=
  ∀ c, r.head? = some c → isNameChar c = false ∧ c ≠ CodePoint.ofChar '.' ∧
    c ≠ CodePoint.ofChar '+' ∧ c ≠ CodePoint.ofChar '-'

theorem EndsNumber.any_head {r : Text} (h : EndsNumber r) {p : CodePoint → Bool}
    (hp : ∀ c, p c → isNameChar c) : r.head?.any p = false := by
  cases hr : r.head? with
  | none => rfl
  | some c =>
    by_contra hc
    have := hp c (by simpa using hc)
    rw [(h c hr).1] at this
    cases this

theorem digitsLength_append {r : Text} (h : r.head?.any CodePoint.isDecimal = false) (t : Text) :
    digitsLength (t ++ r) = digitsLength t := by
  rw [digitsLength, takeWhile_append_of_head h, digitsLength]

theorem nameLength_append {r : Text} (h : r.head?.any isNameChar = false) (t : Text) :
    nameLength (t ++ r) = nameLength t := by
  rw [nameLength, takeWhile_append_of_head h, nameLength]

theorem digitsLength_le (t : Text) : digitsLength t ≤ t.length :=
  (List.takeWhile_sublist _).length_le

theorem nameLength_le (t : Text) : nameLength t ≤ t.length :=
  (List.takeWhile_sublist _).length_le

/-- Without a digit at its start, a text starts with no digits. -/
theorem digitsLength_eq_zero {t : Text} (h : t.head?.any CodePoint.isDecimal = false) :
    digitsLength t = 0 := by
  have := digitsLength_append h []
  simpa [digitsLength] using this

theorem decimalLength_le (t : Text) : decimalLength t ≤ t.length := by
  have hwhole := digitsLength_le t
  unfold decimalLength
  dsimp only
  split
  · exact hwhole
  case h_2 c rest hdrop =>
    have hlen := congrArg List.length hdrop
    have := digitsLength_le rest
    simp only [List.length_drop, List.length_cons] at hlen
    split <;> omega

theorem exponentLength_le (t : Text) : exponentLength t ≤ t.length := by
  unfold exponentLength
  split
  · exact Nat.le_refl 0
  case h_2 e rest =>
    split
    · split
      · exact Nat.zero_le _
      case h_2 sign digits =>
        have h₁ := digitsLength_le digits
        have h₂ := digitsLength_le (sign :: digits)
        simp only [List.length_cons] at h₂ ⊢
        split <;> split <;> omega
    · exact Nat.zero_le _

theorem hexLength_le (t : Text) : hexLength t ≤ t.length := by
  unfold hexLength
  split
  case h_1 zero x rest =>
    have : (rest.takeWhile CodePoint.isHexDigit).length ≤ rest.length :=
      (List.takeWhile_sublist _).length_le
    dsimp only
    split
    · simp only [List.length_cons]; omega
    · exact Nat.zero_le _
  · exact Nat.zero_le _

theorem numberLength_le (t : Text) : numberLength t ≤ t.length := by
  have h₁ := decimalLength_le t
  have h₂ := exponentLength_le (t.drop (decimalLength t))
  rw [List.length_drop] at h₂
  unfold numberLength
  split
  · exact hexLength_le t
  · omega

section EndsNumber

variable {r : Text} (hr : EndsNumber r) (t : Text)

include hr

theorem EndsNumber.isDecimal_head : r.head?.any CodePoint.isDecimal = false :=
  hr.any_head fun _ => isNameChar_of_isDecimal

theorem decimalLength_append : decimalLength (t ++ r) = decimalLength t := by
  have hdigits := digitsLength_append hr.isDecimal_head
  unfold decimalLength
  dsimp only
  rw [hdigits, List.drop_append_of_le_length (digitsLength_le t)]
  cases t.drop (digitsLength t) with
  | nil =>
    rw [List.nil_append]
    cases r with
    | nil => rfl
    | cons c r =>
      have hpoint : c ≠ CodePoint.ofChar '.' := (hr c rfl).2.1
      dsimp only
      rw [if_neg fun h => hpoint h.1]
  | cons c rest =>
    dsimp only [List.cons_append]
    rw [hdigits]

theorem exponentLength_append : exponentLength (t ++ r) = exponentLength t := by
  have hdigits := digitsLength_append hr.isDecimal_head
  cases t with
  | nil =>
    rw [List.nil_append]
    cases r with
    | nil => rfl
    | cons c r =>
      have hname : isNameChar c = false := (hr c rfl).1
      refine if_neg ?_
      rintro (rfl | rfl) <;> (revert hname; decide)
  | cons e t =>
    cases t with
    | nil =>
      cases r with
      | nil => rfl
      | cons c r =>
        obtain ⟨-, -, hplus, hminus⟩ := hr c rfl
        have hsign : ¬ (c = CodePoint.ofChar '+' ∨ c = CodePoint.ofChar '-') := by
          rintro (h | h)
          · exact hplus h
          · exact hminus h
        simp only [exponentLength, List.cons_append, List.nil_append, if_neg hsign,
          digitsLength_eq_zero hr.isDecimal_head, if_true]
    | cons sign t =>
      have hsigned := hdigits (sign :: t)
      simp only [exponentLength, List.cons_append, hdigits] at hsigned ⊢
      rw [hsigned]

theorem hexLength_append : hexLength (t ++ r) = hexLength t := by
  have hhex := hr.any_head (p := CodePoint.isHexDigit) fun _ => isNameChar_of_isHexDigit
  match t with
  | zero :: x :: t => simp only [hexLength, List.cons_append, takeWhile_append_of_head hhex]
  | [zero] =>
    match r with
    | [] => rfl
    | x :: r =>
      have hname : isNameChar x = false := (hr x rfl).1
      refine if_neg ?_
      rintro ⟨-, (rfl | rfl), -⟩ <;> (revert hname; decide)
  | [] =>
    match r with
    | [] | [_] => rfl
    | zero :: x :: r =>
      have hname : isNameChar zero = false := (hr zero rfl).1
      refine if_neg ?_
      rintro ⟨rfl, -⟩
      revert hname
      decide

/-- **A number looks no further** than a character that no number goes on with. -/
theorem numberLength_append : numberLength (t ++ r) = numberLength t := by
  unfold numberLength
  rw [hexLength_append hr, decimalLength_append hr,
    List.drop_append_of_le_length (decimalLength_le t), exponentLength_append hr]

theorem numberShape_append (before : Option CodePoint) (c : CodePoint) :
    numberShape before c (t ++ r) = numberShape before c t := by
  have hname := hr.any_head (p := isNameChar) fun _ h => h
  unfold numberShape
  dsimp only
  rw [← List.cons_append, numberLength_append hr, nameLength_append hname,
    List.drop_append_of_le_length (numberLength_le (c :: t))]
  cases (c :: t).drop (numberLength (c :: t)) with
  | nil =>
    rw [List.nil_append, hname]
    rfl
  | cons d rest => rfl

end EndsNumber

/-! ## Tokens -/

/-- Whether a text starts with a digit, or with a point before a digit. -/
def StartsNumber (c : CodePoint) (rest : Text) : Prop :=
  c.isDecimal ∨ (c = CodePoint.ofChar '.' ∧ rest.head?.any CodePoint.isDecimal)

instance (c : CodePoint) (rest : Text) : Decidable (StartsNumber c rest) :=
  inferInstanceAs (Decidable (_ ∨ _))

theorem shape_eq (before : Option CodePoint) (c : CodePoint) (rest : Text) :
    shape before c rest =
      if c.isBlank then (.whitespace, (rest.takeWhile CodePoint.isBlank).length)
      else if c = CodePoint.ofChar '-' ∧ rest.head? = some (CodePoint.ofChar '-') then
        (.comment, (rest.takeWhile (· ≠ CodePoint.lineFeed)).length)
      else if c = CodePoint.ofChar '/' ∧ rest.head? = some (CodePoint.ofChar '*') then
        (.comment, blockCommentLength 1 (rest.drop 1))
      else if c = CodePoint.quote then quotedShape c .literal rest
      else if c = CodePoint.doubleQuote ∨ c = CodePoint.backQuote then
        quotedShape c .quotedIdentifier rest
      else if c = CodePoint.ofChar '{' then
        match parameterLength? rest with
        | some n => (.parameterSpan, n)
        | none => (.punctuation, 0)
      else if StartsNumber c rest then numberShape before c rest
      else if isNameChar c then (.identifier, nameLength rest)
      else (.punctuation, 0) :=
  rfl

section Shape

variable {before before₂ : Option CodePoint} {c : CodePoint} {u r s rest : Text} {kind : TokenKind}

/-- Where a name, a number or a point starts, nothing else does. -/
theorem shape_of_nameChar_or_point (hc : isNameChar c ∨ c = CodePoint.ofChar '.') :
    shape before c rest =
      if StartsNumber c rest then numberShape before c rest
      else if isNameChar c then (.identifier, nameLength rest)
      else (.punctuation, 0) := by
  have hblank : ¬ c.isBlank := by
    intro hblank
    rcases hc with hc | rfl
    · rw [isNameChar_of_isBlank hblank] at hc; cases hc
    · revert hblank; decide
  have hother : ∀ d ∈ [CodePoint.ofChar '-', CodePoint.ofChar '/', CodePoint.quote,
      CodePoint.doubleQuote, CodePoint.backQuote, CodePoint.ofChar '{'],
      isNameChar d = false ∧ d ≠ CodePoint.ofChar '.' := by decide
  have hne : ∀ d ∈ [CodePoint.ofChar '-', CodePoint.ofChar '/', CodePoint.quote,
      CodePoint.doubleQuote, CodePoint.backQuote, CodePoint.ofChar '{'], c ≠ d := by
    rintro d hd rfl
    rcases hc with hc | hc
    · rw [(hother c hd).1] at hc; cases hc
    · exact (hother c hd).2 hc
  simp only [List.forall_mem_cons] at hne
  obtain ⟨h₁, h₂, h₃, h₄, h₅, h₆, -⟩ := hne
  rw [shape_eq, if_neg hblank, if_neg fun h => h₁ h.1, if_neg fun h => h₂ h.1, if_neg h₃,
    if_neg (by rintro (h | h); exacts [h₄ h, h₅ h]), if_neg h₆]

theorem shape_of_startsNumber (h : StartsNumber c rest) :
    shape before c rest = numberShape before c rest := by
  have hc : isNameChar c ∨ c = CodePoint.ofChar '.' := by
    rcases h with h | ⟨h, -⟩
    · exact .inl (isNameChar_of_isDecimal h)
    · exact .inr h
  rw [shape_of_nameChar_or_point hc, if_pos h]

theorem shape_of_name (hc : isNameChar c) (hdecimal : c.isDecimal = false) :
    shape before c rest = (.identifier, nameLength rest) := by
  have hnumber : ¬ StartsNumber c rest := by
    rintro (h | ⟨rfl, -⟩)
    · rw [hdecimal] at h; cases h
    · exact absurd hc (by decide)
  rw [shape_of_nameChar_or_point (.inl hc), if_neg hnumber, if_pos hc]

theorem shape_of_brace :
    shape before '{' rest =
      match parameterLength? rest with
      | some n => (.parameterSpan, n)
      | none => (.punctuation, 0) :=
  rfl

/-- A brace starts a parameter, or is a sign of its own. -/
theorem brace_of_shape (h : shape before '{' (u ++ r) = (kind, u.length)) :
    (kind = .parameterSpan ∧ parameterLength? (u ++ r) = some u.length) ∨
      (kind = .punctuation ∧ u = [] ∧ parameterLength? r = none) := by
  rw [shape_of_brace] at h
  cases hlen : parameterLength? (u ++ r) with
  | some n =>
    rw [hlen] at h
    obtain ⟨rfl, rfl⟩ := Prod.mk.inj h
    exact .inl ⟨rfl, rfl⟩
  | none =>
    rw [hlen] at h
    obtain ⟨rfl, hu⟩ := Prod.mk.inj h
    obtain rfl := List.eq_nil_of_length_eq_zero hu.symm
    exact .inr ⟨rfl, rfl, hlen⟩

/-- **One character behind a token is all that most tokens look at**: the token stays as it is if
    what follows resumes, whatever stands before it. -/
theorem shape_resume (h : shape before c (u ++ r) = (kind, u.length)) (hrs : Resumes r s)
    (hnumber : ¬ StartsNumber c (u ++ r)) (hbrace : c ≠ CodePoint.ofChar '{') :
    shape before₂ c (u ++ s) = (kind, u.length) := by
  rw [shape_eq] at h ⊢
  by_cases h₁ : c.isBlank
  · rw [if_pos h₁] at h ⊢
    obtain ⟨rfl, hlen⟩ := Prod.mk.inj h
    rw [hrs.length_takeWhile (by decide) hlen]
  rw [if_neg h₁] at h ⊢
  by_cases h₂ : c = CodePoint.ofChar '-' ∧ (u ++ r).head? = some (CodePoint.ofChar '-')
  · rw [if_pos h₂] at h
    obtain ⟨rfl, hlen⟩ := Prod.mk.inj h
    cases u with
    | nil =>
      have hend := (run_of_length_takeWhile hlen).2
      rw [List.nil_append] at h₂
      rw [h₂.2] at hend
      exact absurd hend (by decide)
    | cons d u =>
      obtain ⟨hline, hend⟩ := run_of_length_takeWhile hlen
      rw [if_pos ⟨h₂.1, h₂.2⟩, length_takeWhile_of_run hline (hrs.any_head_of_lineEnd hend)]
  rw [if_neg h₂] at h
  rw [if_neg fun hs => h₂ ⟨hs.1, hrs.head_append (by decide) hs.2⟩]
  by_cases h₃ : c = CodePoint.ofChar '/' ∧ (u ++ r).head? = some (CodePoint.ofChar '*')
  · rw [if_pos h₃] at h
    obtain ⟨rfl, hlen⟩ := Prod.mk.inj h
    cases u with
    | nil =>
      have := le_blockCommentLength 1 (r.drop 1)
      rw [List.nil_append, List.length_nil] at hlen
      omega
    | cons d u =>
      rw [if_pos ⟨h₃.1, h₃.2⟩]
      rw [List.cons_append, List.drop_one, List.tail_cons, List.length_cons] at hlen ⊢
      rw [blockCommentLength_resume hrs.nil (by omega), Nat.add_comm]
  rw [if_neg h₃] at h
  rw [if_neg fun hs => h₃ ⟨hs.1, hrs.head_append (by decide) hs.2⟩]
  by_cases h₄ : c = CodePoint.quote
  · rw [if_pos h₄] at h ⊢
    exact quotedShape_resume hrs.nil (hrs.head_eq (by rw [h₄]; decide)) h
  rw [if_neg h₄] at h ⊢
  by_cases h₅ : c = CodePoint.doubleQuote ∨ c = CodePoint.backQuote
  · rw [if_pos h₅] at h ⊢
    refine quotedShape_resume hrs.nil (hrs.head_eq ?_) h
    rcases h₅ with rfl | rfl <;> decide
  rw [if_neg h₅, if_neg hbrace, if_neg hnumber] at h
  have hnumber' : ¬ StartsNumber c (u ++ s) := by
    rintro (hs | ⟨hc, hs⟩)
    · exact hnumber (.inl hs)
    · exact hnumber (.inr ⟨hc, hrs.any_head_append (by decide) hs⟩)
  rw [if_neg h₅, if_neg hbrace, if_neg hnumber']
  by_cases h₆ : isNameChar c
  · rw [if_pos h₆] at h ⊢
    obtain ⟨rfl, hlen⟩ := Prod.mk.inj h
    rw [nameLength, hrs.length_takeWhile (by decide) hlen]
  rw [if_neg h₆] at h ⊢
  exact h

/-- A parameter span stays one whatever follows. -/
theorem shape_span_resume (h : shape before '{' (u ++ r) = (.parameterSpan, u.length)) :
    shape before₂ '{' (u ++ s) = (.parameterSpan, u.length) := by
  rw [shape_of_brace] at h ⊢
  cases hlen : parameterLength? (u ++ r) with
  | none => rw [hlen] at h; cases h
  | some n =>
    rw [hlen] at h
    cases h
    rw [parameterLength?_resume hlen s]

/-- No token goes beyond the text. -/
theorem shape_le (before : Option CodePoint) (c : CodePoint) (rest : Text) :
    (shape before c rest).2 ≤ rest.length := by
  have hrun : ∀ p : CodePoint → Bool, (rest.takeWhile p).length ≤ rest.length :=
    fun p => (List.takeWhile_sublist p).length_le
  have hquoted : ∀ kind, (quotedShape c kind rest).2 ≤ rest.length := by
    intro kind
    unfold quotedShape
    cases h : quotedLength? c 0 rest with
    | none => exact Nat.le_refl _
    | some n => simpa using quotedLength?_le h
  rw [shape_eq]
  split_ifs with h₁ h₂ h₃ h₄ h₅ h₆ h₇ h₈
  · exact hrun _
  · exact hrun _
  · obtain ⟨more, rfl⟩ := List.head?_eq_some_iff.1 h₃.2
    have := blockCommentLength_le 1 more
    rw [List.length_cons]
    exact this.trans (by omega)
  · exact hquoted _
  · exact hquoted _
  · cases h : parameterLength? rest with
    | none => exact Nat.zero_le _
    | some n => exact parameterLength?_le h
  · have hnumber := numberLength_le (c :: rest)
    rw [List.length_cons] at hnumber
    have hname := nameLength_le rest
    unfold numberShape
    dsimp only
    split_ifs <;> first | exact Nat.zero_le _ | exact hname | (dsimp only; omega)
  · exact nameLength_le rest
  · exact Nat.zero_le _

/-! ## Cutting -/

/-- A token of a given shape comes first, and what follows it is cut on its own. -/
theorem tokensFrom_of_shape (h : shape before c (u ++ r) = (kind, u.length)) :
    tokensFrom before (c :: (u ++ r)) = ⟨kind, c :: u⟩ :: tokensFrom (c :: u).getLast? r := by
  have hfirst : firstToken before c (u ++ r) = ⟨kind, c :: u⟩ := by
    rw [firstToken, h, List.take_left]
  rw [tokensFrom_cons, hfirst]
  simp

/-- Every text that is not empty starts with a token. -/
theorem exists_shape (before : Option CodePoint) (c : CodePoint) (rest : Text) :
    ∃ kind u r, rest = u ++ r ∧ shape before c (u ++ r) = (kind, u.length) := by
  refine ⟨(shape before c rest).1, rest.take (shape before c rest).2,
    rest.drop (shape before c rest).2, (List.take_append_drop _ _).symm, ?_⟩
  rw [List.take_append_drop, List.length_take, Nat.min_eq_left (shape_le before c rest)]

/-- Induction on a text follows its tokens. -/
theorem tokensFrom_induction {motive : Option CodePoint → Text → Prop}
    (nil : ∀ before, motive before [])
    (token : ∀ before c u r kind, shape before c (u ++ r) = (kind, u.length) →
      motive (c :: u).getLast? r → motive before (c :: (u ++ r)))
    (before : Option CodePoint) (t : Text) : motive before t := by
  induction h : t.length using Nat.strongRecOn generalizing before t with
  | ind n ih =>
    subst h
    cases t with
    | nil => exact nil before
    | cons c rest =>
      obtain ⟨kind, u, r, rfl, hshape⟩ := exists_shape before c rest
      have hlt : r.length < (c :: (u ++ r)).length := by
        rw [List.length_cons, List.length_append]
        omega
      exact token before c u r kind hshape (ih _ hlt _ _ rfl)

end Shape

end Redaction.Sql
