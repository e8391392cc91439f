/-
  Numbers and the names that touch them.

  A number is a literal only if no name goes on where it ends.

  * `nameAfterNumber`: whether a name goes on behind the number that a text starts with, and
    `nameAfterExponent` behind the exponent;
  * `nameAfterNumber_run`, `nameAfterNumber_point` and `nameAfterNumber_digits_point` find the end of
    a number that starts with a run of name characters, with a point, or with digits and a point;
  * `nameAfterExponent_append`: an exponent looks no further than a name that is longer than its
    letter.
-/
import Redaction.Proofs.Sql.Shape

namespace Redaction.Sql

/-- Whether a name goes on where the number that a text starts with ends. -/
def nameAfterNumber (t : Text) : Bool := (t.drop (numberLength t)).head?.any isNameChar

/-- Whether a name goes on where the exponent that a text starts with ends. -/
def nameAfterExponent (t : Text) : Bool := (t.drop (exponentLength t)).head?.any isNameChar

/-- A number behind no name is a literal unless it touches one. -/
theorem numberShape_of_not_continuesName {before : Option CodePoint}
    (h : continuesName before = false) (c : CodePoint) (rest : Text) :
    numberShape before c rest =
      if nameAfterNumber (c :: rest) then
        (.identifier, if c = CodePoint.ofChar '.' then 0 else nameLength rest)
      else (.literal, numberLength (c :: rest) - 1) := by
  unfold numberShape
  rw [h]
  rfl

theorem numberShape_of_continuesName {before : Option CodePoint} (h : continuesName before)
    (c : CodePoint) (rest : Text) :
    numberShape before c rest =
      if c = CodePoint.ofChar '.' then (.punctuation, 0) else (.identifier, nameLength rest) := by
  unfold numberShape
  rw [if_pos h]

theorem any_head_append {α : Type} {p : α → Bool} {w : List α} (hw : w.head?.any p = false)
    (v : List α) : (v ++ w).head?.any p = v.head?.any p := by
  cases v with
  | nil => rw [List.nil_append, hw]; rfl
  | cons c v => rfl

theorem any_isDecimal_of_any_isNameChar {w : Text} (hw : w.head?.any isNameChar = false) :
    w.head?.any CodePoint.isDecimal = false := by
  cases w with
  | nil => rfl
  | cons c w =>
    by_contra hc
    have hname := isNameChar_of_isDecimal (c := c) (by simpa using hc)
    rw [List.head?_cons, Option.any_some, hname] at hw
    cases hw

/-! ## Where a number ends -/

theorem digitsLength_append_of_digits {digits w : Text} (h : ∀ d ∈ digits, d.isDecimal)
    (hw : w.head?.any CodePoint.isDecimal = false) : digitsLength (digits ++ w) = digits.length :=
  length_takeWhile_of_run h hw

theorem hexLength_eq_zero {t : Text}
    (h : ∀ x ∈ t.tail.head?, x ≠ CodePoint.ofChar 'x' ∧ x ≠ CodePoint.ofChar 'X') :
    hexLength t = 0 := by
  match t with
  | [] | [_] => rfl
  | zero :: x :: rest =>
    obtain ⟨h₁, h₂⟩ := h x rfl
    refine if_neg ?_
    rintro ⟨-, (hx | hx), -⟩
    · exact h₁ hx
    · exact h₂ hx

theorem hexLength_cons_of_ne {c : CodePoint} (hc : c ≠ CodePoint.ofChar '0') (rest : Text) :
    hexLength (c :: rest) = 0 := by
  cases rest with
  | nil => rfl
  | cons x rest => exact if_neg fun h => hc h.1

theorem decimalLength_of_point {t rest : Text}
    (h : t.drop (digitsLength t) = CodePoint.ofChar '.' :: rest)
    (hdigits : digitsLength t ≠ 0 ∨ digitsLength rest ≠ 0) :
    decimalLength t = digitsLength t + 1 + digitsLength rest := by
  unfold decimalLength
  dsimp only
  rw [h]
  exact if_pos ⟨rfl, hdigits⟩

theorem hexLength_digits_append {digits w : Text} (hne : digits ≠ [])
    (h : ∀ d ∈ digits, d.isDecimal)
    (hw : ∀ x ∈ w.head?, x ≠ CodePoint.ofChar 'x' ∧ x ≠ CodePoint.ofChar 'X') :
    hexLength (digits ++ w) = 0 := by
  refine hexLength_eq_zero ?_
  match digits with
  | [] => exact absurd rfl hne
  | [d] => exact hw
  | d :: e :: digits =>
    intro x hx
    obtain rfl : e = x := Option.some.inj hx
    have he := h e (by simp)
    constructor <;> (rintro rfl; revert he; decide)

/-- Behind digits, an exponent is all that a number goes on with, unless a point follows. -/
theorem nameAfterNumber_digits {digits w : Text} (h : ∀ d ∈ digits, d.isDecimal)
    (hw : w.head?.any CodePoint.isDecimal = false)
    (hpoint : w.head? ≠ some (CodePoint.ofChar '.')) (hhex : hexLength (digits ++ w) = 0) :
    nameAfterNumber (digits ++ w) = nameAfterExponent w := by
  have hdecimal : decimalLength (digits ++ w) = digits.length := by
    unfold decimalLength
    dsimp only
    rw [digitsLength_append_of_digits h hw, List.drop_left]
    cases w with
    | nil => rfl
    | cons c w => exact if_neg fun hc => hpoint (by rw [hc.1]; rfl)
  have hnumber : numberLength (digits ++ w) = digits.length + exponentLength w := by
    unfold numberLength
    rw [hhex, hdecimal, List.drop_left]
    rfl
  rw [nameAfterNumber, hnumber, List.drop_length_add_append, nameAfterExponent]

/-- So it is behind a point with digits. -/
theorem nameAfterNumber_point {digits w : Text} (hne : digits ≠ [])
    (h : ∀ d ∈ digits, d.isDecimal) (hw : w.head?.any CodePoint.isDecimal = false) :
    nameAfterNumber (CodePoint.ofChar '.' :: (digits ++ w)) = nameAfterExponent w := by
  have hpoint : (CodePoint.ofChar '.').isDecimal = false := by decide
  have hlen : digitsLength (digits ++ w) = digits.length := digitsLength_append_of_digits h hw
  have hwhole : digitsLength (CodePoint.ofChar '.' :: (digits ++ w)) = 0 :=
    digitsLength_eq_zero (by simpa using hpoint)
  have hdigits : digitsLength (digits ++ w) ≠ 0 := by
    rw [hlen]
    simpa using hne
  have hdecimal : decimalLength (CodePoint.ofChar '.' :: (digits ++ w)) = 1 + digits.length := by
    rw [decimalLength_of_point (by rw [hwhole, List.drop_zero]) (.inr hdigits), hwhole, hlen,
      Nat.zero_add]
  have hhex : hexLength (CodePoint.ofChar '.' :: (digits ++ w)) = 0 :=
    hexLength_cons_of_ne (by decide) _
  have hnumber : numberLength (CodePoint.ofChar '.' :: (digits ++ w)) =
      digits.length + exponentLength w + 1 := by
    unfold numberLength
    rw [hhex, hdecimal, Nat.add_comm 1, List.drop_succ_cons, List.drop_left]
    simp only [ne_eq, not_true_eq_false, if_false]
    omega
  rw [nameAfterNumber, hnumber, List.drop_succ_cons, List.drop_length_add_append, nameAfterExponent]

/-- And behind digits with a point. -/
theorem nameAfterNumber_digits_point {digits w : Text} (hne : digits ≠ [])
    (h : ∀ d ∈ digits, d.isDecimal) :
    nameAfterNumber (digits ++ CodePoint.ofChar '.' :: w) =
      nameAfterExponent (w.drop (digitsLength w)) := by
  have hpoint : (CodePoint.ofChar '.').isDecimal = false := by decide
  have hwhole : digitsLength (digits ++ CodePoint.ofChar '.' :: w) = digits.length :=
    digitsLength_append_of_digits h (by simpa using hpoint)
  have hlen : digits.length ≠ 0 := by simpa using hne
  have hdecimal : decimalLength (digits ++ CodePoint.ofChar '.' :: w) =
      digits.length + (digitsLength w + 1) := by
    rw [decimalLength_of_point (by rw [hwhole, List.drop_left]) (.inl (by rwa [hwhole])), hwhole]
    omega
  have hhex : hexLength (digits ++ CodePoint.ofChar '.' :: w) = 0 := by
    refine hexLength_digits_append hne h ?_
    intro x hx
    obtain rfl : CodePoint.ofChar '.' = x := Option.some.inj hx
    decide
  have hnumber : numberLength (digits ++ CodePoint.ofChar '.' :: w) =
      digits.length + (digitsLength w + exponentLength (w.drop (digitsLength w)) + 1) := by
    unfold numberLength
    rw [hhex, hdecimal, List.drop_length_add_append, List.drop_succ_cons]
    simp only [ne_eq, not_true_eq_false, if_false]
    omega
  rw [nameAfterNumber, hnumber, List.drop_length_add_append, List.drop_succ_cons, ← List.drop_drop,
    nameAfterExponent]

/-! ## Exponents -/

theorem exponentLength_eq_zero {x : CodePoint} (w : Text)
    (hx : ¬ (x = CodePoint.ofChar 'e' ∨ x = CodePoint.ofChar 'E')) :
    exponentLength (x :: w) = 0 :=
  if_neg hx

/-- Where no exponent is, the name that a text starts with goes on. -/
theorem nameAfterExponent_of_zero {x : CodePoint} {w : Text} (hx : isNameChar x)
    (h : exponentLength (x :: w) = 0) : nameAfterExponent (x :: w) := by
  rw [nameAfterExponent, h]
  exact hx

/-- What starts with no name has no exponent, and no name goes on there. -/
theorem nameAfterExponent_eq_false {w : Text} (hw : w.head?.any isNameChar = false) :
    nameAfterExponent w = false := by
  have hexponent : exponentLength w = 0 := by
    cases w with
    | nil => rfl
    | cons c w =>
      have hc : isNameChar c = false := by simpa using hw
      refine exponentLength_eq_zero w ?_
      rintro (rfl | rfl) <;> (revert hc; decide)
  rw [nameAfterExponent, hexponent, List.drop_zero, hw]

/-- An exponent of a signed number, whose sign and digits are behind its letter. -/
theorem exponentLength_signed {x sign : CodePoint} {digits : Text}
    (hx : x = CodePoint.ofChar 'e' ∨ x = CodePoint.ofChar 'E')
    (hsign : sign = CodePoint.ofChar '+' ∨ sign = CodePoint.ofChar '-')
    (hdigits : digitsLength digits ≠ 0) :
    exponentLength (x :: sign :: digits) = digitsLength digits + 2 := by
  simp only [exponentLength]
  rw [if_pos hx, if_pos hsign, if_neg hdigits]

/-- A letter alone makes an exponent only with a sign and digits behind it. -/
theorem signed_of_exponentLength {x : CodePoint} {w : Text}
    (hw : w.head?.any CodePoint.isDecimal = false) (h : exponentLength (x :: w) ≠ 0) :
    (x = CodePoint.ofChar 'e' ∨ x = CodePoint.ofChar 'E') ∧
      ∃ sign digits, w = sign :: digits ∧
        (sign = CodePoint.ofChar '+' ∨ sign = CodePoint.ofChar '-') ∧ digitsLength digits ≠ 0 := by
  have hx : x = CodePoint.ofChar 'e' ∨ x = CodePoint.ofChar 'E' := by
    by_contra hx
    exact h (exponentLength_eq_zero w hx)
  refine ⟨hx, ?_⟩
  cases w with
  | nil =>
    exfalso
    refine h ?_
    simp only [exponentLength, ite_self]
  | cons sign digits =>
    simp only [exponentLength, if_pos hx] at h
    by_cases hsign : sign = CodePoint.ofChar '+' ∨ sign = CodePoint.ofChar '-'
    · rw [if_pos hsign] at h
      refine ⟨sign, digits, rfl, hsign, ?_⟩
      intro hzero
      exact h (if_pos hzero)
    · rw [if_neg hsign] at h
      exact absurd (if_pos (digitsLength_eq_zero hw)) h

/-- **An exponent looks no further** than a name that is longer than its letter. -/
theorem nameAfterExponent_append {x d : CodePoint} {name w : Text}
    (hname : ∀ c ∈ d :: name, isNameChar c) (hw : w.head?.any isNameChar = false) :
    nameAfterExponent (x :: d :: name ++ w) = nameAfterExponent (x :: d :: name) := by
  have hd : isNameChar d := hname d List.mem_cons_self
  have hsign : ¬ (d = CodePoint.ofChar '+' ∨ d = CodePoint.ofChar '-') := by
    rintro (rfl | rfl) <;> (revert hd; decide)
  have hdigits : digitsLength (d :: name ++ w) = digitsLength (d :: name) :=
    digitsLength_append (any_isDecimal_of_any_isNameChar hw) _
  have hexponent : exponentLength (x :: d :: name ++ w) = exponentLength (x :: d :: name) := by
    simp only [exponentLength, List.cons_append, if_neg hsign] at hdigits ⊢
    rw [hdigits]
  rw [nameAfterExponent, hexponent, List.drop_append_of_le_length (exponentLength_le _),
    any_head_append hw, nameAfterExponent]

/-- Nor does an exponent with a sign, where a name starts behind the sign. -/
theorem nameAfterExponent_signed {x sign d : CodePoint} {name w : Text}
    (hx : x = CodePoint.ofChar 'e' ∨ x = CodePoint.ofChar 'E')
    (hsign : sign = CodePoint.ofChar '+' ∨ sign = CodePoint.ofChar '-') (hd : d.isDecimal)
    (hw : w.head?.any isNameChar = false) :
    nameAfterExponent (x :: sign :: (d :: name ++ w)) =
      ((d :: name).drop (digitsLength (d :: name))).head?.any isNameChar := by
  have hdigits : digitsLength (d :: name ++ w) = digitsLength (d :: name) :=
    digitsLength_append (any_isDecimal_of_any_isNameChar hw) _
  have hne : digitsLength (d :: name) ≠ 0 := by
    rw [digitsLength, List.takeWhile_cons_of_pos hd]
    exact Nat.succ_ne_zero _
  rw [nameAfterExponent, exponentLength_signed hx hsign (hdigits ▸ hne), hdigits,
    List.drop_succ_cons, List.drop_succ_cons, List.drop_append_of_le_length (digitsLength_le _),
    any_head_append hw]

/-! ## Runs of name characters -/

/-- A run that starts with a digit is made of digits and of what is no digit at its start. -/
theorem exists_digits {c : CodePoint} (hc : c.isDecimal) (u : Text) :
    ∃ digits name, c :: u = digits ++ name ∧ digits ≠ [] ∧ (∀ d ∈ digits, d.isDecimal) ∧
      name.head?.any CodePoint.isDecimal = false := by
  refine ⟨(c :: u).takeWhile CodePoint.isDecimal, (c :: u).dropWhile CodePoint.isDecimal,
    List.takeWhile_append_dropWhile.symm, ?_, fun d hd => List.mem_takeWhile_imp hd, ?_⟩
  · rw [List.takeWhile_cons_of_pos hc]
    exact List.cons_ne_nil _ _
  · have hend := List.head?_dropWhile_not CodePoint.isDecimal (c :: u)
    cases hhead : ((c :: u).dropWhile CodePoint.isDecimal).head? with
    | none => rfl
    | some d =>
      rw [hhead] at hend
      exact hend

theorem cons_append_of_split {c : CodePoint} {u digits name : Text} (h : c :: u = digits ++ name)
    (w : Text) : c :: (u ++ w) = digits ++ (name ++ w) := by
  rw [← List.cons_append, h, List.append_assoc]

/-- Where a run of name characters starts with digits but goes on with others, the number in it ends
    in the run, or goes on with an exponent. -/
theorem nameAfterNumber_run {digits name w : Text} {x : CodePoint} (hne : digits ≠ [])
    (h : ∀ d ∈ digits, d.isDecimal) (hx : x.isDecimal = false)
    (hname : ∀ c ∈ x :: name, isNameChar c) (hw : w.head?.any isNameChar = false) :
    nameAfterNumber (digits ++ (x :: name ++ w)) =
      if hexLength (digits ++ x :: name) ≠ 0 then nameAfterNumber (digits ++ x :: name)
      else nameAfterExponent (x :: name ++ w) := by
  have hhexHead : w.head?.any CodePoint.isHexDigit = false := by
    cases w with
    | nil => rfl
    | cons c w =>
      by_contra hc
      have hcname := isNameChar_of_isHexDigit (c := c) (by simpa using hc)
      rw [List.head?_cons, Option.any_some, hcname] at hw
      cases hw
  have hhex : hexLength (digits ++ (x :: name ++ w)) = hexLength (digits ++ x :: name) := by
    rw [← List.append_assoc]
    obtain ⟨zero, second, rest, hrun⟩ : ∃ zero second rest,
        digits ++ x :: name = zero :: second :: rest := by
      match digits with
      | [] => exact absurd rfl hne
      | [d] => exact ⟨d, x, name, rfl⟩
      | d :: e :: digits => exact ⟨d, e, digits ++ x :: name, rfl⟩
    rw [hrun]
    simp only [hexLength, List.cons_append, takeWhile_append_of_head hhexHead]
  split_ifs with hzero
  · have hnumber : ∀ t, hexLength t = hexLength (digits ++ x :: name) →
        numberLength t = hexLength (digits ++ x :: name) := by
      intro t ht
      unfold numberLength
      rw [ht, if_pos hzero]
    rw [nameAfterNumber, nameAfterNumber, hnumber _ hhex, hnumber _ rfl, ← List.append_assoc,
      List.drop_append_of_le_length (hexLength_le _), any_head_append hw]
  · have hpoint : x ≠ CodePoint.ofChar '.' := by
      rintro rfl
      exact absurd (hname _ List.mem_cons_self) (by decide)
    exact nameAfterNumber_digits h (by simpa using hx) (by simpa using hpoint)
      (hhex.trans (by simpa using hzero))

end Redaction.Sql
