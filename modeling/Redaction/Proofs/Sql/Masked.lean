/-
  Statements with their literals masked, cut once more.

  * `masked before t`: a text with the placeholder in place of every literal;
  * `resumes_masked`: what is masked goes on like the text, or with a placeholder;
  * `nameAfterExponent_masked`: a name that goes on behind an exponent goes on there when what
    follows is masked;
  * `nameAfterNumber_masked` and its variants: so it is behind a number, but for digits and a point
    before a literal.
-/
import Redaction.Proofs.Sql.Reading

namespace Redaction.Sql

/-- Tokens put together, without their literals. -/
def redactedText (tokens : List Token) : Text := (tokens.map Token.redacted).flatten

/-- A text, behind the character `before`, without its literals. -/
def masked (before : Option CodePoint) (t : Text) : Text := redactedText (tokensFrom before t)

def Token.isLiteral (token : Token) : Bool := token.kind = .literal

/-- Whether a literal comes first. -/
def startsLiteral (tokens : List Token) : Bool := tokens.head?.any Token.isLiteral

section Masked

variable {before : Option CodePoint} {c : CodePoint} {u r : Text} {kind : TokenKind}

@[simp] theorem masked_nil : masked before [] = [] := by
  rw [masked, tokensFrom_nil]
  rfl

theorem masked_of_shape (h : shape before c (u ++ r) = (kind, u.length)) :
    masked before (c :: (u ++ r)) =
      Token.redacted ⟨kind, c :: u⟩ ++ masked (c :: u).getLast? r := by
  rw [masked, tokensFrom_of_shape h, redactedText, List.map_cons, List.flatten_cons]
  rfl

theorem masked_of_not_literal (h : shape before c (u ++ r) = (kind, u.length))
    (hkind : kind ≠ .literal) :
    masked before (c :: (u ++ r)) = c :: (u ++ masked (c :: u).getLast? r) := by
  rw [masked_of_shape h, Token.redacted, if_neg hkind]
  rfl

theorem masked_of_literal (h : shape before c (u ++ r) = (.literal, u.length)) :
    masked before (c :: (u ++ r)) = CodePoint.ofChar '?' :: masked (c :: u).getLast? r := by
  rw [masked_of_shape h, Token.redacted, if_pos rfl]
  rfl

theorem startsLiteral_of_shape (h : shape before c (u ++ r) = (kind, u.length)) :
    startsLiteral (tokensFrom before (c :: (u ++ r))) = decide (kind = .literal) := by
  rw [tokensFrom_of_shape h]
  rfl

/-- A literal starts neither with a blank, nor with a placeholder, nor with a parenthesis. -/
theorem start_of_literal (h : shape before c (u ++ r) = (.literal, u.length)) :
    c.isBlank = false ∧ c ≠ CodePoint.ofChar '?' ∧ c ≠ CodePoint.ofChar '(' := by
  rcases (reads_of_shape h).start_of_literal with rfl | hdigit | ⟨rfl, -⟩
  · decide
  · have hname := isNameChar_of_isDecimal hdigit
    refine ⟨?_, ?_, ?_⟩
    · exact isBlank_of_isNameChar hname
    · rintro rfl
      revert hname
      decide
    · rintro rfl
      revert hname
      decide
  · decide

theorem masked_of_startsLiteral (h : startsLiteral (tokensFrom before r)) :
    ∃ more, masked before r = CodePoint.ofChar '?' :: more := by
  cases r with
  | nil => rw [tokensFrom_nil] at h; cases h
  | cons c rest =>
    obtain ⟨kind, u, r, rfl, hshape⟩ := exists_shape before c rest
    rw [startsLiteral_of_shape hshape, decide_eq_true_eq] at h
    subst h
    exact ⟨_, masked_of_literal hshape⟩

/-- **Masked text goes on like the text**, or with a placeholder. -/
theorem resumes_masked (before : Option CodePoint) (r : Text) : Resumes r (masked before r) := by
  cases r with
  | nil => exact ⟨fun _ => masked_nil, .inl (by rw [masked_nil])⟩
  | cons c rest =>
    obtain ⟨kind, u, r, rfl, hshape⟩ := exists_shape before c rest
    refine ⟨by simp, ?_⟩
    by_cases hkind : kind = .literal
    · subst hkind
      refine .inr ⟨by rw [masked_of_literal hshape]; rfl, ?_⟩
      simpa using (start_of_literal hshape).1
    · refine .inl ?_
      rw [masked_of_not_literal hshape hkind]
      rfl

theorem Token.length_redacted_le {token : Token} (h : token.text ≠ []) :
    token.redacted.length ≤ token.text.length := by
  unfold Token.redacted
  split
  · exact List.length_pos_iff.2 h
  · exact Nat.le_refl _

/-- A placeholder is no longer than any token. -/
theorem length_redactedText_le {tokens : List Token} (h : ∀ token ∈ tokens, token.text ≠ []) :
    (redactedText tokens).length ≤ (tokens.map Token.text).flatten.length := by
  rw [redactedText, List.length_flatten, List.length_flatten, List.map_map, List.map_map]
  exact List.sum_le_sum fun token hmem => Token.length_redacted_le (h token hmem)

theorem length_masked_le (before : Option CodePoint) (t : Text) :
    (masked before t).length ≤ t.length := by
  have htexts : ∀ token ∈ tokensFrom before t, token.text ≠ [] :=
    fun token hmem => ne_nil_of_mem_tokensFrom hmem
  have hle := length_redactedText_le htexts
  rwa [flatten_tokensFrom] at hle

/-- **A text is masked to itself** just where it holds no literal. -/
theorem masked_eq_self_iff {before : Option CodePoint} {t : Text} :
    masked before t = t ↔ (tokensFrom before t).any Token.isLiteral = false := by
  induction before, t using tokensFrom_induction with
  | nil before => simp
  | token before c u r kind hshape ih =>
    rw [tokensFrom_of_shape hshape, List.any_cons, Token.isLiteral]
    by_cases hkind : kind = .literal
    · subst hkind
      rw [masked_of_literal hshape]
      constructor
      · intro h
        exact absurd (List.cons.inj h).1.symm (start_of_literal hshape).2.1
      · intro h
        cases h
    · rw [masked_of_not_literal hshape hkind, decide_eq_false hkind, Bool.false_or, ← ih]
      simp

/-! ## Signs, points and names -/

/-- Characters that start nothing longer. -/
def soleSigns : List CodePoint := ['+', '?', '(', ')', ',']

/-- They are tokens of their own, whatever stands around them. -/
theorem shape_sign (hc : c ∈ soleSigns) (before : Option CodePoint) (rest : Text) :
    shape before c rest = (.punctuation, 0) := by
  rw [shape_eq]
  simp only [soleSigns, List.mem_cons, List.not_mem_nil, or_false] at hc
  rcases hc with rfl | rfl | rfl | rfl | rfl
  all_goals
    simp only [StartsNumber]
    rfl

/-- Blanks are one token up to the first character that is none. -/
theorem shape_blanks (hc : c.isBlank) (hu : ∀ d ∈ u, d.isBlank)
    (hr : r.head?.any CodePoint.isBlank = false) :
    shape before c (u ++ r) = (.whitespace, u.length) := by
  rw [shape_eq, if_pos hc, length_takeWhile_of_run hu hr]

theorem shape_minus (before : Option CodePoint) {rest : Text}
    (h : rest.head? ≠ some (CodePoint.ofChar '-')) :
    shape before '-' rest = (.punctuation, 0) := by
  rw [shape_eq, if_neg (by decide), if_neg fun hc => h hc.2]
  rfl

/-- A point is a sign of its own before no digit, or behind a name. -/
theorem shape_point {rest : Text}
    (h : rest.head?.any CodePoint.isDecimal = false ∨ continuesName before) :
    shape before '.' rest = (.punctuation, 0) := by
  by_cases hnumber : StartsNumber '.' rest
  · have hname : continuesName before := by
      rcases h with h | h
      · rcases hnumber with hdigit | ⟨-, hdigit⟩
        · exact absurd hdigit (by decide)
        · rw [h] at hdigit; cases hdigit
      · exact h
    rw [shape_of_startsNumber hnumber, numberShape_of_continuesName hname, if_pos rfl]
  · rw [shape_of_nameChar_or_point (.inr rfl), if_neg hnumber, if_neg (by decide)]

/-- Text that starts with two minus signs is a comment, and stays one. -/
theorem exists_masked_of_minus (before : Option CodePoint) (rest : Text) :
    ∃ more, masked before (CodePoint.ofChar '-' :: CodePoint.ofChar '-' :: rest) =
      CodePoint.ofChar '-' :: CodePoint.ofChar '-' :: more := by
  obtain ⟨kind, u, r, hrest, hshape⟩ :=
    exists_shape before (CodePoint.ofChar '-') (CodePoint.ofChar '-' :: rest)
  have hcomment := hshape
  rw [← hrest, shape_eq, if_neg (by decide), if_pos ⟨rfl, rfl⟩,
    List.takeWhile_cons_of_pos (by decide)] at hcomment
  obtain ⟨rfl, hlen⟩ := Prod.mk.inj hcomment
  cases u with
  | nil => simp at hlen
  | cons d u =>
    obtain ⟨rfl, -⟩ := List.cons.inj hrest
    rw [hrest, masked_of_not_literal hshape (by decide)]
    exact ⟨_, rfl⟩

/-- A sign before a digit is a sign of its own. -/
theorem masked_sign {sign : CodePoint} {r more : Text}
    (hsign : sign = CodePoint.ofChar '+' ∨ sign = CodePoint.ofChar '-')
    (h : masked before (sign :: r) = sign :: more)
    (hdigit : more.head?.any CodePoint.isDecimal) : more = masked (some sign) r := by
  have hshape : shape before sign r = (.punctuation, 0) := by
    rcases hsign with rfl | rfl
    · exact shape_sign (by decide) before r
    · refine shape_minus before ?_
      intro hminus
      obtain ⟨r, rfl⟩ := List.head?_eq_some_iff.1 hminus
      obtain ⟨rest, hrest⟩ := exists_masked_of_minus before r
      rw [hrest] at h
      obtain ⟨-, rfl⟩ := List.cons.inj h
      rw [List.head?_cons, Option.any_some] at hdigit
      exact absurd hdigit (by decide)
  have hmasked := masked_of_not_literal (u := []) hshape (by decide)
  rw [List.nil_append, List.nil_append, h] at hmasked
  exact (List.cons.inj hmasked).2

/-- **Digits that are no literal** start a run of name characters. Behind no other name, the number
    in it touches a name. -/
theorem name_of_shape (hc : c.isDecimal) (h : shape before c (u ++ r) = (kind, u.length))
    (hkind : kind ≠ .literal) :
    kind = .identifier ∧ (∀ d ∈ c :: u, isNameChar d) ∧ r.head?.any isNameChar = false ∧
      (continuesName before = false → nameAfterNumber (c :: (u ++ r))) := by
  have hname := isNameChar_of_isDecimal hc
  cases reads_of_shape h with
  | name hnames hr htouch => exact ⟨rfl, hnames, hr, htouch hc⟩
  | number => exact absurd rfl hkind
  | blanks hblank =>
    rw [isNameChar_of_isBlank (hblank c List.mem_cons_self)] at hname
    cases hname
  | quoted hquote | openQuote hquote =>
    have hquotes : ∀ pair ∈ quotedKinds, isNameChar pair.1 = false := by decide
    rw [hquotes _ hquote] at hname
    cases hname
  | sign hsign =>
    rw [hsign] at hname
    cases hname
  | lineComment | blockComment | span | pointName => exact absurd hc (by decide)

/-- **A point before digits** that is no literal is a sign behind a name; elsewhere the number touches
    a name. -/
theorem point_of_shape {n : Nat} (hnumber : r.head?.any CodePoint.isDecimal)
    (h : shape before '.' r = (kind, n)) (hkind : kind ≠ .literal) :
    n = 0 ∧ ((continuesName before ∧ kind = .punctuation) ∨
      (continuesName before = false ∧ kind = .identifier ∧
        nameAfterNumber (CodePoint.ofChar '.' :: r))) := by
  rw [shape_of_startsNumber (.inr ⟨rfl, hnumber⟩)] at h
  cases hbefore : continuesName before with
  | true =>
    rw [numberShape_of_continuesName hbefore, if_pos rfl] at h
    obtain ⟨rfl, rfl⟩ := Prod.mk.inj h
    exact ⟨rfl, .inl ⟨rfl, rfl⟩⟩
  | false =>
    rw [numberShape_of_not_continuesName hbefore, if_pos rfl] at h
    split at h
    case isTrue htouch =>
      obtain ⟨rfl, rfl⟩ := Prod.mk.inj h
      exact ⟨rfl, .inr ⟨rfl, rfl, htouch⟩⟩
    case isFalse => exact absurd (Prod.mk.inj h).1.symm hkind

theorem exists_name {rest : Text} (hc : c.isDecimal)
    (h : startsLiteral (tokensFrom before (c :: rest)) = false) :
    ∃ u r, rest = u ++ r ∧ shape before c (u ++ r) = (.identifier, u.length) ∧
      (∀ d ∈ c :: u, isNameChar d) ∧ r.head?.any isNameChar = false ∧
      (continuesName before = false → nameAfterNumber (c :: (u ++ r))) := by
  obtain ⟨kind, u, r, rfl, hshape⟩ := exists_shape before c rest
  rw [startsLiteral_of_shape hshape, decide_eq_false_iff_not] at h
  obtain ⟨rfl, hname⟩ := name_of_shape hc hshape h
  exact ⟨u, r, rfl, hshape, hname⟩

/-- A digit at the start of masked text is one of the text, and starts no literal. -/
theorem digit_of_masked {d : CodePoint} {more : Text} (hd : d.isDecimal)
    (h : masked before r = d :: more) :
    ∃ rest, r = d :: rest ∧ startsLiteral (tokensFrom before (d :: rest)) = false := by
  have hne : d ≠ CodePoint.ofChar '?' := by rintro rfl; revert hd; decide
  obtain ⟨rest, rfl⟩ :=
    List.head?_eq_some_iff.1 ((resumes_masked before r).head_eq hne (by rw [h]; rfl))
  refine ⟨rest, rfl, ?_⟩
  obtain ⟨kind, u, r, rfl, hshape⟩ := exists_shape before d rest
  rw [startsLiteral_of_shape hshape, decide_eq_false_iff_not]
  rintro rfl
  rw [masked_of_literal hshape] at h
  exact hne (List.cons.inj h).1.symm

/-! ## Exponents -/

/-- **A name behind an exponent stays there** when what follows is masked. -/
theorem nameAfterExponent_masked {x : CodePoint} {name : Text} (hx : isNameChar x)
    (hname : ∀ d ∈ name, isNameChar d) (hr : r.head?.any isNameChar = false)
    (h : nameAfterExponent (x :: name ++ r)) :
    nameAfterExponent (x :: name ++ masked before r) := by
  have hmasked : ∀ b t, t.head?.any isNameChar = false → (masked b t).head?.any isNameChar = false :=
    fun b t ht => (resumes_masked b t).any_head (by decide) ht
  cases name with
  | cons d name =>
    rw [nameAfterExponent_append hname hr] at h
    rwa [nameAfterExponent_append hname (hmasked before r hr)]
  | nil =>
    rw [List.singleton_append] at h ⊢
    by_cases hzero : exponentLength (x :: masked before r) = 0
    · exact nameAfterExponent_of_zero hx hzero
    -- the exponent goes on with a sign and digits, which belong to a name that is masked to itself
    obtain ⟨he, sign, digits, hmore, hsign, hdigits⟩ :=
      signed_of_exponentLength (any_isDecimal_of_any_isNameChar (hmasked before r hr)) hzero
    have hdigit : digits.head?.any CodePoint.isDecimal := by
      by_contra hnone
      exact hdigits (digitsLength_eq_zero (by simpa using hnone))
    have hplain : sign ≠ CodePoint.ofChar '?' := by rcases hsign with rfl | rfl <;> decide
    obtain ⟨r, rfl⟩ :=
      List.head?_eq_some_iff.1 ((resumes_masked before r).head_eq hplain (by rw [hmore]; rfl))
    obtain rfl := masked_sign hsign hmore hdigit
    obtain ⟨d, more, hd⟩ : ∃ d more, masked (some sign) r = d :: more := by
      cases hcons : masked (some sign) r with
      | nil => rw [hcons] at hdigit; cases hdigit
      | cons d more => exact ⟨d, more, rfl⟩
    have hdecimal : d.isDecimal := by rwa [hd] at hdigit
    obtain ⟨rest, rfl, hliteral⟩ := digit_of_masked hdecimal hd
    obtain ⟨u, r, rfl, hshape, -, hend, -⟩ := exists_name hdecimal hliteral
    rw [hmore, masked_of_not_literal hshape (by decide), ← List.cons_append,
      nameAfterExponent_signed he hsign hdecimal (hmasked _ r hend)]
    rwa [← List.cons_append, nameAfterExponent_signed he hsign hdecimal hend] at h

/-- A name behind digits and an exponent stays there, unless it is part of a literal that comes
    first. -/
theorem nameAfterExponent_digits_masked (h : nameAfterExponent (r.drop (digitsLength r))) :
    nameAfterExponent ((masked before r).drop (digitsLength (masked before r))) =
      ! startsLiteral (tokensFrom before r) := by
  cases r with
  | nil => cases h
  | cons c rest =>
    cases hliteral : startsLiteral (tokensFrom before (c :: rest)) with
    | true =>
      obtain ⟨kind, u, r, rfl, hshape⟩ := exists_shape before c rest
      rw [startsLiteral_of_shape hshape, decide_eq_true_eq] at hliteral
      subst hliteral
      have hquestion : (CodePoint.ofChar '?').isDecimal = false := by decide
      have hquestion' : isNameChar (CodePoint.ofChar '?') = false := by decide
      rw [masked_of_literal hshape, digitsLength_eq_zero (by simpa using hquestion),
        List.drop_zero]
      exact nameAfterExponent_eq_false (by simpa using hquestion')
    | false =>
      rw [Bool.not_false]
      by_cases hc : c.isDecimal
      · obtain ⟨u, r, rfl, hshape, hrun, hend, -⟩ := exists_name hc hliteral
        obtain ⟨digits, name, hsplit, -, hdigits, hname⟩ := exists_digits hc u
        have hmasked := (resumes_masked (c :: u).getLast? r).any_head (by decide) hend
        -- the digits are all of the run's digits, masked or not
        have hlen : ∀ w : Text, w.head?.any isNameChar = false →
            (c :: (u ++ w)).drop (digitsLength (c :: (u ++ w))) = name ++ w := by
          intro w hw
          have hnot : (name ++ w).head?.any CodePoint.isDecimal = false := by
            rw [any_head_append (any_isDecimal_of_any_isNameChar hw), hname]
          rw [cons_append_of_split hsplit, digitsLength_append_of_digits hdigits hnot,
            List.drop_left]
        rw [hlen r hend] at h
        rw [masked_of_not_literal hshape (by decide), hlen _ hmasked]
        cases name with
        | nil =>
          rw [List.nil_append, nameAfterExponent_eq_false hend] at h
          cases h
        | cons x name =>
          rw [hsplit] at hrun
          obtain ⟨hx, hname⟩ := List.forall_mem_cons.1 (List.forall_mem_append.1 hrun).2
          exact nameAfterExponent_masked hx hname hend h
      · have hzero : ∀ w, digitsLength (c :: w) = 0 :=
          fun w => digitsLength_eq_zero (by simpa using hc)
        rw [hzero, List.drop_zero] at h
        have hname : isNameChar c := by
          by_contra hname
          rw [nameAfterExponent_eq_false (by simpa using hname)] at h
          cases h
        obtain ⟨kind, u, r, rfl, hshape⟩ := exists_shape before c rest
        have hidentifier := hshape
        rw [shape_of_name hname (by simpa using hc)] at hidentifier
        obtain ⟨rfl, hlen⟩ := Prod.mk.inj hidentifier
        obtain ⟨hu, hend⟩ := run_of_length_takeWhile hlen
        rw [masked_of_not_literal hshape (by decide), hzero, List.drop_zero]
        exact nameAfterExponent_masked hname hu hend h

/-! ## Numbers -/

variable {digits : Text} (hne : digits ≠ []) (h : ∀ d ∈ digits, d.isDecimal)
  (hr : r.head?.any isNameChar = false)

include hne h hr

/-- A point and digits that nothing but the end of a name follows are a number. -/
theorem nameAfterNumber_point_digits :
    nameAfterNumber (CodePoint.ofChar '.' :: (digits ++ r)) = false := by
  rw [nameAfterNumber_point hne h (any_isDecimal_of_any_isNameChar hr)]
  exact nameAfterExponent_eq_false hr

variable {x : CodePoint} {name : Text} (hx : x.isDecimal = false)
  (hname : ∀ d ∈ x :: name, isNameChar d)

include hx hname in
/-- **A name behind a number stays there**, where the number starts a run that holds more than
    digits. -/
theorem nameAfterNumber_masked (htouch : nameAfterNumber (digits ++ (x :: name ++ r))) :
    nameAfterNumber (digits ++ (x :: name ++ masked before r)) := by
  have hmasked := (resumes_masked before r).any_head (by decide) hr
  rw [nameAfterNumber_run hne h hx hname hr] at htouch
  rw [nameAfterNumber_run hne h hx hname hmasked]
  split_ifs at htouch ⊢
  · exact htouch
  · obtain ⟨hx', hname'⟩ := List.forall_mem_cons.1 hname
    exact nameAfterExponent_masked hx' hname' hr htouch

include hx hname in
/-- A point before it changes nothing. -/
theorem nameAfterNumber_point_masked (htouch : nameAfterNumber (digits ++ (x :: name ++ r))) :
    nameAfterNumber (CodePoint.ofChar '.' :: (digits ++ (x :: name ++ masked before r))) := by
  obtain ⟨hx', hname'⟩ := List.forall_mem_cons.1 hname
  rw [nameAfterNumber_point hne h (by simpa using hx)]
  by_cases he : x = CodePoint.ofChar 'e' ∨ x = CodePoint.ofChar 'E'
  · have hhex : hexLength (digits ++ x :: name) = 0 := by
      refine hexLength_digits_append hne h ?_
      intro y hy
      obtain rfl : x = y := Option.some.inj hy
      rcases he with rfl | rfl <;> decide
    rw [nameAfterNumber_run hne h hx hname hr, if_neg (by simpa using hhex)] at htouch
    exact nameAfterExponent_masked hx' hname' hr htouch
  · exact nameAfterExponent_of_zero hx' (exponentLength_eq_zero _ he)

/-- **Digits that are no number** go on with a point. Masked, they are no number unless a literal
    follows the point. -/
theorem nameAfterNumber_digits_masked (htouch : nameAfterNumber (digits ++ r)) :
    ∃ r', r = CodePoint.ofChar '.' :: r' ∧ ∀ before, continuesName before →
      nameAfterNumber (digits ++ masked before r) =
        ! startsLiteral (tokensFrom (some (CodePoint.ofChar '.')) r') := by
  have hpoint : r.head? = some (CodePoint.ofChar '.') := by
    by_contra hpoint
    have hhex : hexLength (digits ++ r) = 0 := by
      refine hexLength_digits_append hne h ?_
      intro x hx
      rw [Option.mem_def.1 hx] at hr
      constructor <;> (rintro rfl; revert hr; decide)
    rw [nameAfterNumber_digits h (any_isDecimal_of_any_isNameChar hr) hpoint hhex,
      nameAfterExponent_eq_false hr] at htouch
    cases htouch
  obtain ⟨r, rfl⟩ := List.head?_eq_some_iff.1 hpoint
  refine ⟨r, rfl, fun before hbefore => ?_⟩
  have hshape : shape before (CodePoint.ofChar '.') ([] ++ r) = (.punctuation, 0) :=
    shape_point (.inr hbefore)
  have hmasked := masked_of_not_literal hshape (by decide)
  rw [List.nil_append, List.nil_append] at hmasked
  rw [nameAfterNumber_digits_point hne h] at htouch
  rw [hmasked, nameAfterNumber_digits_point hne h]
  exact nameAfterExponent_digits_masked htouch

end Masked

end Redaction.Sql
