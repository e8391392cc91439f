/-
  Redacting a redacted statement.

  * `operation_masked`: the first keyword of a redacted statement is that of the statement, unless a
    point is lost;
  * `firstWord_masked_ne`: a point that is lost is not the first word of what is left;
  * `redact_redact_iff`: redaction is idempotent just where a statement exposes no literal and loses
    no point.
-/
import Redaction.Proofs.Sql.Again

namespace Redaction.Sql

/-! ## The first keyword -/

/-- Whether the first keyword is a point that is a sign once the literal behind it is gone, as in
    `(.0x5`. -/
def losesPoint (tokens : List Token) : Bool :=
  match tokens.dropWhile Token.isDecoration with
  | [] => false
  | token :: rest => token = pointName && startsLiteral rest

section Keyword

variable {token : Token} {rest : List Token}

theorem operation_of_decoration (h : token.isDecoration) (sanitized : Text) :
    operation (token :: rest) sanitized = operation rest sanitized := by
  rw [operation, List.dropWhile_cons_of_pos h, operation]

theorem operation_of_not_decoration (h : token.isDecoration = false) (sanitized : Text) :
    operation (token :: rest) sanitized =
      if token.kind = .identifier then Text.upper token.text else Text.firstWord sanitized := by
  rw [operation, List.dropWhile_cons_of_neg (by rw [h]; decide)]

theorem losesPoint_of_decoration (h : token.isDecoration) :
    losesPoint (token :: rest) = losesPoint rest := by
  rw [losesPoint, List.dropWhile_cons_of_pos h, losesPoint]

theorem losesPoint_of_not_decoration (h : token.isDecoration = false) :
    losesPoint (token :: rest) = (token = pointName && startsLiteral rest) := by
  rw [losesPoint, List.dropWhile_cons_of_neg (by rw [h]; decide)]

/-- A point is no decoration, so a decoration stays what it is. -/
theorem kindAgain_of_decoration (h : token.isDecoration) : kindAgain token rest = token.kind := by
  rw [kindAgain, if_neg]
  intro hlost
  simp only [Bool.and_eq_true, decide_eq_true_eq] at hlost
  rw [hlost.1] at h
  exact absurd h (by decide)

/-- The first keyword is read off its token, unless it is a point that is lost. -/
theorem operation_kindAgain (h : token.isDecoration = false) (rest' : List Token)
    (sanitized : Text) :
    operation (⟨kindAgain token rest, token.text⟩ :: rest') sanitized =
      if losesPoint (token :: rest) then Text.firstWord sanitized
      else operation (token :: rest) sanitized := by
  rw [losesPoint_of_not_decoration h, kindAgain]
  split
  case isTrue hlost =>
    simp only [Bool.and_eq_true, decide_eq_true_eq] at hlost
    rw [hlost.1, operation_of_not_decoration (by decide)]
    rfl
  case isFalse => rw [operation_of_not_decoration h, operation_of_not_decoration h]

end Keyword

section Masked

variable {before : Option CodePoint} {c : CodePoint} {u r t : Text} {kind : TokenKind}

/-- Before the first keyword stand blanks, comments and opening parentheses. -/
theorem start_of_isDecoration (h : shape before c (u ++ r) = (kind, u.length))
    (hdecoration : Token.isDecoration ⟨kind, c :: u⟩) :
    kind = .whitespace ∨
      c = CodePoint.ofChar '-' ∨ c = CodePoint.ofChar '/' ∨ c = CodePoint.ofChar '(' := by
  simp only [Token.isDecoration, Bool.or_eq_true, decide_eq_true_eq] at hdecoration
  rcases hdecoration with (rfl | rfl) | htext
  · exact .inl rfl
  · exact .inr ((reads_of_shape h).start_of_comment.imp_right .inl)
  · exact .inr (.inr (.inr (List.cons.inj htext).1))

theorem isDecoration_of_literal (h : shape before c (u ++ r) = (.literal, u.length)) :
    Token.isDecoration ⟨.literal, c :: u⟩ = false := by
  have hparen : c ≠ CodePoint.ofChar '(' := (start_of_literal h).2.2
  simp [Token.isDecoration, hparen]

/-- No keyword comes first where a brace does, and no point is lost there. -/
theorem operation_of_brace (before : Option CodePoint) (rest sanitized : Text) :
    operation (tokensFrom before (CodePoint.ofChar '{' :: rest)) sanitized =
        Text.firstWord sanitized ∧
      losesPoint (tokensFrom before (CodePoint.ofChar '{' :: rest)) = false := by
  have hkind : (shape before '{' rest).1 = .parameterSpan ∨
      (shape before '{' rest).1 = .punctuation := by
    rw [shape_of_brace]
    split
    · exact .inl rfl
    · exact .inr rfl
  have htext : ∀ t, CodePoint.ofChar '{' :: t ≠ [CodePoint.ofChar '('] := by
    intro t h
    exact absurd (List.cons.inj h).1 (by decide)
  have hnot : (firstToken before '{' rest).isDecoration = false := by
    rcases hkind with h | h <;> simp [Token.isDecoration, firstToken, h, htext]
  rw [tokensFrom_cons, operation_of_not_decoration hnot, losesPoint_of_not_decoration hnot]
  rcases hkind with h | h <;> simp [firstToken, h, pointName]

/-- A point that is lost was the first keyword. -/
theorem operation_of_losesPoint {tokens : List Token} (h : losesPoint tokens) (sanitized : Text) :
    operation tokens sanitized = [CodePoint.ofChar '.'] := by
  unfold losesPoint at h
  split at h
  · cases h
  case h_2 token rest hkeyword =>
    simp only [Bool.and_eq_true, decide_eq_true_eq] at h
    have hupper : Text.upper pointName.text = [CodePoint.ofChar '.'] := by decide
    rw [operation, hkeyword, h.1]
    exact hupper

/-- **The first keyword of a redacted text** is that of the text, unless a point is lost. -/
theorem operation_masked {prev : Option Token} (hplain : prev.any Token.isLiteral = false)
    (hexposes : exposes prev (tokensFrom (lastSeen prev) t) = false) (sanitized : Text) :
    operation (tokensFrom (lastSeen prev) (masked (lastSeen prev) t)) sanitized =
      if losesPoint (tokensFrom (lastSeen prev) t) then Text.firstWord sanitized
      else operation (tokensFrom (lastSeen prev) t) sanitized := by
  generalize hbefore : lastSeen prev = before at hexposes ⊢
  induction before, t using tokensFrom_induction generalizing prev with
  | nil before => simp [losesPoint]
  | token before c u r kind hshape ih =>
    subst hbefore
    by_cases hbrace : c = CodePoint.ofChar '{'
    · subst hbrace
      have hkind : kind ≠ .literal := by
        rcases brace_of_shape hshape with ⟨rfl, -⟩ | ⟨rfl, -⟩ <;> decide
      obtain ⟨hoperation, hpoint⟩ := operation_of_brace (lastSeen prev) (u ++ r) sanitized
      rw [masked_of_not_literal hshape hkind, hpoint, hoperation]
      exact (operation_of_brace _ _ sanitized).1
    rw [tokensFrom_of_shape hshape] at hexposes ⊢
    by_cases hkind : kind = .literal
    · subst hkind
      have hnot := isDecoration_of_literal hshape
      rw [tokensFrom_masked_of_literal _ hshape, operation_of_not_decoration (by decide),
        losesPoint_of_not_decoration hnot, operation_of_not_decoration hnot]
      simp [pointName]
    have hopen : (⟨kind, c :: u⟩ : Token) ≠ openBrace := by simp [openBrace, hbrace]
    have hagain := shapeAgain hshape hkind hbrace (separated_of_not_literal hplain _)
    rw [lastLeft_of_not_literal hplain] at hagain
    generalize hshape' : shape (lastSeen prev) c (u ++ masked (c :: u).getLast? r) = shape'
      at hagain
    cases hagain with
    | freed hfrees =>
      rw [exposes, hfrees, Bool.true_or] at hexposes
      cases hexposes
    | @kept kind' hfrees _ hagain =>
      obtain rfl := hagain hplain
      rw [exposes_cons hfrees hopen] at hexposes
      rw [masked_of_not_literal hshape hkind, tokensFrom_of_shape hshape']
      cases hdecoration : Token.isDecoration ⟨kind, c :: u⟩ with
      | true =>
        have hplain : (some (⟨kind, c :: u⟩ : Token)).any Token.isLiteral = false := by
          simpa [Token.isLiteral] using hkind
        rw [kindAgain_of_decoration hdecoration, operation_of_decoration hdecoration,
          operation_of_decoration hdecoration, losesPoint_of_decoration hdecoration]
        exact ih hplain rfl hexposes
      | false => exact operation_kindAgain hdecoration _ sanitized

/-! ## The first word -/

theorem firstWord_of_blank (hc : c.isBlank) (t : Text) :
    Text.firstWord (c :: t) = Text.firstWord t := by
  rw [Text.firstWord, Text.trimStart, List.dropWhile_cons_of_pos hc, Text.firstWord, Text.trimStart]

theorem firstWord_of_not_blank (hc : c.isBlank = false) (t : Text) :
    Text.firstWord (c :: t) = c.upper ++ Text.upper (t.takeWhile fun d => ! d.isBlank) := by
  rw [Text.firstWord, Text.trimStart, List.dropWhile_cons_of_neg (by simpa using hc),
    List.takeWhile_cons_of_pos (by simpa using hc)]
  rfl

theorem firstWord_blanks (hu : ∀ d ∈ u, d.isBlank) (t : Text) :
    Text.firstWord (u ++ t) = Text.firstWord t := by
  induction u with
  | nil => rfl
  | cons c u ih =>
    obtain ⟨hc, hu⟩ := List.forall_mem_cons.1 hu
    rw [List.cons_append, firstWord_of_blank hc, ih hu]

theorem blanks_of_shape (h : shape before c (u ++ r) = (.whitespace, u.length)) :
    ∀ d ∈ c :: u, d.isBlank := by
  cases reads_of_shape h with
  | blanks hblank => exact hblank
  | quoted hquote =>
    have hkinds : ∀ pair ∈ quotedKinds, pair.2 ≠ .whitespace := by decide
    exact absurd rfl (hkinds _ hquote)

/-- **A point that is lost is not the first word** of what is left. -/
theorem firstWord_masked_ne (h : losesPoint (tokensFrom before t)) :
    Text.firstWord (masked before t) ≠ [CodePoint.ofChar '.'] := by
  induction before, t using tokensFrom_induction with
  | nil before => rw [tokensFrom_nil] at h; cases h
  | token before c u r kind hshape ih =>
    rw [tokensFrom_of_shape hshape] at h
    by_cases hdecoration : Token.isDecoration ⟨kind, c :: u⟩
    · have hkind : kind ≠ .literal := by
        rintro rfl
        rw [isDecoration_of_literal hshape] at hdecoration
        cases hdecoration
      rw [masked_of_not_literal hshape hkind]
      rcases start_of_isDecoration hshape hdecoration with rfl | hc
      · rw [← List.cons_append, firstWord_blanks (blanks_of_shape hshape)]
        rw [losesPoint_of_decoration hdecoration] at h
        exact ih h
      · have hsign : c.isBlank = false ∧ c.upper = [c] ∧ c ≠ CodePoint.ofChar '.' := by
          rcases hc with rfl | rfl | rfl <;> decide
        rw [firstWord_of_not_blank hsign.1, hsign.2.1]
        intro hword
        exact hsign.2.2 (List.cons.inj hword).1
    · rw [losesPoint_of_not_decoration (by simpa using hdecoration), Bool.and_eq_true,
        decide_eq_true_eq] at h
      obtain ⟨htoken, hliteral⟩ := h
      obtain ⟨rfl, rfl, rfl⟩ : kind = .identifier ∧ c = CodePoint.ofChar '.' ∧ u = [] := by
        simpa [pointName] using htoken
      obtain ⟨more, hmore⟩ := masked_of_startsLiteral hliteral
      rw [masked_of_not_literal hshape (by decide), hmore, firstWord_of_not_blank (by decide),
        List.nil_append, List.takeWhile_cons_of_pos (by decide)]
      intro hword
      exact absurd (List.cons.inj hword).2 (List.cons_ne_nil _ _)

end Masked

/-! ## Redacting twice -/

theorem redactTokens_tokenize (t : Text) :
    redactTokens (tokenize t) = ⟨masked none t, operation (tokenize t) (masked none t)⟩ := rfl

/-- **Redaction is idempotent just where a statement exposes no literal and loses no point.** -/
theorem redact_redact_iff {limit : Int} {t : Text} (h : t.length ≤ limit) :
    (redact limit (redact limit t).value.sanitized).value = (redact limit t).value ↔
      exposes none (tokenize t) = false ∧ losesPoint (tokenize t) = false := by
  have hlen : (masked none t).length ≤ limit := by
    have := length_masked_le none t
    omega
  have hplain : (none : Option Token).any Token.isLiteral = false := rfl
  have hliterals : (tokensFrom none (masked none t)).any Token.isLiteral =
      exposes none (tokensFrom none t) :=
    any_isLiteral_masked (separated_of_not_literal hplain t)
  rw [value_redact_of_le h, redactTokens_tokenize, value_redact_of_le hlen, redactTokens_tokenize,
    Redacted.mk.injEq]
  have hkeyword : exposes none (tokenize t) = false → ∀ sanitized,
      operation (tokenize (masked none t)) sanitized =
        if losesPoint (tokenize t) then Text.firstWord sanitized
        else operation (tokenize t) sanitized :=
    fun hexposes => operation_masked hplain hexposes
  constructor
  · rintro ⟨hsanitized, hoperation⟩
    have hexposes : exposes none (tokenize t) = false :=
      hliterals.symm.trans (masked_eq_self_iff.1 hsanitized)
    refine ⟨hexposes, ?_⟩
    by_contra hpoint
    rw [Bool.not_eq_false] at hpoint
    rw [hsanitized, hkeyword hexposes, if_pos hpoint, operation_of_losesPoint hpoint] at hoperation
    exact firstWord_masked_ne hpoint hoperation
  · rintro ⟨hexposes, hpoint⟩
    have hsanitized := masked_eq_self_iff.2 (hliterals.trans hexposes)
    refine ⟨hsanitized, ?_⟩
    rw [hsanitized, hkeyword hexposes, hpoint]
    rfl

set_option maxRecDepth 4000 in
theorem redact_redact_iff_select :
    (("select 'a', x.2, 1.5 from t" : Text).length : Int) ≤ 100 ∧
      (redact 100 (redact 100 ("select 'a', x.2, 1.5 from t" : Text)).value.sanitized).value =
        (redact 100 ("select 'a', x.2, 1.5 from t" : Text)).value := by
  have hlen : (("select 'a', x.2, 1.5 from t" : Text).length : Int) ≤ 100 := by decide
  have hexposes : exposes none (tokenize ("select 'a', x.2, 1.5 from t" : Text)) = false := by cbv
  have hpoint : losesPoint (tokenize ("select 'a', x.2, 1.5 from t" : Text)) = false := by cbv
  exact ⟨hlen, (redact_redact_iff hlen).2 ⟨hexposes, hpoint⟩⟩

set_option maxRecDepth 4000 in
/-- A chain of numbers is not redacted at once. -/
theorem redact_redact_ne :
    (("select 1.2.3.x" : Text).length : Int) ≤ 100 ∧
      (redact 100 (redact 100 ("select 1.2.3.x" : Text)).value.sanitized).value ≠
        (redact 100 ("select 1.2.3.x" : Text)).value := by
  have hlen : (("select 1.2.3.x" : Text).length : Int) ≤ 100 := by decide
  have honce : (redact 100 ("select 1.2.3.x" : Text)).value =
      ⟨("select ?.3.x" : Text), ("SELECT" : Text)⟩ := by cbv
  have htwice : (redact 100 ("select ?.3.x" : Text)).value =
      ⟨("select ??.x" : Text), ("SELECT" : Text)⟩ := by cbv
  refine ⟨hlen, ?_⟩
  rw [honce, htwice]
  intro h
  have hlength : ("select ??.x" : Text).length = ("select ?.3.x" : Text).length :=
    congrArg (fun redacted => redacted.sanitized.length) h
  exact absurd hlength (by decide)

end Redaction.Sql
