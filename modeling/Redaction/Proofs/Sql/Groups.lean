/-
  Groups of values behind a statement.

  * `IsValue v`: a literal as it stands in a group, quoted or a run of digits;
  * `group values`: literals in parentheses, with a comma and a blank between them;
  * `shape_before_parenthesis`: a token stays as it is when a parenthesis follows the text, unless it is
    a comment, an open quote or an open brace;
  * `tokensFrom_before_parenthesis`: so do all tokens of a text that leaves nothing open;
  * `masked_group`: a group keeps its parentheses and commas, and each literal becomes a placeholder;
  * `sanitized_groups`: so it is with any number of groups behind a statement.
-/
import Redaction.Proofs.Sql.Cut

namespace Redaction.Sql

open CodePoint (quote)

/-- A literal of a group: a text in quotes, or digits of any script. -/
inductive IsValue : Text → Prop
  | quoted (c : Text) : IsValue (quoted c)
  | digits {c : CodePoint} {u : Text} : (∀ d ∈ c :: u, d.isDecimal) → IsValue (c :: u)

/-- Literals in parentheses, with a comma and a blank between them. -/
def group (values : List Text) : Text :=
  CodePoint.ofChar '(' :: ((", " : Text).intercalate values ++ (")" : Text))

section Parenthesis

variable {before : Option CodePoint} {c : CodePoint} {u t v : Text} {kind : TokenKind}

theorem startsNumber_append (hv : v.head?.any CodePoint.isDecimal = false) (t : Text) :
    StartsNumber c (t ++ v) ↔ StartsNumber c t := by
  rw [StartsNumber, StartsNumber, any_head_append hv]

variable (hv : v.head? = some (CodePoint.ofChar '('))

include hv

/-! ## Before a parenthesis -/

theorem any_head_of_parenthesis {p : CodePoint → Bool} (hp : p '(' = false) :
    v.head?.any p = false := by
  rw [hv, Option.any_some, hp]

theorem endsNumber_of_parenthesis : EndsNumber v := by
  intro d hd
  obtain rfl : CodePoint.ofChar '(' = d := Option.some.inj (hv.symm.trans hd)
  decide

theorem head_of_append_parenthesis {d : CodePoint} (hd : d ≠ CodePoint.ofChar '(')
    (huv : (u ++ v).head? = some d) : u.head? = some d := by
  cases u with
  | nil => exact absurd (Option.some.inj (huv.symm.trans hv)) hd
  | cons e u => exact huv

/-- A quoted text that ends does so when a parenthesis follows. -/
theorem quotedShape_append {kind' : TokenKind} (hc : c ≠ CodePoint.ofChar '(')
    (h : quotedShape c kind' u = (kind, u.length)) (hopen : kind ≠ .unparsed) :
    quotedShape c kind' (u ++ v) = (kind, u.length) := by
  unfold quotedShape at h ⊢
  cases hlength : quotedLength? c 0 u with
  | none =>
    rw [hlength] at h
    exact absurd (Prod.mk.inj h).1.symm hopen
  | some n =>
    rw [hlength] at h
    obtain ⟨rfl, rfl⟩ := Prod.mk.inj h
    have hs : v.head? = some c → ([] : Text).head? = some c :=
      fun hquote => absurd (Option.some.inj (hquote.symm.trans hv)) hc
    rw [quotedLength?_resume (n := 0) hs (by rw [List.append_nil, hlength, Nat.zero_add]),
      Nat.zero_add]

/-- The last token of a text stays as it is when a parenthesis follows, unless it is a comment or an
    open quote. -/
theorem shape_last_append (h : shape before c u = (kind, u.length)) (hcomment : kind ≠ .comment)
    (hopen : kind ≠ .unparsed) (hnumber : ¬ StartsNumber c u) (hbrace : c ≠ CodePoint.ofChar '{') :
    shape before c (u ++ v) = (kind, u.length) := by
  rw [shape_eq] at h ⊢
  by_cases h₁ : c.isBlank
  · rw [if_pos h₁] at h ⊢
    rw [takeWhile_append_of_head (any_head_of_parenthesis hv (by decide)), h]
  rw [if_neg h₁] at h ⊢
  by_cases h₂ : c = CodePoint.ofChar '-' ∧ u.head? = some (CodePoint.ofChar '-')
  · rw [if_pos h₂] at h
    exact absurd (Prod.mk.inj h).1.symm hcomment
  rw [if_neg h₂] at h
  rw [if_neg fun hs => h₂ ⟨hs.1, head_of_append_parenthesis hv (by decide) hs.2⟩]
  by_cases h₃ : c = CodePoint.ofChar '/' ∧ u.head? = some (CodePoint.ofChar '*')
  · rw [if_pos h₃] at h
    exact absurd (Prod.mk.inj h).1.symm hcomment
  rw [if_neg h₃] at h
  rw [if_neg fun hs => h₃ ⟨hs.1, head_of_append_parenthesis hv (by decide) hs.2⟩]
  by_cases h₄ : c = quote
  · rw [if_pos h₄] at h ⊢
    exact quotedShape_append hv (by rw [h₄]; decide) h hopen
  rw [if_neg h₄] at h ⊢
  by_cases h₅ : c = CodePoint.doubleQuote ∨ c = CodePoint.backQuote
  · rw [if_pos h₅] at h ⊢
    refine quotedShape_append hv ?_ h hopen
    rcases h₅ with rfl | rfl <;> decide
  have hnumber' : ¬ StartsNumber c (u ++ v) := by
    rwa [startsNumber_append (any_head_of_parenthesis hv (by decide))]
  rw [if_neg h₅, if_neg hbrace, if_neg hnumber] at h
  rw [if_neg h₅, if_neg hbrace, if_neg hnumber',
    nameLength_append (any_head_of_parenthesis hv (by decide)), h]

/-- **A token stays as it is when a parenthesis follows the text**, unless it is the last and a comment
    or an open quote, or is a brace that no other one follows. -/
theorem shape_before_parenthesis (h : shape before c (u ++ t) = (kind, u.length))
    (hlast : t = [] → kind ≠ .comment ∧ kind ≠ .unparsed)
    (hbrace : c = CodePoint.ofChar '{' → kind = .punctuation → ∃ d ∈ t, isBrace d) :
    shape before c (u ++ (t ++ v)) = (kind, u.length) := by
  by_cases hnumber : StartsNumber c (u ++ t)
  · have hnumber' : StartsNumber c (u ++ t ++ v) :=
      (startsNumber_append (any_head_of_parenthesis hv (by decide)) _).2 hnumber
    rw [shape_of_startsNumber hnumber] at h
    rw [← List.append_assoc, shape_of_startsNumber hnumber',
      numberShape_append (endsNumber_of_parenthesis hv), h]
  by_cases hc : c = CodePoint.ofChar '{'
  · subst hc
    rcases brace_of_shape h with ⟨rfl, -⟩ | ⟨rfl, rfl, hnone⟩
    · exact shape_span_resume h
    · rw [shape_of_brace, List.nil_append, parameterLength?_append (hbrace rfl rfl), hnone]
      rfl
  by_cases ht : t = []
  · subst ht
    rw [List.append_nil] at h hnumber
    exact shape_last_append hv h (hlast rfl).1 (hlast rfl).2 hnumber hc
  · have hresumes : Resumes t (t ++ v) := ⟨by simp [ht], .inl (head?_append_of_ne_nil ht v)⟩
    exact shape_resume h hresumes hnumber hc

/-- **A parenthesis changes no token before it.** A text whose last token is no comment, and that leaves
    neither a quote nor a brace open, is cut into the same tokens when a parenthesis follows. -/
theorem tokensFrom_before_parenthesis {p : Text}
    (hopen : ∀ token ∈ tokensFrom before p, token.kind ≠ .unparsed)
    (hcomment : ∀ token ∈ (tokensFrom before p).getLast?, token.kind ≠ .comment)
    (hbraces : ∀ us vs, tokensFrom before p = us ++ ⟨.punctuation, [CodePoint.ofChar '{']⟩ :: vs →
      ∃ d ∈ (vs.map Token.text).flatten, isBrace d) :
    ∃ behind, tokensFrom before (p ++ v) = tokensFrom before p ++ tokensFrom behind v := by
  induction before, p using tokensFrom_induction with
  | nil before => exact ⟨before, by rw [tokensFrom_nil]; rfl⟩
  | token before c u t kind hshape ih =>
    rw [tokensFrom_of_shape hshape] at hopen hcomment hbraces
    have hshape' : shape before c (u ++ (t ++ v)) = (kind, u.length) := by
      refine shape_before_parenthesis hv hshape ?_ ?_
      · rintro rfl
        rw [tokensFrom_nil] at hcomment
        exact ⟨hcomment _ rfl, hopen _ List.mem_cons_self⟩
      · rintro rfl rfl
        obtain ⟨hkind, -⟩ | ⟨-, rfl, -⟩ := brace_of_shape hshape
        · cases hkind
        · have hbehind := hbraces [] _ rfl
          rwa [flatten_tokensFrom] at hbehind
    have hcomment' : ∀ token ∈ (tokensFrom (c :: u).getLast? t).getLast?, token.kind ≠ .comment := by
      intro token htoken
      refine hcomment token ?_
      rw [Option.mem_def] at htoken ⊢
      rw [List.getLast?_cons, htoken]
      rfl
    obtain ⟨behind, hbehind⟩ := ih (fun token hmem => hopen token (List.mem_cons_of_mem _ hmem))
      hcomment' fun us vs htokens => hbraces (⟨kind, c :: u⟩ :: us) vs (by rw [htokens]; rfl)
    refine ⟨behind, ?_⟩
    rw [List.cons_append, List.append_assoc, tokensFrom_of_shape hshape', hbehind,
      tokensFrom_of_shape hshape, List.cons_append]

end Parenthesis

/-! ## Groups -/

section Group

variable {before : Option CodePoint} {c : CodePoint} {u r v : Text} {values : List Text}

/-- The signs between the literals of a group and around them. -/
def groupSigns : List CodePoint := [CodePoint.ofChar '(', CodePoint.ofChar ',', CodePoint.ofChar ')']

theorem masked_sign_cons (hc : c ∈ soleSigns) (r : Text) :
    masked before (c :: r) = c :: masked (some c) r :=
  masked_of_not_literal (u := []) (shape_sign hc before r) (by decide)

theorem masked_blank_cons (hr : r.head?.any CodePoint.isBlank = false) :
    masked before (CodePoint.ofChar ' ' :: r) =
      CodePoint.ofChar ' ' :: masked (some (CodePoint.ofChar ' ')) r :=
  masked_of_not_literal (shape_blanks (by decide) (List.forall_mem_nil _) hr) (by decide)

theorem isNumber_of_digits (h : ∀ d ∈ c :: u, d.isDecimal) : IsNumber (c :: u) := by
  have hdigits : digitsLength (c :: u) = (c :: u).length := by
    rw [digitsLength, List.takeWhile_eq_self_iff.2 h]
  have hhex : hexLength (c :: u) = 0 := by
    have := hexLength_digits_append (w := []) (List.cons_ne_nil c u) h (by simp)
    rwa [List.append_nil] at this
  have hdecimal : decimalLength (c :: u) = (c :: u).length := by
    unfold decimalLength
    dsimp only
    rw [hdigits, List.drop_length]
  refine ⟨.inl (h c List.mem_cons_self), ?_⟩
  unfold numberLength
  rw [hhex, hdecimal, List.drop_length]
  rfl

/-- Digits up to a sign are a literal, behind no name. -/
theorem shape_of_digits (hbefore : continuesName before = false) (h : ∀ d ∈ c :: u, d.isDecimal)
    (hr : EndsNumber r) : shape before c (u ++ r) = (.literal, u.length) := by
  have hnumber := isNumber_of_digits h
  rw [shape_of_startsNumber (.inl (h c List.mem_cons_self)), numberShape_append hr,
    numberShape_of_not_continuesName hbefore, hnumber.nameAfterNumber, hnumber.2]
  rfl

/-- A literal of a group becomes a placeholder. -/
theorem masked_value (hv : IsValue v) (hbefore : continuesName before = false) (hc : c ∈ groupSigns)
    (r : Text) : masked before (v ++ c :: r) = CodePoint.ofChar '?' :: c :: masked (some c) r := by
  have hsigns : ∀ c ∈ groupSigns, c ∈ soleSigns ∧ c ≠ quote ∧ isNameChar c = false ∧
      c ≠ CodePoint.ofChar '.' ∧ c ≠ CodePoint.ofChar '+' ∧ c ≠ CodePoint.ofChar '-' := by decide
  obtain ⟨hsole, hquote, hends⟩ := hsigns c hc
  cases hv with
  | quoted a =>
    have htokens := @tokensFrom_quoted a (c :: r) before (by simpa using hquote)
    rw [masked, htokens, ← masked_sign_cons hsole]
    rfl
  | @digits d u hdigits =>
    have hends' : EndsNumber (c :: r) := by
      intro d hd
      obtain rfl : c = d := Option.some.inj hd
      exact hends
    rw [List.cons_append, masked_of_literal (shape_of_digits hbefore hdigits hends'),
      masked_sign_cons hsole]

/-- A literal of a group starts with no blank. -/
theorem IsValue.head_isBlank (hv : IsValue v) (r : Text) :
    (v ++ r).head?.any CodePoint.isBlank = false := by
  cases hv with
  | quoted a => rfl
  | digits hdigits =>
    have hname := isNameChar_of_isDecimal (hdigits _ List.mem_cons_self)
    exact isBlank_of_isNameChar hname

theorem exists_intercalate_cons (sep v : Text) (values : List Text) :
    ∃ more, sep.intercalate (v :: values) = v ++ more := by
  cases values with
  | nil => exact ⟨[], by rw [List.intercalate_singleton, List.append_nil]⟩
  | cons v₂ values => exact ⟨_, by rw [List.intercalate_cons_cons, List.append_assoc]⟩

/-- So it is with all literals of a group, between the commas. -/
theorem masked_values (hne : values ≠ []) (h : ∀ v ∈ values, IsValue v)
    (hbefore : continuesName before = false) (r : Text) :
    masked before ((", " : Text).intercalate values ++ CodePoint.ofChar ')' :: r) =
      (", " : Text).intercalate (List.replicate values.length placeholder) ++
        CodePoint.ofChar ')' :: masked (some (CodePoint.ofChar ')')) r := by
  induction values generalizing before with
  | nil => exact absurd rfl hne
  | cons v values ih =>
    rw [List.forall_mem_cons] at h
    cases values with
    | nil =>
      rw [List.intercalate_singleton, masked_value h.1 hbefore (by decide)]
      rfl
    | cons v₂ values =>
      obtain ⟨rest, hrest⟩ : ∃ rest, rest =
          (", " : Text).intercalate (v₂ :: values) ++ CodePoint.ofChar ')' :: r := ⟨_, rfl⟩
      have hblank : rest.head?.any CodePoint.isBlank = false := by
        obtain ⟨more, hmore⟩ := exists_intercalate_cons (", " : Text) v₂ values
        rw [hrest, hmore, List.append_assoc]
        exact (h.2 v₂ List.mem_cons_self).head_isBlank _
      have hbehind : continuesName (some (CodePoint.ofChar ' ')) = false := by decide
      have htail := ih (List.cons_ne_nil _ _) h.2 hbehind
      rw [← hrest] at htail
      have hvalue : masked before (v ++ CodePoint.ofChar ',' :: CodePoint.ofChar ' ' :: rest) = _ :=
        masked_value h.1 hbefore (by decide) _
      rw [masked_blank_cons hblank, htail] at hvalue
      rw [List.intercalate_cons_cons, List.append_assoc, List.append_assoc, ← hrest]
      exact hvalue

/-- **A group keeps its parentheses and commas**, and each of its literals becomes a placeholder. -/
theorem masked_group (hne : values ≠ []) (h : ∀ v ∈ values, IsValue v) (r : Text) :
    masked before (group values ++ r) = group (List.replicate values.length placeholder) ++
      masked (some (CodePoint.ofChar ')')) r := by
  have hgroup : ∀ values' r', group values' ++ r' =
      CodePoint.ofChar '(' :: ((", " : Text).intercalate values' ++ CodePoint.ofChar ')' :: r') := by
    intro values' r'
    rw [group, List.cons_append, List.append_assoc]
    rfl
  rw [hgroup, hgroup, masked_sign_cons (by decide), masked_values hne h (by decide)]

end Group

variable {p : Text} {groups : List (List Text)} {n : Int}

theorem masked_groups (h : ∀ values ∈ groups, values ≠ [] ∧ ∀ v ∈ values, IsValue v)
    (before : Option CodePoint) :
    masked before (groups.map group).flatten =
      (groups.map fun values => group (List.replicate values.length placeholder)).flatten := by
  induction groups generalizing before with
  | nil => exact masked_nil
  | cons values groups ih =>
    rw [List.forall_mem_cons] at h
    rw [List.map_cons, List.flatten_cons, masked_group h.1.1 h.1.2, ih h.2, List.map_cons,
      List.flatten_cons]

/-- **Groups of values are redacted one by one, and none is lost.** Behind a statement whose last token
    is no comment, and that leaves neither a quote nor a brace open, each group keeps its parentheses
    and has as many placeholders as it had literals, whatever the literals hold; the statement before
    them is redacted as if it stood alone. -/
theorem sanitized_groups (hopen : ∀ token ∈ tokenize p, token.kind ≠ .unparsed)
    (hcomment : ∀ token ∈ (tokenize p).getLast?, token.kind ≠ .comment)
    (hbraces : ∀ us vs, tokenize p = us ++ ⟨.punctuation, [CodePoint.ofChar '{']⟩ :: vs →
      ∃ d ∈ (vs.map Token.text).flatten, isBrace d)
    (hvalues : ∀ values ∈ groups, values ≠ [] ∧ ∀ v ∈ values, IsValue v)
    (hl : ((p ++ (groups.map group).flatten).length : Int) ≤ n) :
    (redact n (p ++ (groups.map group).flatten)).value.sanitized =
      (redact n p).value.sanitized ++
        (groups.map fun values => group (List.replicate values.length placeholder)).flatten := by
  have hshort : (p.length : Int) ≤ n := by
    rw [List.length_append] at hl
    omega
  have htokens : ∃ behind, tokenize (p ++ (groups.map group).flatten) =
      tokenize p ++ tokensFrom behind (groups.map group).flatten := by
    cases groups with
    | nil => exact ⟨none, by simp⟩
    | cons values groups => exact tokensFrom_before_parenthesis rfl hopen hcomment hbraces
  obtain ⟨behind, htokens⟩ := htokens
  rw [value_redact_of_le hl, value_redact_of_le hshort, htokens, ← masked_groups hvalues behind]
  simp only [redactTokens, List.map_append, List.flatten_append]
  rfl

/-- Texts that hold quotes, parentheses, commas and the marks of comments, and digits of two scripts,
    behind braces. -/
theorem sanitized_groups_of_quoted_parenthesis :
    (redact 99 (("\x7b\x7din" : Text) ++ ([[quoted ("'), (--" : Text), ("07" : Text)],
      [("1٢" : Text)]].map group).flatten)).value.sanitized = ("\x7b\x7din(?, ?)(?)" : Text) := by
  have htokens : tokenize ("\x7b\x7din" : Text) =
      [⟨.punctuation, ['{']⟩, ⟨.punctuation, ['}']⟩, ⟨.identifier, ("in" : Text)⟩] := by cbv
  have hbraces : ∀ us vs, tokenize ("\x7b\x7din" : Text) =
      us ++ ⟨.punctuation, [CodePoint.ofChar '{']⟩ :: vs →
        ∃ d ∈ (vs.map Token.text).flatten, isBrace d := by
    rw [htokens]
    rintro (_ | ⟨x, _ | ⟨y, _ | ⟨z, us⟩⟩⟩) vs hus
    · cases hus
      exact ⟨'}', by decide, by decide⟩
    · exact absurd (List.cons.inj (List.cons.inj hus).2).1 (by decide)
    · exact absurd (List.cons.inj (List.cons.inj (List.cons.inj hus).2).2).1 (by decide)
    · simp at hus
  have hvalues : ∀ values ∈ [[quoted ("'), (--" : Text), ("07" : Text)], [("1٢" : Text)]],
      values ≠ [] ∧ ∀ v ∈ values, IsValue v := by
    have h₁ : IsValue ("07" : Text) := @IsValue.digits '0' ("7" : Text) (by decide)
    have h₂ : IsValue ("1٢" : Text) := @IsValue.digits '1' ("٢" : Text) (by decide)
    simp only [List.forall_mem_cons]
    exact ⟨⟨by simp, .quoted _, h₁, List.forall_mem_nil _⟩, ⟨by simp, h₂, List.forall_mem_nil _⟩,
      List.forall_mem_nil _⟩
  have hshown := @sanitized_groups ("\x7b\x7din" : Text) _ 99 (by rw [htokens]; decide)
    (by rw [htokens]; decide) hbraces hvalues (by decide)
  have halone : (redact 99 ("\x7b\x7din" : Text)).value.sanitized = ("\x7b\x7din" : Text) := by
    rw [value_redact_of_le (by decide), htokens]
    rfl
  rw [halone] at hshown
  exact hshown

end Redaction.Sql
