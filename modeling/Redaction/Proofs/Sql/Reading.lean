/-
  What a token can be.

  There are a few ways to read a token, and each of them says what the token holds and what may
  stand behind it.

  * `Reads before r c u kind`: the token `c :: u`, between the character `before` and the text `r`, is
    read as one of this kind;
  * `reads_of_shape`: a token is read in one of these ways;
  * `Reads.name_ends`: where a token ends in a name, no name goes on;
  * `shape_of_tokensFrom`: a token in its place is read like the first token of what is left there.
-/
import Redaction.Proofs.Sql.Number

namespace Redaction.Sql

open CodePoint (quote doubleQuote backQuote)

/-- The characters that open a quoted text, with the kind of its token. -/
def quotedKinds : List (CodePoint × TokenKind) :=
  [(quote, .literal), (doubleQuote, .quotedIdentifier), (backQuote, .quotedIdentifier)]

/-- The ways to read a token `c :: u` that stands behind `before` and in front of `r`. -/
inductive Reads (before : Option CodePoint) (r : Text) : CodePoint → Text → TokenKind → Prop
  | blanks {c u} : (∀ d ∈ c :: u, d.isBlank) → Reads before r c u .whitespace
  | lineComment {u} : r.head?.any (· ≠ CodePoint.lineFeed) = false →
      Reads before r (CodePoint.ofChar '-') u .comment
  | blockComment {u} : u.getLast? = some (CodePoint.ofChar '/') ∨ r = [] →
      Reads before r (CodePoint.ofChar '/') u .comment
  | quoted {c u kind} : (c, kind) ∈ quotedKinds → quotedLength? c 0 u = some u.length →
      Reads before r c u kind
  | openQuote {c u kind} : (c, kind) ∈ quotedKinds → quotedLength? c 0 u = none → r = [] →
      Reads before r c u .unparsed
  | span {u} : parameterLength? u = some u.length →
      Reads before r (CodePoint.ofChar '{') u .parameterSpan
  | number {c u} : StartsNumber c (u ++ r) → continuesName before = false →
      numberLength (c :: (u ++ r)) = (c :: u).length → r.head?.any isNameChar = false →
      Reads before r c u .literal
  | name {c u} : (∀ d ∈ c :: u, isNameChar d) → r.head?.any isNameChar = false →
      (c.isDecimal → continuesName before = false → nameAfterNumber (c :: (u ++ r))) →
      Reads before r c u .identifier
  | pointName : r.head?.any CodePoint.isDecimal → continuesName before = false →
      nameAfterNumber (CodePoint.ofChar '.' :: r) →
      Reads before r (CodePoint.ofChar '.') [] .identifier
  | sign {c} : isNameChar c = false → Reads before r c [] .punctuation

section Reads

variable {before : Option CodePoint} {c : CodePoint} {u r : Text} {kind : TokenKind}

/-! ## All ways -/

theorem getLast?_of_blockCommentLength {n : Nat}
    (h : blockCommentLength n (u ++ r) = n + u.length) :
    u.getLast? = some (CodePoint.ofChar '/') ∨ r = [] := by
  induction u generalizing n with
  | nil =>
    cases r with
    | nil => exact .inr rfl
    | cons d r =>
      have := lt_blockCommentLength n d r
      simp at h
      omega
  | cons d u ih =>
    rw [List.cons_append, blockCommentLength_cons] at h
    split at h
    case isTrue hend =>
      have hlen : u.length = 1 := by
        simp only [List.length_cons] at h
        omega
      obtain ⟨e, rfl⟩ := List.length_eq_one_iff.1 hlen
      exact .inl hend.2
    case isFalse =>
      rcases ih (n := n + 1) (by simp only [List.length_cons] at h; omega) with hlast | hr
      · exact .inl (by rw [List.getLast?_cons, hlast]; rfl)
      · exact .inr hr

theorem reads_of_quotedShape {kind' : TokenKind} (hkind : (c, kind') ∈ quotedKinds)
    (h : quotedShape c kind' (u ++ r) = (kind, u.length)) : Reads before r c u kind := by
  unfold quotedShape at h
  cases hlen : quotedLength? c 0 (u ++ r) with
  | none =>
    rw [hlen] at h
    obtain ⟨rfl, hu⟩ := Prod.mk.inj h
    obtain rfl : r = [] := List.eq_nil_of_length_eq_zero (by rw [List.length_append] at hu; omega)
    rw [List.append_nil] at hlen
    exact .openQuote hkind hlen rfl
  | some n =>
    rw [hlen] at h
    obtain ⟨rfl, rfl⟩ := Prod.mk.inj h
    have hu := quotedLength?_resume (n := 0) (s := []) (by simp) (by rw [hlen, Nat.zero_add])
    rw [List.append_nil, Nat.zero_add] at hu
    exact .quoted hkind hu

theorem reads_of_brace (h : shape before '{' (u ++ r) = (kind, u.length)) :
    Reads before r '{' u kind := by
  rcases brace_of_shape h with ⟨rfl, hlen⟩ | ⟨rfl, rfl, -⟩
  · have hu := parameterLength?_resume hlen []
    rw [List.append_nil] at hu
    exact .span hu
  · exact .sign (by decide)

/-- A run of name characters that ends where `r` starts. -/
theorem reads_of_nameLength (hc : isNameChar c) (hlen : nameLength (u ++ r) = u.length)
    (htouch : c.isDecimal → continuesName before = false → nameAfterNumber (c :: (u ++ r))) :
    Reads before r c u .identifier := by
  obtain ⟨hu, hr⟩ := run_of_length_takeWhile hlen
  exact .name (List.forall_mem_cons.2 ⟨hc, hu⟩) hr htouch

theorem decimalLength_ne_zero (h : StartsNumber c r) : decimalLength (c :: r) ≠ 0 := by
  rcases h with hc | ⟨rfl, hr⟩
  · have hdigits : digitsLength (c :: r) ≠ 0 := by simp [digitsLength, hc]
    unfold decimalLength
    dsimp only
    split
    · exact hdigits
    · split <;> omega
  · have hwhole : digitsLength (CodePoint.ofChar '.' :: r) = 0 :=
      digitsLength_eq_zero (by rw [List.head?_cons]; decide)
    have hdigits : digitsLength r ≠ 0 := by
      cases r with
      | nil => cases hr
      | cons d r =>
        have hd : d.isDecimal := by simpa using hr
        simp [digitsLength, hd]
    rw [decimalLength_of_point (by rw [hwhole, List.drop_zero]) (.inr hdigits)]
    omega

theorem numberLength_ne_zero (h : StartsNumber c r) : numberLength (c :: r) ≠ 0 := by
  have := decimalLength_ne_zero h
  unfold numberLength
  split <;> omega

theorem reads_of_numberShape (hstart : StartsNumber c (u ++ r))
    (h : numberShape before c (u ++ r) = (kind, u.length)) : Reads before r c u kind := by
  have hname : c ≠ CodePoint.ofChar '.' → isNameChar c := by
    intro hpoint
    exact isNameChar_of_isDecimal (hstart.resolve_right fun hc => hpoint hc.1)
  have hdecimal : r = u ++ r → c = CodePoint.ofChar '.' → r.head?.any CodePoint.isDecimal := by
    rintro hr rfl
    rcases hstart with hc | ⟨-, hc⟩
    · exact absurd hc (by decide)
    · rwa [← hr] at hc
  cases hbefore : continuesName before with
  | true =>
    rw [numberShape_of_continuesName hbefore] at h
    split at h
    case isTrue hpoint =>
      obtain ⟨rfl, hu⟩ := Prod.mk.inj h
      obtain rfl := List.eq_nil_of_length_eq_zero hu.symm
      exact .sign (by rw [hpoint]; decide)
    case isFalse hpoint =>
      obtain ⟨rfl, hlen⟩ := Prod.mk.inj h
      exact reads_of_nameLength (hname hpoint) hlen (by simp [hbefore])
  | false =>
    rw [numberShape_of_not_continuesName hbefore] at h
    split at h
    case isTrue htouch =>
      obtain ⟨rfl, hlen⟩ := Prod.mk.inj h
      split at hlen
      case isTrue hpoint =>
        obtain rfl := List.eq_nil_of_length_eq_zero hlen.symm
        subst hpoint
        exact .pointName (hdecimal rfl rfl) hbefore htouch
      case isFalse hpoint => exact reads_of_nameLength (hname hpoint) hlen fun _ _ => htouch
    case isFalse htouch =>
      obtain ⟨rfl, hlen⟩ := Prod.mk.inj h
      have hne := numberLength_ne_zero hstart
      have hnumber : numberLength (c :: (u ++ r)) = (c :: u).length := by
        rw [List.length_cons]
        omega
      refine .number hstart hbefore hnumber ?_
      rwa [Bool.not_eq_true, nameAfterNumber, hnumber, ← List.cons_append, List.drop_left] at htouch

/-- **A token is read in one of these ways.** -/
theorem reads_of_shape (h : shape before c (u ++ r) = (kind, u.length)) : Reads before r c u kind := by
  by_cases hbrace : c = CodePoint.ofChar '{'
  · subst hbrace
    exact reads_of_brace h
  rw [shape_eq] at h
  split_ifs at h with h₁ h₂ h₃ h₄ h₅ h₆ h₇
  · obtain ⟨rfl, hlen⟩ := Prod.mk.inj h
    exact .blanks (List.forall_mem_cons.2 ⟨h₁, (run_of_length_takeWhile hlen).1⟩)
  · obtain ⟨rfl, hlen⟩ := Prod.mk.inj h
    obtain ⟨rfl, -⟩ := h₂
    exact .lineComment (run_of_length_takeWhile hlen).2
  · obtain ⟨rfl, hlen⟩ := Prod.mk.inj h
    obtain ⟨rfl, -⟩ := h₃
    cases u with
    | nil =>
      have := le_blockCommentLength 1 (r.drop 1)
      rw [List.nil_append, List.length_nil] at hlen
      omega
    | cons d u =>
      rw [List.cons_append, List.drop_one, List.tail_cons, List.length_cons, Nat.add_comm] at hlen
      refine .blockComment ?_
      rcases getLast?_of_blockCommentLength hlen with hlast | hr
      · exact .inl (by rw [List.getLast?_cons, hlast]; rfl)
      · exact .inr hr
  · exact reads_of_quotedShape (by rw [h₄]; decide) h
  · refine reads_of_quotedShape ?_ h
    rcases h₅ with rfl | rfl <;> decide
  · exact reads_of_numberShape h₆ h
  · obtain ⟨rfl, hlen⟩ := Prod.mk.inj h
    exact reads_of_nameLength h₇ hlen fun hc => absurd (.inl hc) h₆
  · obtain ⟨rfl, hlen⟩ := Prod.mk.inj h
    obtain rfl := List.eq_nil_of_length_eq_zero hlen.symm
    exact .sign (by simpa using h₇)

/-! ## Where a token starts and ends -/

/-- A literal is quoted, or a number. -/
theorem Reads.start_of_literal (h : Reads before r c u .literal) :
    c = quote ∨ StartsNumber c (u ++ r) := by
  cases h with
  | quoted hkind =>
    have hkinds : ∀ pair ∈ quotedKinds, pair.2 = .literal → pair.1 = quote := by decide
    exact .inl (hkinds _ hkind rfl)
  | number hstart => exact .inr hstart

theorem Reads.start_of_comment (h : Reads before r c u .comment) :
    c = CodePoint.ofChar '-' ∨ c = CodePoint.ofChar '/' := by
  cases h with
  | lineComment => exact .inl rfl
  | blockComment => exact .inr rfl
  | quoted hkind =>
    have hkinds : ∀ pair ∈ quotedKinds, pair.2 ≠ .comment := by decide
    exact absurd rfl (hkinds _ hkind)

theorem getLast?_of_quotedLength? {quote : CodePoint} {n : Nat} {u r : Text}
    (h : quotedLength? quote n (u ++ r) = some (n + u.length)) : u.getLast? = some quote := by
  induction u using quotedText_induction quote generalizing n with
  | nil =>
    have := lt_of_quotedLength? h
    simp at this
  | opened c u hc ih =>
    rw [List.cons_append, quotedLength?_open hc, add_length_cons] at h
    rw [List.getLast?_cons, ih h]
    rfl
  | doubled u ih =>
    rw [List.cons_append, List.cons_append, quotedLength?_doubled, add_length_cons,
      add_length_cons] at h
    rw [List.getLast?_cons, List.getLast?_cons, ih h]
    rfl
  | closed u hu =>
    cases u with
    | nil => rfl
    | cons d u =>
      have hclosed : quotedLength? quote n (quote :: d :: u ++ r) = some (n + 1) :=
        quotedLength?_closed hu
      rw [hclosed, List.length_cons, List.length_cons, Option.some.injEq] at h
      omega

theorem getLast?_of_parameterLength? (h : parameterLength? u = some u.length) :
    u.getLast? = some (CodePoint.ofChar '}') := by
  unfold parameterLength? at h
  dsimp only at h
  split at h
  · cases h
  case h_2 d more hdrop =>
    split at h
    case isFalse => cases h
    case isTrue hclose =>
      have hlen := congrArg List.length hdrop
      have hwhole : (u.takeWhile fun c => ! isBrace c).length + 1 = u.length := Option.some.inj h
      rw [List.length_drop, List.length_cons] at hlen
      obtain rfl : more = [] := List.eq_nil_of_length_eq_zero (by omega)
      rw [List.getLast?_eq_getElem?, ← hwhole, Nat.add_sub_cancel, ← List.head?_drop, hdrop, hclose.1]
      rfl

/-- **No name goes on behind a token** that ends in a name. -/
theorem Reads.name_ends (h : Reads before r c u kind)
    (hlast : (c :: u).getLast?.any isNameChar) : r.head?.any isNameChar = false := by
  have hnot : ∀ d, (c :: u).getLast? = some d → isNameChar d := by
    intro d hd
    simpa [hd] using hlast
  cases h with
  | blanks hblank =>
    have hmem := List.getLast_mem (List.cons_ne_nil c u)
    have hname := hnot _ (List.getLast?_eq_some_getLast (List.cons_ne_nil c u))
    rw [isNameChar_of_isBlank (hblank _ hmem)] at hname
    cases hname
  | lineComment hr =>
    cases r with
    | nil => rfl
    | cons d r =>
      obtain rfl : d = CodePoint.lineFeed := by simpa using hr
      rw [List.head?_cons]
      decide
  | blockComment hend =>
    rcases hend with hu | rfl
    · exact absurd (hnot (CodePoint.ofChar '/') (by rw [List.getLast?_cons, hu]; rfl)) (by decide)
    · rfl
  | quoted hkind hlen =>
    have hu : u.getLast? = some c :=
      getLast?_of_quotedLength? (n := 0) (r := []) (by rw [List.append_nil, hlen, Nat.zero_add])
    have hc := hnot c (by rw [List.getLast?_cons, hu]; rfl)
    have hquotes : ∀ pair ∈ quotedKinds, isNameChar pair.1 = false := by decide
    rw [hquotes _ hkind] at hc
    cases hc
  | openQuote _ _ hr => rw [hr]; rfl
  | span hlen =>
    exact absurd (hnot (CodePoint.ofChar '}')
      (by rw [List.getLast?_cons, getLast?_of_parameterLength? hlen]; rfl)) (by decide)
  | number _ _ _ hr => exact hr
  | name _ hr => exact hr
  | pointName => exact absurd (hnot (CodePoint.ofChar '.') rfl) (by decide)
  | sign hc =>
    rw [hnot c rfl] at hc
    cases hc

/-! ## Tokens in their places -/

/-- **A token in its place** is read like the first token of what is left there. -/
theorem shape_of_tokensFrom {t : Text} {xs ys : List Token} {token : Token}
    (h : tokensFrom before t = xs ++ token :: ys) :
    ∃ c u, token.text = c :: u ∧
      shape ((xs.map Token.text).flatten.getLast?.or before) c
        (u ++ (ys.map Token.text).flatten) = (token.kind, u.length) := by
  induction xs generalizing before t with
  | nil =>
    cases t with
    | nil => simp at h
    | cons c rest =>
      obtain ⟨kind, u, r, rfl, hshape⟩ := exists_shape before c rest
      rw [tokensFrom_of_shape hshape, List.nil_append, List.cons.injEq] at h
      obtain ⟨rfl, rfl⟩ := h
      refine ⟨c, u, rfl, ?_⟩
      rw [flatten_tokensFrom]
      exact hshape
  | cons x xs ih =>
    cases t with
    | nil => simp at h
    | cons c rest =>
      obtain ⟨kind, u, r, rfl, hshape⟩ := exists_shape before c rest
      rw [tokensFrom_of_shape hshape, List.cons_append, List.cons.injEq] at h
      obtain ⟨rfl, hmore⟩ := h
      obtain ⟨d, v, htext, hd⟩ := ih hmore
      refine ⟨d, v, htext, ?_⟩
      rw [List.map_cons, List.flatten_cons, List.getLast?_append, Option.or_assoc]
      rw [List.getLast?_cons] at hd ⊢
      exact hd

/-- Behind a token that ends in a name, the next one starts with none. -/
theorem head_of_tokensFrom {t : Text} {xs ys : List Token} {token : Token}
    (h : tokensFrom before t = xs ++ token :: ys)
    (hlast : (xs.map Token.text).flatten.getLast?.any isNameChar) :
    token.text.head?.any isNameChar = false := by
  rcases List.eq_nil_or_concat xs with rfl | ⟨xs, x, rfl⟩
  · cases hlast
  rw [List.concat_eq_append, List.append_assoc, List.singleton_append] at h
  obtain ⟨c, u, hx, hshape⟩ := shape_of_tokensFrom h
  have hlast' : (c :: u).getLast?.any isNameChar := by
    simpa [hx, List.getLast?_cons] using hlast
  obtain ⟨d, v, htoken⟩ := List.exists_cons_of_ne_nil
    (ne_nil_of_mem_tokensFrom (h ▸ by simp : token ∈ tokensFrom before t))
  have hend := (reads_of_shape hshape).name_ends hlast'
  simpa [htoken] using hend

/-- So a token that starts with a name continues none, unless it comes first. -/
theorem not_continuesName_of_tokensFrom {t : Text} {xs ys : List Token} {token : Token}
    (h : tokensFrom before t = xs ++ token :: ys) (hname : token.text.head?.any isNameChar)
    (hne : (xs.map Token.text).flatten ≠ []) :
    continuesName ((xs.map Token.text).flatten.getLast?.or before) = false := by
  have hlast := List.getLast?_eq_some_getLast hne
  by_contra hcontinues
  rw [hlast, Option.some_or, continuesName, Option.all_some, Bool.not_eq_false] at hcontinues
  rw [head_of_tokensFrom h (by rwa [hlast, Option.any_some])] at hname
  cases hname

end Reads

end Redaction.Sql
