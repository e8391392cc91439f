/-
  The tokens of a redacted statement.

  The placeholder of a literal is a sign of its own, so a redacted statement is mostly cut like the
  statement itself.  Three things look further than the literal that is gone: a point behind a number,
  digits with a point before a literal, and an open brace.

  * `exposes`: whether the redacted statement holds literals, told from the tokens of the statement;
  * `shapeAgain`: what becomes of a single token, and where it is freed;
  * `any_isLiteral_masked`: the literals of a redacted statement are those that its tokens expose.
-/
import Redaction.Proofs.Sql.Literal
import Redaction.Proofs.Sql.Masked

namespace Redaction.Sql

/-! ## What a redacted statement exposes -/

/-- A point that is a sign of its own. -/
def point : Token := ⟨.punctuation, [CodePoint.ofChar '.']⟩

/-- The point of a number that touches a name, as in `.5x`. It is cut off the number. -/
def pointName : Token := ⟨.identifier, [CodePoint.ofChar '.']⟩

/-- An open brace that starts no parameter. -/
def openBrace : Token := ⟨.punctuation, [CodePoint.ofChar '{']⟩

/-- Digits that are no literal. -/
def Token.isDigits (token : Token) : Bool :=
  token.kind = .identifier && token.text.all CodePoint.isDecimal

/-- The character before what follows a token. -/
def lastSeen (prev : Option Token) : Option CodePoint := prev.bind (·.text.getLast?)

/-- The character before what follows a redacted token. -/
def lastLeft (prev : Option Token) : Option CodePoint := prev.bind (·.redacted.getLast?)

/-- A point between a number and digits, as in `1.2.3.x`. It is part of the digits once the number is
    gone. -/
def freesPoint (prev : Option Token) (token : Token) (rest : List Token) : Bool :=
  prev.any Token.isLiteral && continuesName (lastSeen prev) && token = point &&
    rest.head?.any Token.isDigits

/-- Digits and a point before a literal, as in `1.0x5`. They are a number once the literal is gone. -/
def freesDigits (prev : Option Token) (token : Token) (rest : List Token) : Bool :=
  ! continuesName (lastSeen prev) && token.isDigits && rest.head? = some point &&
    startsLiteral (rest.drop 1)

/-- Whether a token that is no literal turns into one. -/
def frees (prev : Option Token) (token : Token) (rest : List Token) : Bool :=
  freesPoint prev token rest || freesDigits prev token rest

/-- Whether literals show up when tokens are redacted and cut again. A brace may start a parameter
    once the literals behind it are gone, as in `{a: b '{' "x} 5"`; what follows the parameter may be
    cut anywhere. -/
def exposes : Option Token → List Token → Bool
  | _, [] => false
  | prev, token :: rest =>
    frees prev token rest ||
      if token = openBrace then
        match parameterLength? (redactedText rest) with
        | some n =>
          (tokensFrom (some (CodePoint.ofChar '}')) ((redactedText rest).drop n)).any
            Token.isLiteral
        | none => exposes (some token) rest
      else exposes (some token) rest

/-- Only signs and names are freed. -/
theorem frees_eq_false {prev : Option Token} {kind : TokenKind} {text : Text} {rest : List Token}
    (hsign : kind ≠ .punctuation) (hname : kind ≠ .identifier) :
    frees prev ⟨kind, text⟩ rest = false := by
  simp [frees, freesPoint, freesDigits, Token.isDigits, point, hsign, hname]

/-! ## Before and behind a token -/

theorem lastLeft_of_literal {prev : Option Token} (h : prev.any Token.isLiteral) :
    lastLeft prev = some (CodePoint.ofChar '?') := by
  cases prev with
  | none => cases h
  | some token =>
    have hkind : token.kind = .literal := by simpa [Token.isLiteral] using h
    simp [lastLeft, Token.redacted, hkind, placeholder]

theorem lastLeft_of_not_literal {prev : Option Token} (h : prev.any Token.isLiteral = false) :
    lastLeft prev = lastSeen prev := by
  cases prev with
  | none => rfl
  | some token =>
    have hkind : token.kind ≠ .literal := by simpa [Token.isLiteral] using h
    simp [lastLeft, lastSeen, Token.redacted, hkind]

/-- No name goes on where a number ends. -/
def Separated (prev : Option Token) (t : Text) : Prop :=
  prev.any Token.isLiteral → continuesName (lastSeen prev) → t.head?.any isNameChar = false

section Step

variable {before : Option CodePoint} {c : CodePoint} {u r : Text} {kind : TokenKind}

/-- A literal is quoted, or a number that touches no name. -/
theorem separated_of_literal (h : shape before c (u ++ r) = (.literal, u.length)) :
    Separated (some ⟨.literal, c :: u⟩) r := by
  intro _ hlast
  refine (reads_of_shape h).name_ends ?_
  simpa [lastSeen, continuesName, List.getLast?_cons] using hlast

end Step

/-! ## A token once more -/

/-- What a token that is no literal becomes: the point of a number that touched a name is a sign where
    its digits are gone. -/
def kindAgain (token : Token) (rest : List Token) : TokenKind :=
  if token = pointName && startsLiteral rest then .punctuation else token.kind

/-- The shape of a token that is no literal when its text is redacted and cut again. It is as long as
    it was, unless it is freed. -/
inductive ShapeAgain (prev : Option Token) (token : Token) (rest : List Token) :
    TokenKind × Nat → Prop
  | freed {n} : frees prev token rest → ShapeAgain prev token rest (.literal, n)
  | kept {kind} : frees prev token rest = false → kind ≠ .literal →
      (prev.any Token.isLiteral = false → kind = kindAgain token rest) →
      ShapeAgain prev token rest (kind, token.text.length - 1)

theorem not_literal_of_continuesName {prev : Option Token} (h : continuesName (lastLeft prev)) :
    prev.any Token.isLiteral = false := by
  by_contra hliteral
  rw [lastLeft_of_literal (by simpa using hliteral)] at h
  exact absurd h (by decide)

theorem not_isDigits_of_startsLiteral {tokens : List Token} (h : startsLiteral tokens) :
    tokens.head?.any Token.isDigits = false := by
  cases tokens with
  | nil => rfl
  | cons token rest =>
    have hkind : token.kind = .literal := by simpa [startsLiteral, Token.isLiteral] using h
    simp [Token.isDigits, hkind]

theorem isDecimal_of_isDigits {before : Option CodePoint}
    (h : (tokensFrom before r).head?.any Token.isDigits) : r.head?.any CodePoint.isDecimal := by
  cases r with
  | nil => rw [tokensFrom_nil] at h; cases h
  | cons c rest =>
    obtain ⟨kind, u, r, rfl, hshape⟩ := exists_shape before c rest
    rw [tokensFrom_of_shape hshape, List.head?_cons, Option.any_some, Token.isDigits,
      Bool.and_eq_true, List.all_cons, Bool.and_eq_true] at h
    exact h.2.1

theorem continuesName_getLast? {t : Text} (h : ∀ d ∈ t, isNameChar d) :
    continuesName t.getLast? := by
  rw [continuesName, Option.all_eq_true]
  intro d hd
  exact h d (List.mem_of_getLast? hd)

section Step

variable {prev : Option Token}

/-- What starts with a character of a name follows no number that ends with one. -/
theorem Separated.not_continuesName (hsep : Separated prev (c :: r)) (hc : isNameChar c)
    (h : continuesName (lastLeft prev) = false) : continuesName (lastSeen prev) = false := by
  cases hliteral : prev.any Token.isLiteral with
  | true =>
    by_contra hbefore
    have hnone := hsep hliteral (by simpa using hbefore)
    rw [List.head?_cons, Option.any_some, hc] at hnone
    cases hnone
  | false => rwa [← lastLeft_of_not_literal hliteral]

/-- **Digits that are no literal** stay what they are, unless a point and a literal follow them. -/
theorem shapeAgain_digits (hc : c.isDecimal)
    (hshape : shape (lastSeen prev) c (u ++ r) = (kind, u.length)) (hkind : kind ≠ .literal)
    (hsep : Separated prev (c :: (u ++ r))) :
    ShapeAgain prev ⟨kind, c :: u⟩ (tokensFrom (c :: u).getLast? r)
      (shape (lastLeft prev) c (u ++ masked (c :: u).getLast? r)) := by
  obtain ⟨rfl, hrun, hend, htouch⟩ := name_of_shape hc hshape hkind
  have hpoint : c ≠ CodePoint.ofChar '.' := by rintro rfl; revert hc; decide
  have hmasked := (resumes_masked (c :: u).getLast? r).any_head (by decide) hend
  have hname : nameLength (u ++ masked (c :: u).getLast? r) = u.length :=
    length_takeWhile_of_run (List.forall_mem_cons.1 hrun).2 hmasked
  have hagain : kindAgain ⟨.identifier, c :: u⟩ (tokensFrom (c :: u).getLast? r) = .identifier := by
    simp [kindAgain, pointName, hpoint]
  have hkept : frees prev ⟨.identifier, c :: u⟩ (tokensFrom (c :: u).getLast? r) = false →
      ShapeAgain prev ⟨.identifier, c :: u⟩ (tokensFrom (c :: u).getLast? r)
        (.identifier, nameLength (u ++ masked (c :: u).getLast? r)) := by
    intro hfrees
    rw [hname]
    exact .kept hfrees (by decide) fun _ => hagain.symm
  rw [shape_of_startsNumber (.inl hc)]
  cases hleft : continuesName (lastLeft prev) with
  | true =>
    have hbefore : continuesName (lastSeen prev) := by
      rwa [← lastLeft_of_not_literal (not_literal_of_continuesName hleft)]
    rw [numberShape_of_continuesName hleft, if_neg hpoint]
    exact hkept (by simp [frees, freesPoint, point, freesDigits, hbefore])
  | false =>
    have hbefore := hsep.not_continuesName (isNameChar_of_isDecimal hc) hleft
    have htouch := htouch hbefore
    rw [numberShape_of_not_continuesName hleft, if_neg hpoint]
    obtain ⟨digits, name, hsplit, hne, hdigits, hnone⟩ := exists_digits hc u
    rw [cons_append_of_split hsplit] at htouch ⊢
    cases name with
    | nil =>
      -- the digits are all there is, so a point goes on with the number
      obtain ⟨r, rfl, hstays⟩ := nameAfterNumber_digits_masked hne hdigits hend htouch
      have hlast := continuesName_getLast? hrun
      have hrest : tokensFrom (c :: u).getLast? (CodePoint.ofChar '.' :: r) =
          point :: tokensFrom (some (CodePoint.ofChar '.')) r :=
        tokensFrom_of_shape (u := []) (shape_point (.inr hlast))
      have hfrees : frees prev ⟨.identifier, c :: u⟩
          (tokensFrom (c :: u).getLast? (CodePoint.ofChar '.' :: r)) =
            startsLiteral (tokensFrom (some (CodePoint.ofChar '.')) r) := by
        have hdigit : Token.isDigits ⟨.identifier, c :: u⟩ := by
          simpa [Token.isDigits, hsplit] using hdigits
        have hpoint : (⟨.identifier, c :: u⟩ : Token) ≠ point := by simp [point]
        simp [frees, freesPoint, hpoint, freesDigits, hbefore, hdigit, hrest]
      rw [List.nil_append, hstays _ hlast]
      cases hliteral : startsLiteral (tokensFrom (some (CodePoint.ofChar '.')) r) with
      | true => exact .freed (hfrees.trans hliteral)
      | false => exact hkept (hfrees.trans hliteral)
    | cons x name =>
      have hx : x.isDecimal = false := by simpa using hnone
      rw [hsplit] at hrun
      have hname' := (List.forall_mem_append.1 hrun).2
      rw [if_pos (nameAfterNumber_masked hne hdigits hend hx hname' htouch)]
      refine hkept ?_
      simp [frees, freesPoint, point, freesDigits, Token.isDigits, hsplit, hx]

theorem frees_point (prev : Option Token) (kind : TokenKind) (rest : List Token) :
    frees prev ⟨kind, [CodePoint.ofChar '.']⟩ rest =
      freesPoint prev ⟨kind, [CodePoint.ofChar '.']⟩ rest := by
  have hpoint : (CodePoint.ofChar '.').isDecimal = false := by decide
  simp [frees, freesDigits, Token.isDigits, hpoint]

/-- A point before a literal is a sign again. -/
theorem shapeAgain_point_literal (hnumber : r.head?.any CodePoint.isDecimal)
    (hshape : shape (lastSeen prev) '.' r = (kind, 0)) (hkind : kind ≠ .literal)
    (hliteral : startsLiteral (tokensFrom (some (CodePoint.ofChar '.')) r)) :
    ShapeAgain prev ⟨kind, [CodePoint.ofChar '.']⟩ (tokensFrom (some (CodePoint.ofChar '.')) r)
      (shape (lastLeft prev) '.' (masked (some (CodePoint.ofChar '.')) r)) := by
  obtain ⟨more, hmore⟩ := masked_of_startsLiteral hliteral
  have hquestion : (CodePoint.ofChar '?').isDecimal = false := by decide
  rw [shape_point (.inl (by rw [hmore]; simpa using hquestion))]
  refine .kept ?_ (by decide) fun _ => ?_
  · rw [frees_point, freesPoint, not_isDigits_of_startsLiteral hliteral, Bool.and_false]
  · obtain ⟨-, ⟨-, rfl⟩ | ⟨-, rfl, -⟩⟩ := point_of_shape hnumber hshape hkind
    · simp [kindAgain, pointName]
    · simp [kindAgain, pointName, hliteral]

/-- A point before digits that are no literal is a sign behind a name. Elsewhere it is a literal only
    if nothing but digits follow. -/
theorem shapeAgain_point_digits {d : CodePoint} (hd : d.isDecimal)
    (hshape : shape (lastSeen prev) '.' (d :: (u ++ r)) = (kind, 0)) (hkind : kind ≠ .literal)
    (hdigits : shape (some (CodePoint.ofChar '.')) d (u ++ r) = (.identifier, u.length)) :
    ShapeAgain prev ⟨kind, [CodePoint.ofChar '.']⟩
      (⟨.identifier, d :: u⟩ :: tokensFrom (d :: u).getLast? r)
      (shape (lastLeft prev) '.' (d :: (u ++ masked (d :: u).getLast? r))) := by
  obtain ⟨-, hrun, hend, htouch⟩ := name_of_shape hd hdigits (by decide)
  have hmasked := (resumes_masked (d :: u).getLast? r).any_head (by decide) hend
  have hhead : (d :: (u ++ r)).head?.any CodePoint.isDecimal := hd
  have hbefore := (point_of_shape hhead hshape hkind).2
  have hagain : kind = kindAgain ⟨kind, [CodePoint.ofChar '.']⟩
      (⟨.identifier, d :: u⟩ :: tokensFrom (d :: u).getLast? r) := by
    simp [kindAgain, startsLiteral, Token.isLiteral]
  cases hleft : continuesName (lastLeft prev) with
  | true =>
    have hplain := not_literal_of_continuesName hleft
    obtain ⟨-, rfl⟩ : continuesName (lastSeen prev) ∧ kind = .punctuation := by
      refine hbefore.resolve_right fun h => ?_
      rw [lastLeft_of_not_literal hplain, h.1] at hleft
      cases hleft
    rw [shape_point (.inr hleft)]
    refine .kept ?_ (by decide) fun _ => hagain
    rw [frees_point, freesPoint, hplain]
    rfl
  | false =>
    have hnumber : StartsNumber '.' (d :: (u ++ masked (d :: u).getLast? r)) := .inr ⟨rfl, hd⟩
    rw [shape_of_startsNumber hnumber, numberShape_of_not_continuesName hleft, if_pos rfl]
    obtain ⟨digits, name, hsplit, hne, hdecimal, hnone⟩ := exists_digits hd u
    rw [cons_append_of_split hsplit] at hbefore htouch ⊢
    cases name with
    | nil =>
      have hnot : ∀ w : Text, w.head?.any isNameChar = false →
          nameAfterNumber (CodePoint.ofChar '.' :: (digits ++ ([] ++ w))) = false :=
        fun w hw => nameAfterNumber_point_digits hne hdecimal hw
      obtain ⟨hname, rfl⟩ : continuesName (lastSeen prev) ∧ kind = .punctuation := by
        refine hbefore.resolve_right fun h => ?_
        rw [hnot r hend] at h
        cases h.2.2
      have hliteral : prev.any Token.isLiteral := by
        by_contra hplain
        rw [lastLeft_of_not_literal (by simpa using hplain), hname] at hleft
        cases hleft
      have hdigit : Token.isDigits ⟨.identifier, d :: u⟩ := by
        simpa [Token.isDigits, hsplit] using hdecimal
      rw [if_neg (by rw [hnot _ hmasked]; decide)]
      refine .freed ?_
      simp [frees_point, freesPoint, hliteral, hname, point, hdigit]
    | cons x name =>
      have hx : x.isDecimal = false := by simpa using hnone
      rw [hsplit] at hrun
      have hname' := (List.forall_mem_append.1 hrun).2
      have hstays : nameAfterNumber
          (CodePoint.ofChar '.' :: (digits ++ (x :: name ++ masked (d :: u).getLast? r))) :=
        nameAfterNumber_point_masked hne hdecimal hend hx hname' (htouch (by decide))
      rw [if_pos hstays]
      refine .kept ?_ (by decide) fun hplain => ?_
      · simp [frees_point, freesPoint, Token.isDigits, hsplit, hx]
      · rw [lastLeft_of_not_literal hplain] at hleft
        rcases hbefore with ⟨hname, -⟩ | ⟨-, rfl, -⟩
        · rw [hname] at hleft
          cases hleft
        · exact hagain

/-- **A point before digits**, once more. -/
theorem shapeAgain_point (hnumber : r.head?.any CodePoint.isDecimal)
    (hshape : shape (lastSeen prev) '.' r = (kind, 0)) (hkind : kind ≠ .literal) :
    ShapeAgain prev ⟨kind, [CodePoint.ofChar '.']⟩ (tokensFrom (some (CodePoint.ofChar '.')) r)
      (shape (lastLeft prev) '.' (masked (some (CodePoint.ofChar '.')) r)) := by
  cases hliteral : startsLiteral (tokensFrom (some (CodePoint.ofChar '.')) r) with
  | true => exact shapeAgain_point_literal hnumber hshape hkind hliteral
  | false =>
    obtain ⟨d, rest, rfl⟩ : ∃ d rest, r = d :: rest := by
      cases r with
      | nil => cases hnumber
      | cons d rest => exact ⟨d, rest, rfl⟩
    have hd : d.isDecimal := hnumber
    obtain ⟨u, r, rfl, hdigits, -⟩ := exists_name hd hliteral
    rw [tokensFrom_of_shape hdigits, masked_of_not_literal hdigits (by decide)]
    exact shapeAgain_point_digits hd hshape hkind hdigits

/-- **A token that is no literal and no brace**, once more. -/
theorem shapeAgain (hshape : shape (lastSeen prev) c (u ++ r) = (kind, u.length))
    (hkind : kind ≠ .literal) (hbrace : c ≠ CodePoint.ofChar '{')
    (hsep : Separated prev (c :: (u ++ r))) :
    ShapeAgain prev ⟨kind, c :: u⟩ (tokensFrom (c :: u).getLast? r)
      (shape (lastLeft prev) c (u ++ masked (c :: u).getLast? r)) := by
  by_cases hnumber : StartsNumber c (u ++ r)
  · rcases hnumber with hc | ⟨rfl, hdigit⟩
    · exact shapeAgain_digits hc hshape hkind hsep
    · obtain rfl := List.eq_nil_of_length_eq_zero (point_of_shape hdigit hshape hkind).1
      exact shapeAgain_point hdigit hshape hkind
  rw [shape_resume hshape (resumes_masked _ r) hnumber hbrace]
  have hdigits : Token.isDigits ⟨kind, c :: u⟩ = false := by
    by_contra h
    simp only [Token.isDigits, List.all_cons, Bool.not_eq_false, Bool.and_eq_true] at h
    exact hnumber (.inl h.2.1)
  have hpoint : ∀ kind', (⟨kind, c :: u⟩ : Token) = ⟨kind', [CodePoint.ofChar '.']⟩ →
      kind' = .punctuation ∧ r.head?.any CodePoint.isDecimal = false := by
    rintro kind' ⟨⟩
    have hdigit : r.head?.any CodePoint.isDecimal = false := by
      by_contra h
      exact hnumber (.inr ⟨rfl, by simpa using h⟩)
    rw [List.nil_append, shape_point (.inl hdigit)] at hshape
    exact ⟨(Prod.mk.inj hshape).1.symm, hdigit⟩
  refine .kept ?_ hkind fun _ => ?_
  · by_contra h
    simp only [frees, freesPoint, freesDigits, hdigits, Bool.and_false, Bool.false_and,
      Bool.or_false, Bool.not_eq_false, Bool.and_eq_true, decide_eq_true_eq] at h
    have hhead := isDecimal_of_isDigits h.2
    rw [(hpoint _ h.1.2).2] at hhead
    cases hhead
  · rw [kindAgain, if_neg]
    intro h
    simp only [Bool.and_eq_true, decide_eq_true_eq] at h
    cases (hpoint _ h.1).1

end Step

/-! ## All tokens once more -/

section Again

variable {before : Option CodePoint} {c : CodePoint} {u r : Text} {kind : TokenKind}

theorem any_isLiteral_of_shape {rest : Text} {n : Nat}
    (h : shape before c rest = (.literal, n)) :
    (tokensFrom before (c :: rest)).any Token.isLiteral := by
  rw [tokensFrom_cons, List.any_cons]
  simp [firstToken, h, Token.isLiteral]

/-- A parameter ends with its closing brace. -/
theorem tokensFrom_of_parameter (before : Option CodePoint) {t : Text} {n : Nat}
    (h : parameterLength? t = some n) :
    tokensFrom before (CodePoint.ofChar '{' :: t) =
      ⟨.parameterSpan, CodePoint.ofChar '{' :: t.take n⟩ ::
        tokensFrom (some (CodePoint.ofChar '}')) (t.drop n) := by
  have hshape : shape before '{' (t.take n ++ t.drop n) = (.parameterSpan, (t.take n).length) := by
    rw [List.take_append_drop, List.length_take, Nat.min_eq_left (parameterLength?_le h),
      shape_of_brace, h]
  have hlast : (t.take n).getLast? = some (CodePoint.ofChar '}') := by
    unfold parameterLength? at h
    dsimp only at h
    split at h
    · cases h
    case h_2 c more hdrop =>
      split at h
      case isTrue hparameter =>
        cases h
        rw [List.take_add, hdrop, hparameter.1]
        simp
      case isFalse => cases h
  have htokens := tokensFrom_of_shape hshape
  rwa [List.take_append_drop, List.getLast?_cons, hlast] at htokens

theorem tokensFrom_of_openBrace (before : Option CodePoint) {t : Text}
    (h : parameterLength? t = none) :
    tokensFrom before (CodePoint.ofChar '{' :: t) =
      openBrace :: tokensFrom (some (CodePoint.ofChar '{')) t := by
  have hshape : shape before '{' ([] ++ t) = (.punctuation, 0) := by
    rw [shape_of_brace, List.nil_append, h]
  exact tokensFrom_of_shape (u := []) hshape

theorem tokensFrom_masked_of_literal (left : Option CodePoint)
    (h : shape before c (u ++ r) = (.literal, u.length)) :
    tokensFrom left (masked before (c :: (u ++ r))) =
      ⟨.punctuation, [CodePoint.ofChar '?']⟩ ::
        tokensFrom (some (CodePoint.ofChar '?')) (masked (c :: u).getLast? r) := by
  have hsign : shape left '?' ([] ++ masked (c :: u).getLast? r) = (.punctuation, 0) :=
    shape_sign (by decide) _ _
  rw [masked_of_literal h]
  exact tokensFrom_of_shape (u := []) hsign

theorem exposes_cons {prev : Option Token} {token : Token} {rest : List Token}
    (hfrees : frees prev token rest = false) (hbrace : token ≠ openBrace) :
    exposes prev (token :: rest) = exposes (some token) rest := by
  rw [exposes, hfrees, Bool.false_or, if_neg hbrace]

theorem exposes_openBrace (prev : Option Token) (rest : List Token) :
    exposes prev (openBrace :: rest) =
      match parameterLength? (redactedText rest) with
      | some n =>
        (tokensFrom (some (CodePoint.ofChar '}')) ((redactedText rest).drop n)).any Token.isLiteral
      | none => exposes (some openBrace) rest := by
  have hpoint : openBrace ≠ point := by decide
  have hdigits : openBrace.isDigits = false := by decide
  have hfrees : frees prev openBrace rest = false := by
    simp [frees, freesPoint, freesDigits, hpoint, hdigits]
  rw [exposes, hfrees, if_pos rfl]
  rfl

theorem separated_of_not_literal {prev : Option Token} (h : prev.any Token.isLiteral = false)
    (t : Text) : Separated prev t := by
  intro hliteral
  rw [h] at hliteral
  cases hliteral

/-- **The literals of a redacted text** are those that its tokens expose. -/
theorem any_isLiteral_masked {prev : Option Token} {t : Text} (hsep : Separated prev t) :
    (tokensFrom (lastLeft prev) (masked (lastSeen prev) t)).any Token.isLiteral =
      exposes prev (tokensFrom (lastSeen prev) t) := by
  generalize hbefore : lastSeen prev = before
  induction before, t using tokensFrom_induction generalizing prev with
  | nil before => simp [exposes]
  | token before c u r kind hshape ih =>
    subst hbefore
    rw [tokensFrom_of_shape hshape]
    by_cases hkind : kind = .literal
    · subst hkind
      rw [tokensFrom_masked_of_literal _ hshape,
        exposes_cons (frees_eq_false (by decide) (by decide)) (by simp [openBrace])]
      exact ih (separated_of_literal hshape) rfl
    have hplain : (some (⟨kind, c :: u⟩ : Token)).any Token.isLiteral = false := by
      simpa [Token.isLiteral] using hkind
    have ih := ih (separated_of_not_literal hplain r) rfl
    rw [lastLeft_of_not_literal hplain] at ih
    rw [masked_of_not_literal hshape hkind]
    by_cases hbrace : c = CodePoint.ofChar '{'
    · subst hbrace
      rcases brace_of_shape hshape with ⟨rfl, -⟩ | ⟨rfl, rfl, -⟩
      · rw [tokensFrom_of_shape (shape_span_resume hshape), List.any_cons,
          exposes_cons (frees_eq_false (by decide) (by decide)) (by simp [openBrace])]
        exact ih
      · refine Eq.trans ?_ (exposes_openBrace prev _).symm
        rw [List.nil_append, List.getLast?_singleton, ← masked]
        cases hlen : parameterLength? (masked (some (CodePoint.ofChar '{')) r) with
        | some n =>
          rw [tokensFrom_of_parameter _ hlen]
          rfl
        | none =>
          rw [tokensFrom_of_openBrace _ hlen]
          exact ih
    · have hopen : (⟨kind, c :: u⟩ : Token) ≠ openBrace := by simp [openBrace, hbrace]
      have hagain := shapeAgain hshape hkind hbrace hsep
      generalize hshape' : shape (lastLeft prev) c (u ++ masked (c :: u).getLast? r) = shape'
        at hagain
      cases hagain with
      | freed hfrees =>
        rw [exposes, hfrees, any_isLiteral_of_shape hshape']
        rfl
      | @kept kind' hfrees hkind' =>
        have hnot : Token.isLiteral ⟨kind', c :: u⟩ = false := by
          simpa [Token.isLiteral] using hkind'
        rw [exposes_cons hfrees hopen, tokensFrom_of_shape hshape', List.any_cons, hnot,
          Bool.false_or]
        exact ih

end Again

end Redaction.Sql
