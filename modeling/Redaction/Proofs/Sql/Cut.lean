/-
  Statements that are cut off inside of a literal.

  What is left of the statement is cut into tokens anew: the literal may be read as something else, and
  the tokens before it may go on differently.

  * `IsNumber t`: a text is a number as a whole;
  * `shape_prefix`: a token before the cut stays as it is, unless it starts a number that goes up to the
    cut;
  * `Joins before xs w`: one of the tokens `xs` starts such a number, where `w` is left of the literal;
  * `tokensFrom_before_cut`: if none does, the tokens before the literal stay as they are;
  * `redactedText_left`: what is shown of the literal;
  * `sanitized_of_cut`: what is shown of the statement.
-/
import Redaction.Proofs.Sql.NumberPrefix
import Redaction.Proofs.Sql.Partition

namespace Redaction.Sql

open CodePoint (quote)

/-! ## Numbers up to the end -/

/-- A text that is a number as a whole. -/
def IsNumber : Text → Prop
  | [] => False
  | c :: rest => StartsNumber c rest ∧ numberLength (c :: rest) = (c :: rest).length

instance : DecidablePred IsNumber
  | [] => inferInstanceAs (Decidable False)
  | c :: rest =>
    inferInstanceAs (Decidable (StartsNumber c rest ∧ numberLength (c :: rest) = (c :: rest).length))

section Number

variable {before : Option CodePoint} {c : CodePoint} {rest t : Text} {kind : TokenKind}

/-- A token that takes all of a text is its only one. -/
theorem tokensFrom_whole (h : shape before c rest = (kind, rest.length)) :
    tokensFrom before (c :: rest) = [⟨kind, c :: rest⟩] := by
  have htokens := tokensFrom_of_shape (r := []) (by rwa [List.append_nil])
  rwa [List.append_nil, tokensFrom_nil] at htokens

/-- Behind a number that is all of a text, no name goes on. -/
theorem IsNumber.nameAfterNumber (h : IsNumber t) : nameAfterNumber t = false := by
  cases t with
  | nil => exact h.elim
  | cons c rest =>
    rw [Sql.nameAfterNumber, h.2, List.drop_length]
    rfl

theorem tokensFrom_of_isNumber (hbefore : continuesName before = false) (h : IsNumber t) :
    tokensFrom before t = [⟨.literal, t⟩] := by
  cases t with
  | nil => exact h.elim
  | cons c rest =>
    refine tokensFrom_whole ?_
    rw [shape_of_startsNumber h.1, numberShape_of_not_continuesName hbefore, h.nameAfterNumber, h.2]
    rfl

end Number

/-! ## A token before the cut -/

section Shape

variable {before : Option CodePoint} {c : CodePoint} {u r z : Text} {kind : TokenKind}

/-- A brace that starts no parameter starts none where the text is cut off. -/
theorem parameterLength?_prefix (h : parameterLength? (r ++ z) = none) : parameterLength? r = none := by
  by_cases hbrace : ∃ d ∈ r, isBrace d
  · rwa [parameterLength?_append hbrace] at h
  · have hall : r.takeWhile (fun c => ! isBrace c) = r := by
      refine List.takeWhile_eq_self_iff.2 fun d hd => ?_
      by_contra hd'
      exact hbrace ⟨d, hd, by simpa using hd'⟩
    unfold parameterLength?
    dsimp only
    rw [hall, List.drop_length]

theorem head?_append_of_ne_nil (hr : r ≠ []) (z : Text) : (r ++ z).head? = r.head? := by
  cases r with
  | nil => exact absurd rfl hr
  | cons d r => rfl

theorem startsNumber_prefix_iff (hr : r ≠ []) :
    StartsNumber c (u ++ (r ++ z)) ↔ StartsNumber c (u ++ r) := by
  have hhead : (u ++ (r ++ z)).head? = (u ++ r).head? := by
    rw [← List.append_assoc, head?_append_of_ne_nil (by simp [hr])]
  rw [StartsNumber, StartsNumber, hhead]

/-- A name that ends before the cut ends there. -/
theorem nameLength_prefix (hr : r ≠ []) (h : nameLength (u ++ (r ++ z)) = u.length) :
    nameLength (u ++ r) = u.length := by
  obtain ⟨hu, hhead⟩ := run_of_length_takeWhile h
  rw [head?_append_of_ne_nil hr] at hhead
  exact length_takeWhile_of_run hu hhead

/-- A number, or a name that starts like one, stays as it is. -/
theorem numberShape_prefix (h : numberShape before c (u ++ (r ++ z)) = (kind, u.length)) (hr : r ≠ [])
    (hstart : StartsNumber c (u ++ r))
    (hjoin : continuesName before = false → ¬ IsNumber (c :: (u ++ r))) :
    numberShape before c (u ++ r) = (kind, u.length) := by
  cases hbefore : continuesName before with
  | true =>
    rw [numberShape_of_continuesName hbefore] at h ⊢
    split at h
    case isTrue hpoint => rwa [if_pos hpoint]
    case isFalse hpoint =>
      obtain ⟨rfl, hlength⟩ := Prod.mk.inj h
      rw [if_neg hpoint, nameLength_prefix hr hlength]
  | false =>
    rw [numberShape_of_not_continuesName hbefore] at h ⊢
    have hlonger : c :: (u ++ (r ++ z)) = c :: (u ++ r) ++ z := by simp
    have hshort : numberLength (c :: (u ++ r)) < (c :: (u ++ r)).length :=
      Nat.lt_of_le_of_ne (numberLength_le _) fun hlength => hjoin hbefore ⟨hstart, hlength⟩
    have hidentifier (hname : (TokenKind.identifier,
          if c = CodePoint.ofChar '.' then 0 else nameLength (u ++ (r ++ z))) = (kind, u.length)) :
        (TokenKind.identifier, if c = CodePoint.ofChar '.' then 0 else nameLength (u ++ r)) =
          (kind, u.length) := by
      split at hname
      case isTrue hpoint => rwa [if_pos hpoint]
      case isFalse hpoint =>
        obtain ⟨rfl, hlength⟩ := Prod.mk.inj hname
        rw [if_neg hpoint, nameLength_prefix hr hlength]
    rcases numberLength_prefix (c :: (u ++ r)) z with hlength | ⟨hcut, hlength⟩
    · -- the number ends before the cut, and the same character is behind it
      have hsame : numberLength (c :: (u ++ (r ++ z))) = numberLength (c :: (u ++ r)) := by
        rw [hlonger]
        omega
      have hname : nameAfterNumber (c :: (u ++ (r ++ z))) = nameAfterNumber (c :: (u ++ r)) := by
        rw [nameAfterNumber, hsame, hlonger, List.drop_append_of_le_length (Nat.le_of_lt hshort),
          head?_append_of_ne_nil (fun hnil => absurd (List.drop_eq_nil_iff.1 hnil) (by omega)),
          nameAfterNumber]
      rw [hname, hsame] at h
      split at h
      case isTrue htouch => rw [if_pos htouch, hidentifier h]
      case isFalse htouch => rwa [if_neg htouch]
    · -- the number goes on behind the cut, so that it is no literal
      have hhangs : Hangs (c :: (u ++ r)) := hcut.resolve_left (by simp [hr])
      have htouch : nameAfterNumber (c :: (u ++ r)) := @Hangs.nameAfterNumber c [] _ hhangs hstart
      rw [if_pos htouch]
      split at h
      case isTrue => exact hidentifier h
      case isFalse =>
        have hu := (Prod.mk.inj h).2
        rw [← hlonger] at hlength
        simp only [List.length_cons, List.length_append] at hlength
        omega

/-- **A token before the cut stays as it is**, unless it starts a number that goes up to the cut. -/
theorem shape_prefix (h : shape before c (u ++ (r ++ z)) = (kind, u.length)) (hr : r ≠ [])
    (hjoin : continuesName before = false → ¬ IsNumber (c :: (u ++ r))) :
    shape before c (u ++ r) = (kind, u.length) := by
  by_cases hnumber : StartsNumber c (u ++ (r ++ z))
  · have hnumber' := (startsNumber_prefix_iff hr).1 hnumber
    rw [shape_of_startsNumber hnumber] at h
    rw [shape_of_startsNumber hnumber']
    exact numberShape_prefix h hr hnumber' hjoin
  by_cases hbrace : c = CodePoint.ofChar '{'
  · subst hbrace
    rcases brace_of_shape h with ⟨rfl, -⟩ | ⟨rfl, rfl, hnone⟩
    · exact shape_span_resume h
    · rw [shape_of_brace, List.nil_append, parameterLength?_prefix hnone]
      rfl
  · have hresumes : Resumes (r ++ z) r :=
      ⟨by simp [hr], .inl (head?_append_of_ne_nil hr z).symm⟩
    exact shape_resume h hresumes hnumber hbrace

end Shape

/-! ## The tokens before the cut -/

/-- One of the tokens starts a number that goes up to the cut, where `w` is what is left behind them: so
    does `1e` of `1e+5e5`, once the last letter and digit are cut off. -/
def Joins (before : Option CodePoint) (xs : List Token) (w : Text) : Prop :=
  ∃ us x vs, xs = us ++ x :: vs ∧
    continuesName ((us.map Token.text).flatten.getLast?.or before) = false ∧
      IsNumber (((x :: vs).map Token.text).flatten ++ w)

section Before

variable {before : Option CodePoint} {x : Token} {xs tail : List Token} {w z : Text}

theorem not_joins_nil : ¬ Joins before [] w := by
  rintro ⟨us, x, vs, h, -⟩
  cases us <;> cases h

/-- A token that comes first is read at the start of the text, and the others behind it. -/
theorem shape_of_tokensFrom_cons {ys : List Token} {v : Text}
    (h : tokensFrom before (x.text ++ v) = x :: ys) :
    ∃ c u, x.text = c :: u ∧ shape before c (u ++ v) = (x.kind, u.length) ∧
      tokensFrom x.text.getLast? v = ys := by
  obtain ⟨c, u, htext, hshape⟩ := @shape_of_tokensFrom before _ [] ys x h
  have hv : (ys.map Token.text).flatten = v := by
    have hall := flatten_tokensFrom before (x.text ++ v)
    rw [h, List.map_cons, List.flatten_cons] at hall
    exact List.append_cancel_left hall
  rw [hv] at hshape
  refine ⟨c, u, htext, hshape, ?_⟩
  rw [htext, List.cons_append, @tokensFrom_of_shape before _ _ _ _ hshape] at h
  rw [htext]
  exact (List.cons.inj h).2

theorem getLast?_flatten_cons (hx : x.text ≠ []) (us : List Token) :
    ((x :: us).map Token.text).flatten.getLast?.or before =
      (us.map Token.text).flatten.getLast?.or x.text.getLast? := by
  obtain ⟨c, hc⟩ := Option.isSome_iff_exists.1 (List.getLast?_isSome.2 hx)
  rw [List.map_cons, List.flatten_cons, List.getLast?_append, Option.or_assoc, hc, Option.some_or]

theorem joins_cons_iff (hx : x.text ≠ []) : Joins before (x :: xs) w ↔
    (continuesName before = false ∧ IsNumber (((x :: xs).map Token.text).flatten ++ w)) ∨
      Joins x.text.getLast? xs w := by
  constructor
  · rintro ⟨us, y, vs, hxs, hbefore, hnumber⟩
    cases us with
    | nil =>
      rw [List.nil_append] at hxs
      obtain ⟨rfl, rfl⟩ := List.cons.inj hxs
      exact .inl ⟨hbefore, hnumber⟩
    | cons u us =>
      rw [List.cons_append] at hxs
      obtain ⟨rfl, rfl⟩ := List.cons.inj hxs
      rw [getLast?_flatten_cons hx] at hbefore
      exact .inr ⟨us, y, vs, rfl, hbefore, hnumber⟩
  · rintro (⟨hbefore, hnumber⟩ | ⟨us, y, vs, rfl, hbefore, hnumber⟩)
    · exact ⟨[], x, xs, rfl, hbefore, hnumber⟩
    · exact ⟨x :: us, y, vs, rfl, by rwa [getLast?_flatten_cons hx], hnumber⟩

/-- **The tokens before the cut stay as they are**, unless one of them starts a number that goes up to
    it. Then that number is the last token. -/
theorem tokensFrom_before_cut (hw : w ≠ [])
    (h : tokensFrom before ((xs.map Token.text).flatten ++ (w ++ z)) = xs ++ tail) :
    (¬ Joins before xs w → tokensFrom before ((xs.map Token.text).flatten ++ w) =
        xs ++ tokensFrom ((xs.map Token.text).flatten.getLast?.or before) w) ∧
      (Joins before xs w → ∃ us x vs, xs = us ++ x :: vs ∧
        tokensFrom before ((xs.map Token.text).flatten ++ w) =
          us ++ [⟨.literal, ((x :: vs).map Token.text).flatten ++ w⟩]) := by
  induction xs generalizing before with
  | nil => exact ⟨fun _ => rfl, fun hjoins => absurd hjoins not_joins_nil⟩
  | cons x xs ih =>
    have hcons : ∀ (xs : List Token) (v : Text),
        ((x :: xs).map Token.text).flatten ++ v = x.text ++ ((xs.map Token.text).flatten ++ v) := by
      simp
    rw [hcons] at h
    obtain ⟨c, u, htext, hshape, hmore⟩ := shape_of_tokensFrom_cons h
    have hx : x.text ≠ [] := by simp [htext]
    rw [joins_cons_iff hx, getLast?_flatten_cons hx, hcons]
    by_cases hjoin : continuesName before = false ∧
        IsNumber (x.text ++ ((xs.map Token.text).flatten ++ w))
    · refine ⟨fun hnot => absurd (.inl hjoin) hnot, fun _ => ⟨[], x, xs, rfl, ?_⟩⟩
      rw [hcons, tokensFrom_of_isNumber hjoin.1 hjoin.2, List.nil_append]
    · -- the token stays, and the others are found behind it
      have hstays : ∀ ts, tokensFrom x.text.getLast? ((xs.map Token.text).flatten ++ w) = ts →
          tokensFrom before (x.text ++ ((xs.map Token.text).flatten ++ w)) = x :: ts := by
        rintro ts rfl
        rw [← List.append_assoc _ w z] at hshape
        have hprefix := shape_prefix hshape (by simp [hw]) fun hbefore hnumber =>
          hjoin ⟨hbefore, by rwa [htext, List.cons_append]⟩
        rw [htext, List.cons_append, tokensFrom_of_shape hprefix, ← htext]
      obtain ⟨hstay, hgrow⟩ := ih hmore
      refine ⟨fun hnot => ?_, fun hjoins => ?_⟩
      · rw [hstays _ (hstay fun hjoins => hnot (.inr hjoins)), List.cons_append]
      · obtain ⟨us, y, vs, rfl, htokens⟩ := hgrow (hjoins.resolve_left hjoin)
        exact ⟨x :: us, y, vs, rfl, hstays _ htokens⟩

end Before

/-! ## What is left of the literal -/

/-- A part of a quoted text is open, or is closed by half of a doubled quote. -/
theorem quotedLength?_prefix {quote : CodePoint} {n m : Nat} {a b : Text}
    (h : quotedLength? quote n (a ++ b) = some m) (hlt : n + a.length < m) :
    quotedLength? quote n a = none ∨ quotedLength? quote n a = some (n + a.length) := by
  induction a using quotedText_induction quote generalizing n with
  | nil => exact .inl rfl
  | opened c a hc ih =>
    rw [List.cons_append, quotedLength?_open hc] at h
    rw [quotedLength?_open hc, add_length_cons]
    rw [add_length_cons] at hlt
    exact ih h hlt
  | doubled a ih =>
    rw [List.cons_append, List.cons_append, quotedLength?_doubled] at h
    rw [quotedLength?_doubled, add_length_cons, add_length_cons]
    rw [add_length_cons, add_length_cons] at hlt
    exact ih h hlt
  | closed a ha =>
    cases a with
    | nil => exact .inr (quotedLength?_closed ha)
    | cons d a =>
      have hclosed : quotedLength? quote n (quote :: d :: a ++ b) = some (n + 1) :=
        quotedLength?_closed ha
      rw [hclosed] at h
      cases h
      rw [List.length_cons, List.length_cons] at hlt
      omega

theorem redactedText_append (xs ys : List Token) :
    redactedText (xs ++ ys) = redactedText xs ++ redactedText ys := by
  simp [redactedText]

/-- Where no token is a literal or open, all is shown. -/
theorem redactedText_closed {tokens : List Token}
    (h : ∀ token ∈ tokens, token.kind ≠ .literal ∧ token.kind ≠ .unparsed) :
    redactedText (tokens.map Token.closed) = (tokens.map Token.text).flatten := by
  rw [redactedText, List.map_map]
  refine congrArg List.flatten (List.map_congr_left fun token hmem => ?_)
  obtain ⟨hliteral, hopen⟩ := h token hmem
  simp [Token.closed, Token.redacted, hliteral, hopen]

section Left

variable {before : Option CodePoint} {c : CodePoint} {u r w z : Text}

/-- A literal is quoted, or is a number behind no name. -/
theorem Reads.cases_of_literal (h : Reads before r c u .literal) :
    (c = quote ∧ quotedLength? quote 0 u = some u.length) ∨
      (c ≠ quote ∧ StartsNumber c (u ++ r) ∧ continuesName before = false ∧
        numberLength (c :: (u ++ r)) = (c :: u).length) := by
  cases h with
  | quoted hkind hlength =>
    have hkinds : ∀ pair ∈ quotedKinds, pair.2 = .literal → pair.1 = quote := by decide
    obtain rfl := hkinds _ hkind rfl
    exact .inl ⟨rfl, hlength⟩
  | number hstart hbefore hlength =>
    refine .inr ⟨?_, hstart, hbefore, hlength⟩
    rintro rfl
    rcases hstart with hc | ⟨hc, -⟩ <;> revert hc <;> decide

/-- What is left of a quoted literal is one token, which is taken for a literal. -/
theorem redactedText_left_of_quote (h : quotedLength? quote 0 u = some u.length)
    (hsplit : quote :: u = w ++ z) (hw : w ≠ []) (hz : z ≠ []) :
    redactedText ((tokensFrom before w).map Token.closed) = placeholder := by
  obtain ⟨d, a, rfl⟩ := List.exists_cons_of_ne_nil hw
  obtain ⟨rfl, rfl⟩ := List.cons.inj hsplit
  have hshorter : 0 + a.length < (a ++ z).length := by
    have := List.length_pos_iff.2 hz
    rw [List.length_append]
    omega
  rcases quotedLength?_prefix h hshorter with hleft | hleft
  · have hshape : shape before quote a = (.unparsed, a.length) := by
      rw [shape_of_quote, quotedShape, hleft]
    rw [tokensFrom_whole hshape]
    rfl
  · have hshape : shape before quote a = (.literal, a.length) := by
      rw [shape_of_quote, quotedShape, hleft, Nat.zero_add]
    rw [tokensFrom_whole hshape]
    rfl

theorem kind_ne_of_point {token : Token} (hmem : token ∈ tokensFrom before [CodePoint.ofChar '.']) :
    token.kind ≠ .literal ∧ token.kind ≠ .unparsed := by
  have hshape : shape before (CodePoint.ofChar '.') [] = (.punctuation, 0) := by
    rw [shape_of_nameChar_or_point (.inr rfl), if_neg (by decide), if_neg (by decide)]
  rw [tokensFrom_whole hshape, List.mem_singleton] at hmem
  rw [hmem]
  simp

theorem not_isNumber_point : ¬ IsNumber [CodePoint.ofChar '.'] :=
  fun h => absurd h.1 (by decide)

theorem Hangs.not_isNumber {t : Text} (h : Hangs t) : ¬ IsNumber t := by
  intro hnumber
  cases t with
  | nil => exact hnumber
  | cons c rest =>
    have htouch := @Hangs.nameAfterNumber c [] rest h hnumber.1
    rw [hnumber.nameAfterNumber] at htouch
    cases htouch

/-- What is left of a number is a number, or holds no literal. -/
theorem left_of_number (hstart : StartsNumber c (u ++ r))
    (hlength : numberLength (c :: (u ++ r)) = (c :: u).length) (hsplit : c :: u = w ++ z)
    (hw : w ≠ []) :
    IsNumber w ∨ (¬ IsNumber w ∧ ∀ token ∈ tokensFrom before w,
      token.kind ≠ .literal ∧ token.kind ≠ .unparsed) := by
  obtain ⟨d, a, rfl⟩ := List.exists_cons_of_ne_nil hw
  obtain ⟨rfl, hu⟩ := List.cons.inj hsplit
  obtain rfl : u = a ++ z := hu
  rw [List.append_assoc] at hstart hlength
  have hprefix := numberLength_prefix (c :: a) (z ++ r)
  rw [List.cons_append, hlength, List.length_cons, List.length_cons, List.length_append] at hprefix
  rcases hprefix with hwhole | ⟨hpoint | hhangs, -⟩
  · left
    have hwhole : numberLength (c :: a) = (c :: a).length := by
      rw [List.length_cons]
      omega
    refine ⟨?_, hwhole⟩
    cases a with
    | cons e a => exact hstart
    | nil =>
      refine hstart.imp_right fun hpoint => ?_
      rw [hpoint.1] at hwhole
      exact absurd hwhole (by decide)
  · rw [hpoint]
    exact .inr ⟨not_isNumber_point, fun token => kind_ne_of_point⟩
  · exact .inr ⟨hhangs.not_isNumber, fun token => hhangs.kind_ne⟩

/-- **What is shown of a literal that is cut off**: nothing if it is quoted or if a number is left, and
    else all that is left. -/
theorem redactedText_left (h : Reads before r c u .literal) (hsplit : c :: u = w ++ z) (hw : w ≠ [])
    (hz : z ≠ []) :
    redactedText ((tokensFrom before w).map Token.closed) =
      if c = quote ∨ IsNumber w then placeholder else w := by
  rcases h.cases_of_literal with ⟨rfl, hlength⟩ | ⟨hc, hstart, hbefore, hlength⟩
  · rw [if_pos (.inl rfl), redactedText_left_of_quote hlength hsplit hw hz]
  · rcases @left_of_number before _ _ _ _ _ hstart hlength hsplit hw with hnumber | ⟨hnumber, hkinds⟩
    · rw [if_pos (.inr hnumber), tokensFrom_of_isNumber hbefore hnumber]
      rfl
    · rw [if_neg (not_or_intro hc hnumber), redactedText_closed hkinds, flatten_tokensFrom]

end Left

/-! ## Redaction -/

section Redaction

variable {t w ℓ : Text} {xs ys : List Token} {k : Nat}

/-- A quoted literal joins nothing: no number holds a quote. -/
theorem not_joins_of_quote {before : Option CodePoint} (hw : w.head? = some quote) :
    ¬ Joins before xs w := by
  rintro ⟨us, x, vs, -, -, hnumber⟩
  obtain ⟨v, hv⟩ : ∃ v, ((x :: vs).map Token.text).flatten ++ w = v := ⟨_, rfl⟩
  rw [hv] at hnumber
  cases v with
  | nil => exact hnumber
  | cons c rest =>
    have hmem : quote ∈ c :: rest := by
      rw [← hv]
      exact List.mem_append_right _ (List.mem_of_head? hw)
    exact not_mem_of_numberLength (r := []) (by decide) (by rw [List.append_nil]; exact hnumber.2) hmem

theorem closed_of_kind_ne {token : Token} (h : token.kind ≠ .unparsed) : token.closed = token :=
  if_neg h

theorem redacted_ne_nil {token : Token} (h : token.text ≠ []) : token.redacted ≠ [] := by
  unfold Token.redacted
  split
  · exact List.cons_ne_nil _ _
  · exact h

/-- Tokens before another one are closed as they are. -/
theorem map_closed_of_tokenize {token : Token} (h : tokenize t = xs ++ token :: ys) :
    xs.map Token.closed = xs := by
  have hopen : ∀ x ∈ xs, x.kind ≠ .unparsed := by
    intro x hx
    refine (isPartition_tokensFrom none t).closed x ?_
    rw [← tokenize, h, List.dropLast_append_of_ne_nil (List.cons_ne_nil _ _)]
    exact List.mem_append_left _ hx
  rw [List.map_congr_left fun x hx => closed_of_kind_ne (hopen x hx), List.map_id']

/-- What a cut inside of a literal leaves of a statement. -/
theorem sanitized_eq_of_cut (h : tokenize t = xs ++ ⟨.literal, ℓ⟩ :: ys) (hpos : 0 < k)
    (hlt : k < ℓ.length) :
    (¬ Joins none xs (ℓ.take k) →
      (redact ((xs.map Token.text).flatten.length + k) t).value.sanitized = redactedText xs ++
        if ℓ.head? = some quote ∨ IsNumber (ℓ.take k) then placeholder else ℓ.take k) ∧
      (Joins none xs (ℓ.take k) → ∃ us x vs, xs = us ++ x :: vs ∧
        (redact ((xs.map Token.text).flatten.length + k) t).value.sanitized =
          redactedText us ++ placeholder) := by
  obtain ⟨c, u, hliteral, hshape⟩ := shape_of_tokensFrom h
  obtain rfl : ℓ = c :: u := hliteral
  obtain ⟨w, hw⟩ : ∃ w, (c :: u).take k = w := ⟨_, rfl⟩
  obtain ⟨z, hz⟩ : ∃ z, (c :: u).drop k = z := ⟨_, rfl⟩
  have hsplit : c :: u = w ++ z := by rw [← hw, ← hz, List.take_append_drop]
  have hlen : w.length = k := by rw [← hw, List.length_take]; omega
  have hne : w ≠ [] := List.ne_nil_of_length_pos (by omega)
  have hrest : z ≠ [] := by
    rintro rfl
    rw [hsplit, List.append_nil] at hlt
    omega
  have htext : t = (xs.map Token.text).flatten ++ (w ++ (z ++ (ys.map Token.text).flatten)) := by
    rw [← List.append_assoc w, ← hsplit, ← flatten_tokenize t, h]
    simp
  have hclosed := map_closed_of_tokenize h
  have hcut : (redact ((xs.map Token.text).flatten.length + k) t).value.sanitized =
      redactedText ((tokenize ((xs.map Token.text).flatten ++ w)).map Token.closed) := by
    have hlonger : ((xs.map Token.text).flatten.length + k : Int) < t.length := by
      have := List.length_pos_iff.2 hrest
      rw [htext]
      simp only [List.length_append]
      omega
    have htake : t.take ((xs.map Token.text).flatten.length + k : Int).toNat =
        (xs.map Token.text).flatten ++ w := by
      rw [htext, ← List.append_assoc]
      exact List.take_left' (by rw [List.length_append]; omega)
    rw [value_redact_of_lt (by omega) hlonger, htake]
    rfl
  rw [tokenize, htext] at h
  obtain ⟨hstay, hgrow⟩ := tokensFrom_before_cut hne h
  rw [hw, hcut, tokenize]
  refine ⟨fun hjoins => ?_, fun hjoins => ?_⟩
  · have hleft := redactedText_left (reads_of_shape hshape) hsplit hne hrest
    rw [hstay hjoins, List.map_append, redactedText_append, hclosed, hleft]
    simp
  · obtain ⟨us, x, vs, rfl, htokens⟩ := hgrow hjoins
    refine ⟨us, x, vs, rfl, ?_⟩
    rw [List.map_append] at hclosed
    rw [htokens, List.map_append, redactedText_append, List.append_inj_left hclosed (List.length_map _)]
    rfl

/-- **What a cut shows of a literal.** A statement is cut inside of a literal. What is left of it is
    redacted like the tokens before the literal, with one placeholder behind them, just if the literal
    is quoted, or if a number is left of it and no token before it starts a number that goes up to the
    cut. Of a number that is cut off before a digit that it needs, all that is left is shown; and a
    number that goes up to the cut takes the tokens from its start on. -/
theorem sanitized_of_cut (h : tokenize t = xs ++ ⟨.literal, ℓ⟩ :: ys) (hpos : 0 < k)
    (hlt : k < ℓ.length) :
    ((redact ((xs.map Token.text).flatten.length + k) t).value.sanitized =
        redactedText xs ++ placeholder ↔
      ℓ.head? = some quote ∨ (IsNumber (ℓ.take k) ∧ ¬ Joins none xs (ℓ.take k))) ∧
      (ℓ.head? ≠ some quote → ¬ IsNumber (ℓ.take k) → ¬ Joins none xs (ℓ.take k) →
        (redact ((xs.map Token.text).flatten.length + k) t).value.sanitized =
          redactedText xs ++ ℓ.take k) ∧
      (Joins none xs (ℓ.take k) → ∃ us x vs, xs = us ++ x :: vs ∧
        (redact ((xs.map Token.text).flatten.length + k) t).value.sanitized =
          redactedText us ++ placeholder) := by
  obtain ⟨hstay, hgrow⟩ := sanitized_eq_of_cut h hpos hlt
  generalize (redact ((xs.map Token.text).flatten.length + k) t).value.sanitized = s at hstay hgrow ⊢
  have hexposed : ℓ.head? ≠ some quote → ¬ IsNumber (ℓ.take k) → ¬ Joins none xs (ℓ.take k) →
      s = redactedText xs ++ ℓ.take k := by
    intro hquote hnumber hjoins
    rw [hstay hjoins, if_neg (not_or_intro hquote hnumber)]
  refine ⟨⟨fun hs => ?_, fun hhidden => ?_⟩, hexposed, hgrow⟩
  · by_contra hnot
    obtain ⟨hquote, hnumber⟩ := not_or.1 hnot
    by_cases hjoins : Joins none xs (ℓ.take k)
    · -- nothing would be shown of the tokens from the start of the number on
      obtain ⟨us, x, vs, rfl, hjoined⟩ := hgrow hjoins
      have hx : x.text ≠ [] := ne_nil_of_mem_tokenize (t := t) (by rw [h]; simp)
      have hshown := List.length_pos_iff.2 (redacted_ne_nil hx)
      have hlength := congrArg List.length (hs.symm.trans hjoined)
      simp only [redactedText, List.map_append, List.map_cons, List.flatten_append, List.flatten_cons,
        List.length_append] at hlength
      omega
    · have hshown := hexposed hquote (fun h => hnumber ⟨h, hjoins⟩) hjoins
      have hleft : placeholder = ℓ.take k := List.append_cancel_left (hs.symm.trans hshown)
      obtain ⟨c, u, hliteral, hshape⟩ := shape_of_tokensFrom h
      obtain rfl : ℓ = c :: u := hliteral
      obtain ⟨k, rfl⟩ : ∃ n, k = n + 1 := ⟨k - 1, by omega⟩
      rw [List.take_succ_cons] at hleft
      exact (start_of_literal hshape).2.1 (List.cons.inj hleft).1.symm
  · rcases hhidden with hquote | ⟨hnumber, hjoins⟩
    · have hjoins : ¬ Joins none xs (ℓ.take k) := by
        refine not_joins_of_quote ?_
        rw [List.head?_take, if_neg (by omega), hquote]
      rw [hstay hjoins, if_pos (.inl hquote)]
    · rw [hstay hjoins, if_pos (.inr hnumber)]

/-- A number cut behind its fraction, and behind the letter of its exponent. -/
theorem sanitized_of_cut_of_exponent :
    (redact 10 ("values(1.5e3)" : Text)).value.sanitized = ("values(?" : Text) ∧
      (redact 11 ("values(1.5e3)" : Text)).value.sanitized = ("values(1.5e" : Text) := by
  have htokens : tokenize ("values(1.5e3)" : Text) =
      [⟨.identifier, ("values" : Text)⟩, ⟨.punctuation, ("(" : Text)⟩] ++
        ⟨.literal, ("1.5e3" : Text)⟩ :: [⟨.punctuation, (")" : Text)⟩] := by cbv
  have hjoins : ∀ w, ¬ Joins none
      [⟨.identifier, ("values" : Text)⟩, ⟨.punctuation, ("(" : Text)⟩] w := by
    intro w
    rw [joins_cons_iff (by decide), joins_cons_iff (by decide)]
    rintro (⟨hbefore, -⟩ | ⟨hbefore, -⟩ | hjoins)
    · exact absurd hbefore (by decide)
    · exact absurd hbefore (by decide)
    · exact not_joins_nil hjoins
  have hfraction := sanitized_of_cut (k := 3) htokens (by decide) (by decide)
  have hletter := sanitized_of_cut (k := 4) htokens (by decide) (by decide)
  exact ⟨hfraction.1.2 (.inr ⟨by decide, hjoins _⟩),
    hletter.2.1 (by decide) (by decide) (hjoins _)⟩

/-- A number cut behind the letter of its exponent is shown. -/
theorem exposed_of_cut_exponent :
    tokenize ("select 1e5" : Text) =
        [⟨.identifier, ("select" : Text)⟩, ⟨.whitespace, (" " : Text)⟩] ++
          ⟨.literal, ("1e5" : Text)⟩ :: [] ∧
      (redact 9 ("select 1e5" : Text)).value.sanitized ≠
        redactedText [⟨.identifier, ("select" : Text)⟩, ⟨.whitespace, (" " : Text)⟩] ++
          placeholder := by
  refine ⟨by cbv, ?_⟩
  have hshown : (redact 9 ("select 1e5" : Text)).value.sanitized = ("select 1e" : Text) := by cbv
  rw [hshown]
  decide

end Redaction

end Redaction.Sql
