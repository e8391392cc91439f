/-
  Redaction does not look into quoted literals.

  * `quoted c`: a text as a literal, with every quote in it doubled;
  * `tokensFrom_quoted`: such a literal is one token, and what follows it is cut on its own;
  * `tokensFrom_cut`: what a cut leaves of it is one token as well;
  * `tokensFrom_prefix`: the tokens before a quote are the same whatever the quote opens, if every
    brace among them is followed by another;
  * `redact_quoted_congr`: two statements that differ in a literal are redacted alike.
-/
import Redaction.Proofs.Sql.Shape

namespace Redaction.Sql

open CodePoint (quote)

/-! ## Literals -/

/-- A text with every quote doubled. -/
def doubled (c : Text) : Text := c.flatMap fun d => if d = quote then [quote, quote] else [d]

/-- A text as a literal. -/
def quoted (c : Text) : Text := quote :: (doubled c ++ [quote])

section Literal

variable {c s : Text} {n m : Nat} {before : Option CodePoint}

theorem doubled_cons_quote (c : Text) : doubled (quote :: c) = quote :: quote :: doubled c := by
  simp [doubled]

theorem doubled_cons_of_ne {d : CodePoint} (hd : d ≠ quote) (c : Text) :
    doubled (d :: c) = d :: doubled c := by
  simp [doubled, hd]

theorem quotedLength?_append_doubled (n : Nat) (c s : Text) :
    quotedLength? quote n (doubled c ++ s) = quotedLength? quote (n + (doubled c).length) s := by
  induction c generalizing n with
  | nil => rfl
  | cons d c ih =>
    by_cases hd : d = quote
    · rw [hd, doubled_cons_quote, List.cons_append, List.cons_append, quotedLength?_doubled, ih,
        add_length_cons, add_length_cons]
    · rw [doubled_cons_of_ne hd, List.cons_append, quotedLength?_open hd, ih, add_length_cons]

/-- What a cut leaves of a literal is open, or is closed by half of a doubled quote. -/
theorem quotedLength?_take_doubled (n k : Nat) (c : Text) :
    quotedLength? quote n ((doubled c).take k) = none ∨
      quotedLength? quote n ((doubled c).take k) = some (n + ((doubled c).take k).length) := by
  induction c generalizing n k with
  | nil => exact .inl (by simp [doubled, quotedLength?])
  | cons d c ih =>
    by_cases hd : d = quote
    · rw [hd, doubled_cons_quote]
      rcases k with _ | _ | k
      · exact .inl rfl
      · exact .inr (quotedLength?_closed (by simp))
      · rw [List.take_succ_cons, List.take_succ_cons, quotedLength?_doubled, add_length_cons,
          add_length_cons]
        exact ih (n + 2) k
    · rw [doubled_cons_of_ne hd]
      cases k with
      | zero => exact .inl rfl
      | succ k =>
        rw [List.take_succ_cons, quotedLength?_open hd, add_length_cons]
        exact ih (n + 1) k

theorem shape_of_quote (before : Option CodePoint) (rest : Text) :
    shape before quote rest = quotedShape quote .literal rest :=
  rfl

/-- **A literal is one token**, whatever stands before it, if no further quote follows. -/
theorem tokensFrom_quoted (hs : s.head? ≠ some quote) :
    tokensFrom before (quoted c ++ s) = ⟨.literal, quoted c⟩ :: tokensFrom (some quote) s := by
  have hlen : quotedLength? quote 0 (doubled c ++ [quote] ++ s) =
      some (doubled c ++ [quote]).length := by
    rw [List.append_assoc, quotedLength?_append_doubled, List.singleton_append,
      quotedLength?_closed hs]
    simp
  have hshape : shape before quote (doubled c ++ [quote] ++ s) =
      (.literal, (doubled c ++ [quote]).length) := by
    rw [shape_of_quote, quotedShape, hlen]
  have htokens := tokensFrom_of_shape hshape
  rwa [List.getLast?_cons, List.getLast?_concat] at htokens

theorem head_ne_of_tokensFrom_quoted {ys : List Token}
    (h : tokensFrom before (quoted c ++ s) = ⟨.literal, quoted c⟩ :: ys) :
    s.head? ≠ some quote := by
  intro hs
  obtain ⟨s, rfl⟩ := List.head?_eq_some_iff.1 hs
  obtain ⟨kind, u, r, hrest, hshape⟩ :=
    exists_shape before quote (doubled c ++ [quote] ++ quote :: s)
  have htokens : tokensFrom before (quoted c ++ quote :: s) =
      ⟨kind, quote :: u⟩ :: tokensFrom (quote :: u).getLast? r := by
    rw [← tokensFrom_of_shape hshape, ← hrest]
    rfl
  rw [htokens, List.cons.injEq, Token.mk.injEq] at h
  obtain ⟨⟨rfl, hu⟩, -⟩ := h
  have hlen : u.length = (doubled c).length + 1 := by
    have := congrArg List.length hu
    simp only [quoted, List.length_cons, List.length_append, List.length_nil] at this
    omega
  -- behind the doubled quote the literal goes on
  rw [shape_of_quote, quotedShape, ← hrest, List.append_assoc, quotedLength?_append_doubled,
    List.singleton_append, quotedLength?_doubled] at hshape
  cases hlong : quotedLength? quote (0 + (doubled c).length + 2) s with
  | none => rw [hlong] at hshape; cases hshape
  | some m =>
    rw [hlong] at hshape
    have := lt_of_quotedLength? hlong
    cases hshape
    omega

/-- **What a cut leaves of a literal is one token**: a literal, or a quote that never ends. -/
theorem tokensFrom_cut (before : Option CodePoint) (k : Nat) (c : Text) :
    ∃ kind, (kind = .literal ∨ kind = .unparsed) ∧
      tokensFrom before (quote :: (doubled c).take k) =
        [⟨kind, quote :: (doubled c).take k⟩] := by
  have hcut : ∀ kind, shape before quote ((doubled c).take k ++ []) =
      (kind, ((doubled c).take k).length) →
        tokensFrom before (quote :: (doubled c).take k) =
          [⟨kind, quote :: (doubled c).take k⟩] := by
    intro kind hshape
    have htokens := tokensFrom_of_shape hshape
    rwa [List.append_nil, tokensFrom_nil] at htokens
  rcases quotedLength?_take_doubled 0 k c with hlen | hlen
  · refine ⟨.unparsed, .inr rfl, hcut _ ?_⟩
    rw [List.append_nil, shape_of_quote, quotedShape, hlen]
  · refine ⟨.literal, .inl rfl, hcut _ ?_⟩
    rw [List.append_nil, shape_of_quote, quotedShape, hlen, Nat.zero_add]

end Literal

/-! ## Before a literal -/

section Prefix

variable {v v' : Text} (hv : v.head? = some quote) (hv' : v'.head? = some quote)

include hv

theorem endsNumber_of_quote : EndsNumber v := by
  intro c hc
  obtain rfl : quote = c := Option.some.inj (hv.symm.trans hc)
  decide

theorem startsNumber_append_iff {c : CodePoint} {t : Text} :
    StartsNumber c (t ++ v) ↔ StartsNumber c t := by
  cases t with
  | nil =>
    have hquote : quote.isDecimal = false := by decide
    simp [StartsNumber, hv, hquote]
  | cons d t => exact Iff.rfl

include hv'

theorem resumes_append (t : Text) : Resumes (t ++ v) (t ++ v') := by
  cases t with
  | nil =>
    refine ⟨?_, .inl (hv'.trans hv.symm)⟩
    rintro rfl
    cases hv
  | cons c t => exact ⟨by simp, .inl rfl⟩

/-- A token before a quote is the same whatever the quote opens. A brace has to be followed by
    another before the quote. -/
theorem shape_append_congr {before : Option CodePoint} {c : CodePoint} {kind : TokenKind}
    {u t : Text} (h : shape before c (u ++ (t ++ v)) = (kind, u.length))
    (hbrace : c = CodePoint.ofChar '{' → kind = .punctuation → ∃ d ∈ t, isBrace d) :
    shape before c (u ++ (t ++ v')) = (kind, u.length) := by
  by_cases hnumber : StartsNumber c (u ++ (t ++ v))
  · have hnumber' : StartsNumber c (u ++ (t ++ v')) := by
      rw [← List.append_assoc, startsNumber_append_iff hv] at hnumber
      rwa [← List.append_assoc, startsNumber_append_iff hv']
    rw [shape_of_startsNumber hnumber, ← List.append_assoc,
      numberShape_append (endsNumber_of_quote hv)] at h
    rw [shape_of_startsNumber hnumber', ← List.append_assoc,
      numberShape_append (endsNumber_of_quote hv'), h]
  by_cases hc : c = CodePoint.ofChar '{'
  · subst hc
    rcases brace_of_shape h with ⟨rfl, -⟩ | ⟨rfl, rfl, hlen⟩
    · exact shape_span_resume h
    · have ht := hbrace rfl rfl
      rw [parameterLength?_append ht] at hlen
      rw [shape_of_brace, List.nil_append, parameterLength?_append ht, hlen]
      rfl
  · exact shape_resume h (resumes_append hv hv' t) hnumber hc

/-- **The tokens before a quote are the same** whatever the quote opens, if every brace among them is
    followed by another. -/
theorem tokensFrom_prefix {before : Option CodePoint} {p : Text} {xs tail : List Token}
    (h : tokensFrom before (p ++ v) = xs ++ tail) (hp : (xs.map Token.text).flatten = p)
    (hbraces : ∀ us vs, xs = us ++ ⟨.punctuation, [CodePoint.ofChar '{']⟩ :: vs →
      ∃ d ∈ (vs.map Token.text).flatten, isBrace d) :
    ∃ behind, tokensFrom before (p ++ v) = xs ++ tokensFrom behind v ∧
      tokensFrom before (p ++ v') = xs ++ tokensFrom behind v' := by
  induction xs generalizing before p with
  | nil =>
    subst hp
    exact ⟨before, rfl, rfl⟩
  | cons x xs ih =>
    subst hp
    have hmem : x ∈ tokensFrom before (((x :: xs).map Token.text).flatten ++ v) := by
      rw [h]
      exact List.mem_cons_self
    obtain ⟨c, u, hcu⟩ := List.exists_cons_of_ne_nil (ne_nil_of_mem_tokensFrom hmem)
    obtain ⟨kind, w, r, hrest, hshape⟩ :=
      exists_shape before c (u ++ ((xs.map Token.text).flatten ++ v))
    have htext : ((x :: xs).map Token.text).flatten ++ v =
        c :: (u ++ ((xs.map Token.text).flatten ++ v)) := by simp [hcu]
    rw [htext, hrest, tokensFrom_of_shape hshape, List.cons_append, List.cons.injEq] at h
    obtain ⟨rfl, hmore⟩ := h
    obtain rfl : w = u := (List.cons.inj hcu).2
    obtain rfl : r = (xs.map Token.text).flatten ++ v := (List.append_cancel_left hrest).symm
    have hshape' : shape before c (w ++ ((xs.map Token.text).flatten ++ v')) =
        (kind, w.length) := by
      refine shape_append_congr hv hv' hshape ?_
      rintro rfl rfl
      refine hbraces [] xs ?_
      rcases brace_of_shape hshape with ⟨hkind, -⟩ | ⟨-, rfl, -⟩
      · cases hkind
      · rfl
    obtain ⟨behind, h₁, h₂⟩ := ih hmore rfl fun us vs hxs =>
      hbraces (⟨kind, c :: w⟩ :: us) vs (by rw [hxs]; rfl)
    refine ⟨behind, ?_, ?_⟩
    · rw [htext, tokensFrom_of_shape hshape, h₁, List.cons_append]
    · have htext' : ((⟨kind, c :: w⟩ :: xs : List Token).map Token.text).flatten ++ v' =
          c :: (w ++ ((xs.map Token.text).flatten ++ v')) := by simp
      rw [htext', tokensFrom_of_shape hshape', h₂, List.cons_append]

end Prefix

/-! ## Redaction -/

theorem isDecoration_of_quote {t : Text} (ht : t.head? = some quote) :
    Token.isDecoration ⟨.literal, t⟩ = false := by
  have hparen : t ≠ [CodePoint.ofChar '('] := by
    rintro rfl
    revert ht
    decide
  simp [Token.isDecoration, hparen]

/-- What a quoted literal holds is not seen, wherever it stands. -/
theorem redactTokens_literal {a b : Text} (ha : a.head? = some quote) (hb : b.head? = some quote)
    (xs ys : List Token) :
    redactTokens (xs ++ ⟨.literal, a⟩ :: ys) = redactTokens (xs ++ ⟨.literal, b⟩ :: ys) := by
  have hsanitized : (xs ++ ⟨.literal, a⟩ :: ys).map Token.redacted =
      (xs ++ ⟨.literal, b⟩ :: ys).map Token.redacted := by simp [Token.redacted]
  have hplain : ∀ t : Text, t.head? = some quote →
      (⟨.literal, t⟩ :: ys : List Token).dropWhile Token.isDecoration = ⟨.literal, t⟩ :: ys := by
    intro t ht
    exact List.dropWhile_cons_of_neg (by rw [isDecoration_of_quote ht]; decide)
  simp only [redactTokens, hsanitized, operation, List.dropWhile_append, hplain a ha, hplain b hb]
  cases xs.dropWhile Token.isDecoration with
  | nil => rfl
  | cons x xs => rfl

theorem value_redact_of_le {n : Int} {t : Text} (h : t.length ≤ n) :
    (redact n t).value = redactTokens (tokenize t) := by
  rw [redact, if_pos h]
  rfl

theorem value_redact_of_lt {n : Int} {t : Text} (hn : 0 ≤ n) (h : n < t.length) :
    (redact n t).value = redactTokens ((tokenize (t.take n.toNat)).map Token.closed) := by
  have hempty : t.isEmpty = false := by
    cases t with
    | nil => rw [List.length_nil] at h; omega
    | cons c t => rfl
  have hnat : upTo n t = t.take n.toNat := if_neg (by omega)
  rw [redact, if_neg (by omega), hempty, hnat]
  rfl

theorem take_quoted {k : Nat} {c : Text} (hk : k ≤ (doubled c).length) (s : Text) :
    (quoted c ++ s).take (k + 1) = quote :: (doubled c).take k := by
  rw [quoted, List.cons_append, List.take_succ_cons, List.append_assoc,
    List.take_append_of_le_length hk]

/-- **Redaction does not depend on the content of a literal.** A statement has a literal behind `p`,
    and every brace before it is followed by another one there. With another text in the literal, the
    statement is redacted to the same, if both are within the limit or the literals are equally
    long; so a cut inside of the literal shows nothing of it. -/
theorem redact_quoted_congr {p s c₁ c₂ : Text} {xs ys : List Token} {n : Int} (hn : 1 ≤ n)
    (h : tokenize (p ++ quoted c₁ ++ s) = xs ++ ⟨.literal, quoted c₁⟩ :: ys)
    (hp : (xs.map Token.text).flatten.length = p.length)
    (hbraces : ∀ us vs, xs = us ++ ⟨.punctuation, [CodePoint.ofChar '{']⟩ :: vs →
      ∃ d ∈ (vs.map Token.text).flatten, isBrace d)
    (hcut : ((p ++ quoted c₁ ++ s).length ≤ n ∧ (p ++ quoted c₂ ++ s).length ≤ n) ∨
      (quoted c₁).length = (quoted c₂).length) :
    (redact n (p ++ quoted c₁ ++ s)).value = (redact n (p ++ quoted c₂ ++ s)).value := by
  have hquoted : ∀ c t : Text, (quoted c ++ t).head? = some quote := fun c t => rfl
  simp only [List.append_assoc] at h hcut ⊢
  have htext : (xs.map Token.text).flatten = p := by
    have hall := flatten_tokenize (p ++ (quoted c₁ ++ s))
    rw [h, List.map_append, List.flatten_append] at hall
    exact List.append_inj_left hall hp
  -- the tokens before the literal stand before whatever starts with a quote
  have hbefore : ∀ v : Text, v.head? = some quote →
      ∃ behind, tokenize (p ++ v) = xs ++ tokensFrom behind v := by
    intro v hv
    obtain ⟨behind, -, hbehind⟩ := tokensFrom_prefix (hquoted c₁ s) hv h htext hbraces
    exact ⟨behind, hbehind⟩
  have hs : s.head? ≠ some quote := by
    obtain ⟨behind, hbehind⟩ := hbefore (quoted c₁ ++ s) (hquoted c₁ s)
    exact head_ne_of_tokensFrom_quoted (List.append_cancel_left (hbehind.symm.trans h))
  have hwhole : ∀ c t : Text, t.head? ≠ some quote →
      tokenize (p ++ (quoted c ++ t)) =
        xs ++ ⟨.literal, quoted c⟩ :: tokensFrom (some quote) t := by
    intro c t ht
    obtain ⟨behind, hbehind⟩ := hbefore (quoted c ++ t) (hquoted c t)
    rw [hbehind, tokensFrom_quoted ht]
  have huncut : (p ++ (quoted c₁ ++ s)).length ≤ n → (p ++ (quoted c₂ ++ s)).length ≤ n →
      (redact n (p ++ (quoted c₁ ++ s))).value = (redact n (p ++ (quoted c₂ ++ s))).value := by
    intro h₁ h₂
    rw [value_redact_of_le h₁, value_redact_of_le h₂, hwhole c₁ s hs, hwhole c₂ s hs]
    exact redactTokens_literal rfl rfl xs _
  rcases hcut with ⟨h₁, h₂⟩ | hlen
  · exact huncut h₁ h₂
  have hlength : (p ++ (quoted c₁ ++ s)).length = (p ++ (quoted c₂ ++ s)).length := by
    simp only [List.length_append, hlen]
  by_cases hlong : (p ++ (quoted c₁ ++ s)).length ≤ n
  · exact huncut hlong (hlength ▸ hlong)
  have hlong₁ : n < (p ++ (quoted c₁ ++ s)).length := by omega
  have hlong₂ : n < (p ++ (quoted c₂ ++ s)).length := by omega
  rw [value_redact_of_lt (by omega) hlong₁, value_redact_of_lt (by omega) hlong₂]
  obtain ⟨m, hm⟩ : ∃ m : Nat, n.toNat = m := ⟨_, rfl⟩
  rw [hm]
  have hsize : ∀ c : Text, (quoted c).length = (doubled c).length + 2 := by
    intro c
    simp [quoted]
  by_cases hbeforeCut : m ≤ p.length
  · rw [List.take_append_of_le_length hbeforeCut, List.take_append_of_le_length hbeforeCut]
  obtain ⟨k, rfl⟩ : ∃ k, m = p.length + (k + 1) := ⟨m - p.length - 1, by omega⟩
  rw [List.take_length_add_append, List.take_length_add_append]
  by_cases hinside : k ≤ (doubled c₁).length
  · -- the cut is inside of the literal
    have hclosed : ∀ c : Text, k ≤ (doubled c).length →
        (tokenize (p ++ (quoted c ++ s).take (k + 1))).map Token.closed =
          xs.map Token.closed ++ [⟨.literal, quote :: (doubled c).take k⟩] := by
      intro c hk
      rw [take_quoted hk]
      obtain ⟨behind, hbehind⟩ := hbefore (quote :: (doubled c).take k) rfl
      obtain ⟨kind, hkind, hone⟩ := tokensFrom_cut behind k c
      rw [hbehind, hone, List.map_append]
      rcases hkind with rfl | rfl <;> rfl
    have hinside₂ : k ≤ (doubled c₂).length := by
      have h₁ := hsize c₁
      have h₂ := hsize c₂
      omega
    rw [hclosed c₁ hinside, hclosed c₂ hinside₂]
    exact redactTokens_literal rfl rfl _ []
  · -- the cut is behind the literal
    have hclosed : ∀ c : Text, (doubled c).length < k →
        (tokenize (p ++ (quoted c ++ s).take (k + 1))).map Token.closed =
          xs.map Token.closed ++ ⟨.literal, quoted c⟩ ::
            (tokensFrom (some quote) (s.take (k + 1 - (quoted c).length))).map Token.closed := by
      intro c hk
      have hle : (quoted c).length ≤ k + 1 := by rw [hsize]; omega
      have hrest : (s.take (k + 1 - (quoted c).length)).head? ≠ some quote := by
        intro hhead
        rw [List.head?_take] at hhead
        split at hhead
        · cases hhead
        · exact hs hhead
      rw [List.take_append, List.take_of_length_le hle, hwhole c _ hrest, List.map_append]
      rfl
    have hbehind₂ : (doubled c₂).length < k := by
      have h₁ := hsize c₁
      have h₂ := hsize c₂
      omega
    rw [hclosed c₁ (by omega), hclosed c₂ hbehind₂, hlen]
    exact redactTokens_literal rfl rfl _ _

/-- A cut between two doubled quotes, behind braces. -/
theorem redact_quoted_congr_of_cut :
    (redact 5 (("\x7b\x7d" : Text) ++ quoted ("x'y" : Text) ++ (" 5" : Text))).value =
      (redact 5 (("\x7b\x7d" : Text) ++ quoted ("ab\x7bc" : Text) ++ (" 5" : Text))).value := by
  have htokens : tokenize (("\x7b\x7d" : Text) ++ quoted ("x'y" : Text) ++ (" 5" : Text)) =
      [⟨.punctuation, ['{']⟩, ⟨.punctuation, ['}']⟩] ++
        ⟨.literal, quoted ("x'y" : Text)⟩ ::
          [⟨.whitespace, [' ']⟩, ⟨.literal, ['5']⟩] := by cbv
  refine redact_quoted_congr (by decide) htokens (by cbv) ?_ (.inr (by cbv))
  rintro (_ | ⟨x, _ | ⟨y, us⟩⟩) vs hxs
  · cases hxs
    exact ⟨'}', by decide, by decide⟩
  · exact absurd (List.cons.inj (List.cons.inj hxs).2).1 (by decide)
  · simp at hxs

end Redaction.Sql
