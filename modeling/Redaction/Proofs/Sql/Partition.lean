/-
  The tokens of a statement are a partition of it.

  * `Enclosed q t` and `Unclosed q t`: a quoted text that ends, and one that does not, told from how
    many quotes it holds;
  * `Token.quotesMatch_of_reads`: a token holds the quotes that its kind asks for;
  * `IsPartition tokens t`: the tokens make up the text, none of them is empty, and only the last may
    be open;
  * `isPartition_tokenize`: so do the tokens of a statement, and what is left of it when it is redacted
    is no longer than what was looked at.
-/
import Redaction.Proofs.Sql.Literal
import Redaction.Proofs.Sql.Masked

namespace Redaction.Sql

open CodePoint (quote doubleQuote backQuote)

/-! ## Quotes in a token -/

/-- The characters that open a quoted text. -/
def quotes : List CodePoint := [quote, doubleQuote, backQuote]

/-- A text from one quote to another, where the quotes come in pairs. -/
structure Enclosed (q : CodePoint) (t : Text) : Prop where
  head : t.head? = some q
  last : t.getLast? = some q
  even : Even (t.count q)

/-- A text from a quote on that is not closed: one of its quotes is left over. -/
structure Unclosed (q : CodePoint) (t : Text) : Prop where
  head : t.head? = some q
  odd : Odd (t.count q)

/-- A token holds the quotes that its kind asks for. A literal is quoted, or is a number and holds no
    quotes at all. -/
structure Token.QuotesMatch (token : Token) : Prop where
  literal : token.kind = .literal →
    Enclosed quote token.text ∨ ∀ q ∈ quotes, q ∉ token.text
  name : token.kind = .quotedIdentifier →
    Enclosed doubleQuote token.text ∨ Enclosed backQuote token.text
  unparsed : token.kind = .unparsed → ∃ q ∈ quotes, Unclosed q token.text

section Quotes

variable {q c : CodePoint} {n : Nat} {u r : Text} {before : Option CodePoint} {kind : TokenKind}

/-- Behind its opening quote, a quoted text holds its closing quote and doubled ones. -/
theorem odd_count_of_quotedLength? (h : quotedLength? q n u = some (n + u.length)) :
    Odd (u.count q) := by
  induction u using quotedText_induction q generalizing n with
  | nil => cases h
  | opened c u hc ih =>
    rw [quotedLength?_open hc, add_length_cons] at h
    rw [List.count_cons_of_ne hc]
    exact ih h
  | doubled u ih =>
    rw [quotedLength?_doubled, add_length_cons, add_length_cons] at h
    rw [List.count_cons_self, List.count_cons_self, Nat.add_assoc]
    exact (ih h).add_even even_two
  | closed u hu =>
    rw [quotedLength?_closed hu, List.length_cons, Option.some.injEq] at h
    obtain rfl : u = [] := List.eq_nil_of_length_eq_zero (by omega)
    rw [List.count_cons_self]
    exact odd_one

/-- Where no quote closes a quoted text, all that it holds are doubled. -/
theorem even_count_of_quotedLength? (h : quotedLength? q n u = none) : Even (u.count q) := by
  induction u using quotedText_induction q generalizing n with
  | nil => simp
  | opened c u hc ih =>
    rw [quotedLength?_open hc] at h
    rw [List.count_cons_of_ne hc]
    exact ih h
  | doubled u ih =>
    rw [quotedLength?_doubled] at h
    rw [List.count_cons_self, List.count_cons_self, Nat.add_assoc]
    exact (ih h).add even_two
  | closed u hu =>
    rw [quotedLength?_closed hu] at h
    cases h

theorem enclosed_of_quotedLength? (h : quotedLength? q 0 u = some u.length) :
    Enclosed q (q :: u) := by
  have hlen : quotedLength? q 0 u = some (0 + u.length) := by rw [h, Nat.zero_add]
  have hlast : u.getLast? = some q :=
    getLast?_of_quotedLength? (n := 0) (r := []) (by rwa [List.append_nil])
  refine ⟨rfl, ?_, ?_⟩
  · rw [List.getLast?_cons, hlast]
    rfl
  · rw [List.count_cons_self]
    exact (odd_count_of_quotedLength? hlen).add_one

theorem unclosed_of_quotedLength? (h : quotedLength? q 0 u = none) : Unclosed q (q :: u) := by
  refine ⟨rfl, ?_⟩
  rw [List.count_cons_self]
  exact (even_count_of_quotedLength? h).add_one

/-- A number ends before the next quote. -/
theorem not_mem_of_numberLength (hq : q ∈ quotes) (h : numberLength (u ++ r) = u.length) :
    q ∉ u := by
  intro hmem
  obtain ⟨v, w, rfl⟩ := List.append_of_mem hmem
  have hends : EndsNumber (q :: (w ++ r)) := by
    intro d hd
    obtain rfl : q = d := Option.some.inj hd
    have hquotes : ∀ q ∈ quotes, isNameChar q = false ∧ q ≠ CodePoint.ofChar '.' ∧
        q ≠ CodePoint.ofChar '+' ∧ q ≠ CodePoint.ofChar '-' := by decide
    exact hquotes q hq
  rw [List.append_assoc, List.cons_append, numberLength_append hends, List.length_append,
    List.length_cons] at h
  have := numberLength_le v
  omega

/-- **A token holds the quotes that its kind asks for.** -/
theorem Token.quotesMatch_of_reads (h : Reads before r c u kind) :
    Token.QuotesMatch ⟨kind, c :: u⟩ := by
  have hkinds : ∀ pair ∈ quotedKinds, pair.1 ∈ quotes ∧
      (pair.2 = .literal → pair.1 = quote) ∧
      (pair.2 = .quotedIdentifier → pair.1 = doubleQuote ∨ pair.1 = backQuote) ∧
      pair.2 ≠ .unparsed := by decide
  cases h with
  | quoted hkind hlen =>
    obtain ⟨-, hliteral, hname, hopen⟩ := hkinds _ hkind
    have henclosed := enclosed_of_quotedLength? hlen
    refine ⟨fun hk => ?_, fun hk => ?_, fun hk => absurd hk hopen⟩
    · exact .inl (hliteral hk ▸ henclosed)
    · rcases hname hk with rfl | rfl
      · exact .inl henclosed
      · exact .inr henclosed
  | openQuote hkind hlen =>
    refine ⟨by simp, by simp, fun _ => ?_⟩
    exact ⟨c, (hkinds _ hkind).1, unclosed_of_quotedLength? hlen⟩
  | number _ _ hlen =>
    refine ⟨fun _ => .inr fun q hq => ?_, by simp, by simp⟩
    exact not_mem_of_numberLength hq (by rwa [List.cons_append])
  | blanks | lineComment | blockComment | span | name | pointName | sign =>
    exact ⟨by simp, by simp, by simp⟩

end Quotes

/-! ## Partitions -/

/-- Tokens that make up a text. None of them is empty, only the last may be open, and all hold the
    quotes that their kinds ask for. -/
structure IsPartition (tokens : List Token) (t : Text) : Prop where
  flatten : (tokens.map Token.text).flatten = t
  ne_nil : ∀ token ∈ tokens, token.text ≠ []
  closed : ∀ token ∈ tokens.dropLast, token.kind ≠ .unparsed
  quotes : ∀ token ∈ tokens, token.QuotesMatch

section Partition

variable {tokens : List Token} {t : Text}

/-- A text has no more tokens than characters. -/
theorem IsPartition.length_le (h : IsPartition tokens t) : tokens.length ≤ t.length := by
  have hpos : ∀ n ∈ tokens.map fun token => token.text.length, 1 ≤ n := by
    intro n hn
    obtain ⟨token, hmem, rfl⟩ := List.mem_map.1 hn
    exact List.length_pos_iff.2 (h.ne_nil token hmem)
  have hsum := List.length_le_sum_of_one_le _ hpos
  rw [List.length_map] at hsum
  rw [← h.flatten, List.length_flatten, List.map_map]
  exact hsum

/-- Nothing stands behind a quote that never ends. -/
theorem Reads.nil_of_unparsed {before : Option CodePoint} {c : CodePoint} {u r : Text}
    (h : Reads before r c u .unparsed) : r = [] := by
  cases h with
  | quoted hkind =>
    have hkinds : ∀ pair ∈ quotedKinds, pair.2 ≠ .unparsed := by decide
    exact absurd rfl (hkinds _ hkind)
  | openQuote _ _ hr => exact hr

/-- **The tokens of a text are a partition of it**, whatever stands before it. -/
theorem isPartition_tokensFrom (before : Option CodePoint) (t : Text) :
    IsPartition (tokensFrom before t) t := by
  refine ⟨flatten_tokensFrom before t, fun token => ne_nil_of_mem_tokensFrom, ?_, ?_⟩
  · induction before, t using tokensFrom_induction with
    | nil before => simp
    | token before c u r kind hshape ih =>
      rw [tokensFrom_of_shape hshape]
      intro token hmem
      by_cases hkind : kind = .unparsed
      · subst hkind
        rw [(reads_of_shape hshape).nil_of_unparsed, tokensFrom_nil] at hmem
        cases hmem
      · cases hrest : tokensFrom (c :: u).getLast? r with
        | nil => rw [hrest] at hmem; cases hmem
        | cons next rest =>
          rw [hrest, List.dropLast_cons_cons, ← hrest, List.mem_cons] at hmem
          rcases hmem with rfl | hmem
          · exact hkind
          · exact ih token hmem
  · induction before, t using tokensFrom_induction with
    | nil before => simp
    | token before c u r kind hshape ih =>
      rw [tokensFrom_of_shape hshape]
      exact List.forall_mem_cons.2 ⟨Token.quotesMatch_of_reads (reads_of_shape hshape), ih⟩

/-! ## What is left of a statement -/

theorem Token.text_closed (token : Token) : token.closed.text = token.text := by
  unfold Token.closed
  split <;> rfl

/-- Redaction makes a statement no longer, whether its last token is closed or not. -/
theorem IsPartition.length_redactTokens_le (h : IsPartition tokens t) :
    (redactTokens tokens).sanitized.length ≤ t.length ∧
      (redactTokens (tokens.map Token.closed)).sanitized.length ≤ t.length := by
  have hclosed : (tokens.map Token.closed).map Token.text = tokens.map Token.text := by
    rw [List.map_map]
    exact List.map_congr_left fun token _ => Token.text_closed token
  have hne : ∀ token ∈ tokens.map Token.closed, token.text ≠ [] := by
    intro _ hmem
    obtain ⟨token, htoken, rfl⟩ := List.mem_map.1 hmem
    rw [Token.text_closed]
    exact h.ne_nil token htoken
  have hlen := length_redactedText_le h.ne_nil
  have hlen' := length_redactedText_le hne
  rw [hclosed] at hlen'
  rw [h.flatten] at hlen hlen'
  exact ⟨hlen, hlen'⟩

theorem length_redact_le (limit : Nat) (t : Text) :
    (redact limit t).value.sanitized.length ≤ min t.length limit := by
  by_cases hle : t.length ≤ limit
  · rw [value_redact_of_le (Int.ofNat_le.2 hle), Nat.min_eq_left hle]
    exact (isPartition_tokensFrom none t).length_redactTokens_le.1
  · rw [value_redact_of_lt (by omega) (by omega), Int.toNat_natCast]
    have hlen := (isPartition_tokensFrom none (t.take limit)).length_redactTokens_le.2
    rwa [List.length_take, Nat.min_comm] at hlen

end Partition

/-- **The tokens of a statement are a partition of it**: there are no more of them than characters,
    none is empty, put together they are the statement, only the last may be open, and the quotes in
    each are paired as its kind asks for. So a statement does not grow when it is redacted, and no more
    is left of it than was looked at. -/
theorem isPartition_tokenize (t : Text) :
    IsPartition (tokenize t) t ∧ (tokenize t).length ≤ t.length ∧
      ∀ limit : Nat, (redact limit t).value.sanitized.length ≤ min t.length limit := by
  have h := isPartition_tokensFrom none t
  exact ⟨h, h.length_le, fun limit => length_redact_le limit t⟩

end Redaction.Sql
