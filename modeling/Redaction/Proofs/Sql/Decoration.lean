/-
  Statements behind blanks, parentheses and comments.

  * `IsDecoration w`: `w` is made of blanks, opening parentheses and comments that end, in any order
    and number;
  * `shape_lineComment` and `shape_blockComment`: a comment is one token, whatever it holds;
  * `IsDecoration.passesOver`: decoration is cut into tokens of its own, and what follows it on its
    own;
  * `redact_decorated`: it stays as it is, and the statement is redacted as if it stood alone.
-/
import Redaction.Proofs.Sql.Idempotent

namespace Redaction.Sql

/-- What may stand before the first keyword of a statement: blanks, opening parentheses, comments up to
    the end of their line, and comments up to the first `*/`. -/
inductive IsDecoration : Text → Prop
  | nil : IsDecoration []
  | blank {c : CodePoint} {w : Text} : c.isBlank → IsDecoration w → IsDecoration (c :: w)
  | parenthesis {w : Text} : IsDecoration w → IsDecoration (CodePoint.ofChar '(' :: w)
  | lineComment {body w : Text} : CodePoint.lineFeed ∉ body → IsDecoration w →
      IsDecoration (("--" : Text) ++ body ++ CodePoint.lineFeed :: w)
  | blockComment {body w : Text} : ¬ ("*/" : Text) <:+: body → IsDecoration w →
      IsDecoration (("/*" : Text) ++ body ++ ("*/" : Text) ++ w)

section Decoration

variable {before : Option CodePoint} {c : CodePoint} {u r w t body : Text}

/-! ## Comments -/

/-- A comment up to the end of its line is one token. -/
theorem shape_lineComment (hbody : CodePoint.lineFeed ∉ body)
    (hr : r.head? = some CodePoint.lineFeed) :
    shape before '-' (CodePoint.ofChar '-' :: body ++ r) =
      (.comment, (CodePoint.ofChar '-' :: body).length) := by
  have hline : ∀ d ∈ CodePoint.ofChar '-' :: body, decide (d ≠ CodePoint.lineFeed) = true := by
    intro d hd
    rw [decide_eq_true_eq]
    rintro rfl
    rcases List.mem_cons.1 hd with hd | hd
    · exact absurd hd (by decide)
    · exact hbody hd
  have hend : r.head?.any (fun d => decide (d ≠ CodePoint.lineFeed)) = false := by simp [hr]
  rw [shape_eq, if_neg (by decide), if_pos ⟨rfl, rfl⟩, length_takeWhile_of_run hline hend]

/-- A comment ends with the first `*/`, also where stars stand before that. -/
theorem blockCommentLength_append (hbody : ¬ ("*/" : Text) <:+: body) (n : Nat) :
    blockCommentLength n (body ++ (("*/" : Text) ++ r)) = n + (body ++ ("*/" : Text)).length := by
  induction body generalizing n with
  | nil => rfl
  | cons d body ih =>
    have hend : ¬ (d = CodePoint.ofChar '*' ∧
        (body ++ (("*/" : Text) ++ r)).head? = some (CodePoint.ofChar '/')) := by
      rintro ⟨rfl, hslash⟩
      cases body with
      | nil =>
        have hstar : CodePoint.ofChar '*' = CodePoint.ofChar '/' := Option.some.inj hslash
        exact absurd hstar (by decide)
      | cons e body =>
        obtain rfl : e = CodePoint.ofChar '/' := Option.some.inj hslash
        exact hbody ⟨[], body, rfl⟩
    rw [List.cons_append, blockCommentLength_cons, if_neg hend,
      ih fun hinside => hbody (hinside.trans (List.suffix_cons d body).isInfix), List.cons_append,
      add_length_cons]

/-- A comment between `/*` and `*/` is one token. -/
theorem shape_blockComment (hbody : ¬ ("*/" : Text) <:+: body) :
    shape before '/' (CodePoint.ofChar '*' :: (body ++ ("*/" : Text)) ++ r) =
      (.comment, (CodePoint.ofChar '*' :: (body ++ ("*/" : Text))).length) := by
  rw [shape_eq, if_neg (by decide), if_neg fun h => absurd h.1 (by decide), if_pos ⟨rfl, rfl⟩,
    List.cons_append, List.drop_one, List.tail_cons, List.append_assoc,
    blockCommentLength_append hbody, List.length_cons, Nat.add_comm]

/-! ## Decoration and what follows it -/

/-- A token that redaction keeps and that the search for the first keyword passes over. -/
def Token.IsPassedOver (token : Token) : Prop := token.isDecoration ∧ token.kind ≠ .literal

/-- Wherever it stands, `w` before `t` is cut into tokens that are passed over, and `t` is cut on its
    own. -/
def PassesOver (w t : Text) : Prop :=
  ∀ before, ∃ behind xs, tokensFrom before (w ++ t) = xs ++ tokensFrom behind t ∧
    ∀ x ∈ xs, x.IsPassedOver

theorem PassesOver.cons {kind : TokenKind} (h : PassesOver w t)
    (hshape : ∀ before, shape before c (u ++ (w ++ t)) = (kind, u.length))
    (hpassed : Token.IsPassedOver ⟨kind, c :: u⟩) : PassesOver (c :: (u ++ w)) t := by
  intro before
  obtain ⟨behind, xs, htokens, hxs⟩ := h (c :: u).getLast?
  refine ⟨behind, ⟨kind, c :: u⟩ :: xs, ?_, List.forall_mem_cons.2 ⟨hpassed, hxs⟩⟩
  rw [List.cons_append, List.append_assoc, tokensFrom_of_shape (hshape before), htokens,
    List.cons_append]

theorem isPassedOver_comment (t : Text) : Token.IsPassedOver ⟨.comment, t⟩ :=
  ⟨by simp [Token.isDecoration], by simp⟩

theorem isPassedOver_whitespace (t : Text) : Token.IsPassedOver ⟨.whitespace, t⟩ :=
  ⟨by simp [Token.isDecoration], by simp⟩

/-- A blank and the blanks behind it are one token. -/
theorem PassesOver.blanks (h : PassesOver (w.dropWhile CodePoint.isBlank) t) (hc : c.isBlank)
    (ht : t.head?.any CodePoint.isBlank = false) : PassesOver (c :: w) t := by
  have hend : (w.dropWhile CodePoint.isBlank ++ t).head?.any CodePoint.isBlank = false := by
    cases hdrop : w.dropWhile CodePoint.isBlank with
    | nil => exact ht
    | cons d v =>
      have hd := List.head?_dropWhile_not CodePoint.isBlank w
      rw [hdrop] at hd
      simpa using hd
  have hblanks : ∀ d ∈ w.takeWhile CodePoint.isBlank, d.isBlank :=
    fun d hd => List.mem_takeWhile_imp hd
  have hrun := h.cons (fun _ => shape_blanks hc hblanks hend) (isPassedOver_whitespace _)
  rwa [List.takeWhile_append_dropWhile] at hrun

/-- **Decoration is cut into tokens of its own**, whatever its comments hold, if no blank follows. -/
theorem IsDecoration.passesOver (h : IsDecoration w) (ht : t.head?.any CodePoint.isBlank = false) :
    PassesOver w t := by
  -- a run of blanks is one token, so the induction carries what is left behind one as well
  suffices PassesOver w t ∧ PassesOver (w.dropWhile CodePoint.isBlank) t from this.1
  induction h with
  | nil =>
    have hnil : PassesOver [] t := fun before => ⟨before, [], rfl, List.forall_mem_nil _⟩
    exact ⟨hnil, hnil⟩
  | blank hc _ ih =>
    rw [List.dropWhile_cons_of_pos hc]
    exact ⟨ih.2.blanks hc ht, ih.2⟩
  | parenthesis _ ih =>
    have hsign : CodePoint.ofChar '(' ∈ soleSigns := by decide
    have hparenthesis := ih.1.cons (u := []) (fun before => shape_sign hsign before _)
      ⟨by decide, by simp⟩
    exact ⟨hparenthesis, hparenthesis⟩
  | @lineComment body w hbody _ ih =>
    -- the end of the line is a blank
    have hline : PassesOver (CodePoint.lineFeed :: w) t := ih.2.blanks (by decide) ht
    have hcomment := hline.cons (fun _ => shape_lineComment hbody rfl) (isPassedOver_comment _)
    exact ⟨hcomment, hcomment⟩
  | @blockComment body w hbody _ ih =>
    have hcomment := ih.1.cons (fun _ => shape_blockComment hbody) (isPassedOver_comment _)
    exact ⟨hcomment, hcomment⟩

/-! ## Redaction -/

/-- What stands before a name does not matter to it. -/
theorem tokensFrom_name (hc : isNameChar c) (hdigit : c.isDecimal = false) (rest : Text)
    (before₂ : Option CodePoint) :
    tokensFrom before (c :: rest) = tokensFrom before₂ (c :: rest) := by
  rw [tokensFrom_cons, tokensFrom_cons, firstToken, firstToken, shape_of_name hc hdigit,
    shape_of_name hc hdigit]

section PassedOver

variable {xs ys : List Token} (h : ∀ x ∈ xs, x.IsPassedOver)

include h

theorem redactedText_of_passedOver : redactedText xs = (xs.map Token.text).flatten := by
  refine congrArg List.flatten (List.map_congr_left fun x hx => ?_)
  exact if_neg (h x hx).2

theorem operation_of_passedOver (sanitized : Text) :
    operation (xs ++ ys) sanitized = operation ys sanitized := by
  induction xs with
  | nil => rfl
  | cons x xs ih =>
    rw [List.forall_mem_cons] at h
    rw [List.cons_append, operation_of_decoration h.1.1, ih h.2]

end PassedOver

/-- A name that comes first is the operation, whatever becomes of the rest. -/
theorem operation_of_name (hc : isNameChar c) (hdigit : c.isDecimal = false) (rest sanitized : Text) :
    operation (tokenize (c :: rest)) sanitized =
      Text.upper (c :: rest.take (nameLength rest)) := by
  have hparen : c ≠ CodePoint.ofChar '(' := by
    rintro rfl
    exact absurd hc (by decide)
  rw [tokenize, tokensFrom_cons, firstToken, shape_of_name hc hdigit,
    operation_of_not_decoration (by simp [Token.isDecoration, hparen]), if_pos rfl]

/-- **Decoration changes neither the redaction nor the operation.** A statement that starts with a name
    is redacted behind blanks, opening parentheses and comments as it is alone, and these stay as they
    are, whatever the comments hold. -/
theorem redact_decorated {n : Int} {rest : Text} (hw : IsDecoration w) (hc : isNameChar c)
    (hdigit : c.isDecimal = false) (hl : ((w ++ c :: rest).length : Int) ≤ n) :
    (redact n (w ++ c :: rest)).value =
      ⟨w ++ (redact n (c :: rest)).value.sanitized, (redact n (c :: rest)).value.operation⟩ := by
  have hblank : (c :: rest).head?.any CodePoint.isBlank = false := isBlank_of_isNameChar hc
  obtain ⟨behind, xs, htokens, hxs⟩ := hw.passesOver hblank none
  rw [tokensFrom_name hc hdigit rest none, ← tokenize, ← tokenize] at htokens
  have hkept : (xs.map Token.text).flatten = w := by
    have hall := flatten_tokenize (w ++ c :: rest)
    rw [htokens, List.map_append, List.flatten_append, flatten_tokenize] at hall
    exact List.append_cancel_right hall
  have hshort : ((c :: rest).length : Int) ≤ n := by
    rw [List.length_append] at hl
    omega
  rw [value_redact_of_le hl, value_redact_of_le hshort, htokens]
  simp only [redactTokens, List.map_append, List.flatten_append, operation_of_passedOver hxs,
    operation_of_name hc hdigit, Redacted.mk.injEq, and_true]
  rw [← hkept, ← redactedText_of_passedOver hxs, redactedText]

/-- Comments that hold quotes, braces, parentheses and the marks of other comments, one with stars at
    its end. -/
theorem redact_decorated_of_comments :
    (redact 99 (("( --'(/*\n/*--\x7b'**/\t(" : Text) ++ ("select'a'" : Text))).value =
      ⟨("( --'(/*\n/*--\x7b'**/\t(select?" : Text), ("SELECT" : Text)⟩ := by
  have hdecoration : IsDecoration ("( --'(/*\n/*--\x7b'**/\t(" : Text) := by
    refine .parenthesis (.blank (by decide) ?_)
    refine @IsDecoration.lineComment ("'(/*" : Text) _ (by decide) ?_
    refine @IsDecoration.blockComment ("--\x7b'*" : Text) _ (by decide) ?_
    exact .blank (by decide) (.parenthesis .nil)
  have hredacted := @redact_decorated 's' _ 99 ("elect'a'" : Text) hdecoration (by decide) (by decide)
    (by decide)
  have halone : (redact 99 (CodePoint.ofChar 's' :: ("elect'a'" : Text))).value =
      ⟨("select?" : Text), ("SELECT" : Text)⟩ := by cbv
  rw [halone] at hredacted
  exact hredacted

end Decoration

end Redaction.Sql
