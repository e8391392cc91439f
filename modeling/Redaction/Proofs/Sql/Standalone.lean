/-
  Numbers that no name touches.

  A run of digits and points stands alone if neither a name nor a further point touches it.  Only the
  start of a statement counts as the inside of a name, so only there a number is taken for a name.

  * `Standalone p run s`: the run stands alone between `p` and `s`;
  * `tokenAt?`: the token that holds a character;
  * `nameAfterNumber_plain`: no name goes on where a number in such a run ends;
  * `kind_of_standalone`: a digit of such a run is held by a literal, or by a token that is kept
    whatever it holds;
  * `literal_of_standalone_iff`: this is so for all digits of the run, unless it is the start of a
    statement that starts with a digit.
-/
import Redaction.Proofs.Sql.Reading

namespace Redaction.Sql

/-! ## Runs -/

/-- A character of a name, or a point. -/
def isRunChar (c : CodePoint) : Bool := isNameChar c || c = CodePoint.ofChar '.'

/-- A run of digits and points between `p` and `s` that neither a name nor a point touches. -/
structure Standalone (p run s : Text) : Prop where
  plain : ∀ c ∈ run, c.isDecimal ∨ c = CodePoint.ofChar '.'
  before : p.getLast?.any isRunChar = false
  behind : s.head?.any isRunChar = false

theorem isNameChar_of_isRunChar {o : Option CodePoint} (h : o.any isRunChar = false) :
    o.any isNameChar = false ∧ o ≠ some (CodePoint.ofChar '.') := by
  cases o with
  | none => simp
  | some c => simpa [isRunChar] using h

section Plain

variable {w s : Text}

/-- Behind digits, a run goes on with a point or not at all. -/
theorem head_drop_digits (hw : ∀ c ∈ w, c.isDecimal ∨ c = CodePoint.ofChar '.')
    (hs : s.head?.any isNameChar = false) :
    ((w ++ s).drop (digitsLength (w ++ s))).head?.any isNameChar = false := by
  induction w with
  | nil =>
    rw [List.nil_append, digitsLength_eq_zero (any_isDecimal_of_any_isNameChar hs), List.drop_zero]
    exact hs
  | cons c w ih =>
    rw [List.forall_mem_cons] at hw
    rw [List.cons_append, digitsLength]
    by_cases hc : c.isDecimal
    · rw [List.takeWhile_cons_of_pos hc, List.length_cons, List.drop_succ_cons]
      exact ih hw.2
    · rw [List.takeWhile_cons_of_neg hc, List.length_nil, List.drop_zero, hw.1.resolve_left hc,
        List.head?_cons]
      decide

/-- **No name goes on where a number ends** in a run of digits and points that no name touches. -/
theorem nameAfterNumber_plain (hw : ∀ c ∈ w, c.isDecimal ∨ c = CodePoint.ofChar '.')
    (hs : s.head?.any isRunChar = false) (hstart : w.head?.any CodePoint.isDecimal) :
    nameAfterNumber (w ++ s) = false := by
  obtain ⟨hname, hpoint⟩ := isNameChar_of_isRunChar hs
  obtain ⟨c, w, rfl⟩ : ∃ c more, w = c :: more := by
    cases w with
    | nil => cases hstart
    | cons c w => exact ⟨c, w, rfl⟩
  obtain ⟨digits, rest, hsplit, hne, hdigits, hrest⟩ := exists_digits (by simpa using hstart) w
  rw [hsplit] at hw ⊢
  rw [List.append_assoc]
  cases rest with
  | nil =>
    have hhex : hexLength (digits ++ s) = 0 := by
      refine hexLength_digits_append hne hdigits ?_
      rintro x hx
      constructor <;> (rintro rfl; rw [hx] at hname; exact absurd hname (by decide))
    rw [List.nil_append, nameAfterNumber_digits hdigits (any_isDecimal_of_any_isNameChar hname) hpoint
      hhex, nameAfterExponent_eq_false hname]
  | cons d rest =>
    have hd : d.isDecimal = false := by simpa using hrest
    obtain rfl : d = CodePoint.ofChar '.' := (hw d (by simp)).resolve_left (by simp [hd])
    rw [List.cons_append, nameAfterNumber_digits_point hne hdigits]
    exact nameAfterExponent_eq_false
      (head_drop_digits (fun c hc => hw c (by simp [hc])) hname)

end Plain

/-! ## The token that holds a character -/

/-- The token that holds the character with so many before it. -/
def tokenAt? : List Token → Nat → Option Token
  | [], _ => none
  | token :: rest, i =>
    if i < token.text.length then some token else tokenAt? rest (i - token.text.length)

theorem exists_tokenAt? {tokens : List Token} {i : Nat} {d : CodePoint}
    (h : (tokens.map Token.text).flatten[i]? = some d) :
    ∃ xs token ys j, tokens = xs ++ token :: ys ∧ tokenAt? tokens i = some token ∧
      i = (xs.map Token.text).flatten.length + j ∧ token.text[j]? = some d := by
  induction tokens generalizing i with
  | nil => simp at h
  | cons token rest ih =>
    rw [List.map_cons, List.flatten_cons] at h
    by_cases hi : i < token.text.length
    · rw [List.getElem?_append_left hi] at h
      exact ⟨[], token, rest, i, rfl, if_pos hi, by simp, h⟩
    · rw [List.getElem?_append_right (by omega)] at h
      obtain ⟨xs, x, ys, j, rfl, hat, hj, hd⟩ := ih h
      refine ⟨token :: xs, x, ys, j, rfl, ?_, ?_, hd⟩
      · rw [tokenAt?, if_neg hi, hat]
      · rw [List.map_cons, List.flatten_cons, List.length_append]
        omega

/-! ## Digits of a run -/

/-- The kinds of tokens that are kept whatever they hold. -/
def keptWhole : List TokenKind := [.quotedIdentifier, .comment, .parameterSpan, .unparsed]

section Run

variable {p run s : Text}

/-- A name that goes on into a run that stands alone starts in it. -/
theorem exists_of_name_in_run (h : Standalone p run s) {X Y name : Text}
    (htext : p ++ (run ++ s) = X ++ (name ++ Y)) (hname : ∀ d ∈ name, isNameChar d) {i j : Nat}
    (hi : i < run.length) (hij : p.length + i = X.length + j) (hj : j < name.length) :
    ∃ a w, X = p ++ a ∧ run = a ++ w ∧ w ≠ [] ∧ w ++ s = name ++ Y := by
  rcases List.append_eq_append_iff.1 htext with ⟨a, rfl, hrun⟩ | ⟨b, rfl, hrest⟩
  · rcases List.append_eq_append_iff.1 hrun with ⟨b, rfl, -⟩ | ⟨w, rfl, hw⟩
    · simp only [List.length_append] at hij
      omega
    · refine ⟨a, w, rfl, rfl, ?_, hw.symm⟩
      rintro rfl
      simp only [List.length_append, List.append_nil] at hij hi
      omega
  · cases hb : b.getLast? with
    | none =>
      obtain rfl := List.getLast?_eq_none_iff.1 hb
      refine ⟨[], run, by simp, rfl, ?_, by simpa using hrest.symm⟩
      rintro rfl
      simp at hi
    | some d =>
      -- the last character before the run would be one of the name
      have hmem : d ∈ name := by
        have hlen : b.length ≤ name.length := by
          simp only [List.length_append] at hij
          omega
        have hprefix : b <+: name :=
          List.prefix_of_prefix_length_le ⟨run ++ s, hrest.symm⟩ ⟨Y, rfl⟩ hlen
        exact hprefix.subset (List.mem_of_getLast? hb)
      have hlast := h.before
      rw [List.getLast?_append, hb, Option.some_or, Option.any_some, isRunChar, hname d hmem] at hlast
      cases hlast

variable {xs ys : List Token} {token : Token} {i j : Nat} {d : CodePoint}

/-- A name that holds a digit of a run that stands alone starts with a digit that continues no name,
    and no name goes on behind that number, unless the statement starts with the run. -/
theorem number_of_name_in_run (h : Standalone p run s)
    (hstart : p = [] → run.head?.any CodePoint.isDecimal = false)
    (htokens : tokenize (p ++ (run ++ s)) = xs ++ token :: ys)
    (hij : p.length + i = (xs.map Token.text).flatten.length + j) (hi : i < run.length)
    (hj : j < token.text.length) (hname : ∀ d ∈ token.text, isNameChar d) :
    token.text.head?.any CodePoint.isDecimal ∧
      continuesName ((xs.map Token.text).flatten.getLast?.or none) = false ∧
      nameAfterNumber (token.text ++ (ys.map Token.text).flatten) = false := by
  have hwhole : p ++ (run ++ s) =
      (xs.map Token.text).flatten ++ (token.text ++ (ys.map Token.text).flatten) := by
    have hflat := flatten_tokenize (p ++ (run ++ s))
    rw [htokens, List.map_append, List.flatten_append, List.map_cons, List.flatten_cons] at hflat
    exact hflat.symm
  obtain ⟨a, w, hX, rfl, hne, hw⟩ := exists_of_name_in_run h hwhole hname hi hij hj
  obtain ⟨e, w, rfl⟩ := List.exists_cons_of_ne_nil hne
  have hhead : token.text.head? = some e := by
    obtain ⟨c, u, htext, -⟩ := shape_of_tokensFrom htokens
    rw [htext, List.cons_append, List.cons_append] at hw
    rw [htext, (List.cons.inj hw).1]
    rfl
  have he : isNameChar e := hname e (List.mem_of_head? hhead)
  have hdecimal : e.isDecimal := by
    refine (h.plain e (by simp)).resolve_right ?_
    rintro rfl
    exact absurd he (by decide)
  refine ⟨by rwa [hhead], ?_, ?_⟩
  · refine not_continuesName_of_tokensFrom htokens (by rwa [hhead]) ?_
    rw [hX]
    intro hnil
    obtain ⟨rfl, rfl⟩ := List.append_eq_nil_iff.1 hnil
    have hfalse := hstart rfl
    rw [List.nil_append, List.head?_cons, Option.any_some, hdecimal] at hfalse
    cases hfalse
  · rw [← hw]
    exact nameAfterNumber_plain (fun c hc => h.plain c (List.mem_append_right a hc)) h.behind
      hdecimal

/-- **A digit of a run that stands alone** is held by a literal, or by a token that is kept whatever it
    holds, unless the statement starts with the run. -/
theorem kind_of_standalone (h : Standalone p run s)
    (hstart : p = [] → run.head?.any CodePoint.isDecimal = false)
    (htokens : tokenize (p ++ (run ++ s)) = xs ++ token :: ys)
    (hij : p.length + i = (xs.map Token.text).flatten.length + j) (hi : run[i]? = some d)
    (hj : token.text[j]? = some d) (hd : d.isDecimal) :
    token.kind = .literal ∨ token.kind ∈ keptWhole := by
  obtain ⟨c, u, htext, hshape⟩ := shape_of_tokensFrom htokens
  have hmem : d ∈ c :: u := htext ▸ List.mem_of_getElem? hj
  have hname := isNameChar_of_isDecimal hd
  generalize hkind : token.kind = kind at hshape ⊢
  cases reads_of_shape hshape with
  | blanks hblank =>
    rw [isNameChar_of_isBlank (hblank d hmem)] at hname
    cases hname
  | lineComment | blockComment | openQuote | span => exact .inr (by decide)
  | quoted hquote =>
    have hkinds : ∀ pair ∈ quotedKinds, pair.2 = .literal ∨ pair.2 ∈ keptWhole := by decide
    exact hkinds _ hquote
  | number => exact .inl rfl
  | pointName =>
    rw [List.mem_singleton.1 hmem] at hd
    exact absurd hd (by decide)
  | sign hsign =>
    rw [List.mem_singleton.1 hmem, hsign] at hname
    cases hname
  | name hnames _ htouch =>
    obtain ⟨hi', -⟩ := List.getElem?_eq_some_iff.1 hi
    obtain ⟨hj', -⟩ := List.getElem?_eq_some_iff.1 hj
    obtain ⟨hc, hbefore, hplain⟩ :=
      number_of_name_in_run h hstart htokens hij hi' hj' (htext ▸ hnames)
    rw [htext] at hc hplain
    rw [List.cons_append, htouch (by simpa using hc) hbefore] at hplain
    cases hplain

/-- A statement that starts with a digit starts with a name. -/
theorem tokenAt?_start {c : CodePoint} (hc : c.isDecimal) (rest : Text) :
    ∃ text, tokenAt? (tokenize (c :: rest)) 0 = some ⟨.identifier, text⟩ := by
  have hpoint : c ≠ CodePoint.ofChar '.' := by
    rintro rfl
    exact absurd hc (by decide)
  have hshape : shape none c rest = (.identifier, nameLength rest) := by
    rw [shape_of_startsNumber (.inl hc), numberShape_of_continuesName rfl, if_neg hpoint]
  refine ⟨c :: rest.take (nameLength rest), ?_⟩
  rw [tokenize, tokensFrom_cons, firstToken, hshape]
  exact if_pos (Nat.succ_pos _)

end Run

/-- **A number that no name touches is redacted unless the statement starts with it.** Every digit of a
    run that stands alone is held by a literal, of which redaction leaves the placeholder, or by a
    token that is kept whatever it holds. The exception is a run at the start of the statement that
    starts with a digit: what stands before the statement counts as a name. -/
theorem literal_of_standalone_iff {p run s : Text} (h : Standalone p run s) :
    (∀ i d, run[i]? = some d → d.isDecimal → ∃ token,
      tokenAt? (tokenize (p ++ run ++ s)) (p.length + i) = some token ∧
        (token.kind = .literal ∧ token.redacted = placeholder ∨ token.kind ∈ keptWhole)) ↔
      ¬ (p = [] ∧ run.head?.any CodePoint.isDecimal) := by
  constructor
  · rintro hall ⟨rfl, hrun⟩
    obtain ⟨c, run, rfl⟩ : ∃ c more, run = c :: more := by
      cases run with
      | nil => cases hrun
      | cons c run => exact ⟨c, run, rfl⟩
    have hc : c.isDecimal := by simpa using hrun
    obtain ⟨token, htoken, hkind⟩ := hall 0 c rfl hc
    obtain ⟨text, hname⟩ := tokenAt?_start hc (run ++ s)
    obtain rfl : ⟨.identifier, text⟩ = token := Option.some.inj (hname.symm.trans htoken)
    rcases hkind with ⟨hkind, -⟩ | hkind
    · cases hkind
    · simp [keptWhole] at hkind
  · intro hstart i d hi hd
    have hchar : (p ++ (run ++ s))[p.length + i]? = some d := by
      obtain ⟨hlt, -⟩ := List.getElem?_eq_some_iff.1 hi
      rw [List.getElem?_append_right (by omega), Nat.add_sub_cancel_left,
        List.getElem?_append_left hlt, hi]
    rw [← flatten_tokenize (p ++ (run ++ s))] at hchar
    obtain ⟨xs, token, ys, j, htokens, hat, hij, hj⟩ := exists_tokenAt? hchar
    refine ⟨token, by rw [List.append_assoc, hat], ?_⟩
    have hhead : p = [] → run.head?.any CodePoint.isDecimal = false := by
      intro hp
      by_contra hrun
      exact hstart ⟨hp, by simpa using hrun⟩
    rcases kind_of_standalone h hhead htokens hij hi hj hd with hkind | hkind
    · exact .inl ⟨hkind, if_pos hkind⟩
    · exact .inr hkind

/-- An address behind a sign and before a semicolon. -/
theorem literal_of_standalone_iff_address :
    Standalone ("limit -" : Text) ("10.0..7.1" : Text) ("; 1e+5" : Text) ∧
      ∀ i d, ("10.0..7.1" : Text)[i]? = some d → d.isDecimal → ∃ token,
        tokenAt? (tokenize (("limit -" : Text) ++ ("10.0..7.1" : Text) ++ ("; 1e+5" : Text)))
            (("limit -" : Text).length + i) = some token ∧
          (token.kind = .literal ∧ token.redacted = placeholder ∨ token.kind ∈ keptWhole) := by
  have h : Standalone ("limit -" : Text) ("10.0..7.1" : Text) ("; 1e+5" : Text) :=
    ⟨by decide, by decide, by decide⟩
  refine ⟨h, (literal_of_standalone_iff h).2 ?_⟩
  rintro ⟨hp, -⟩
  cases hp

/-- A number that a statement starts with is taken for a name, and is kept. -/
theorem standalone_kept_at_start :
    Standalone [] ("42" : Text) [] ∧
      ¬ ∀ i d, ("42" : Text)[i]? = some d → d.isDecimal → ∃ token,
        tokenAt? (tokenize ([] ++ ("42" : Text) ++ [])) (([] : Text).length + i) = some token ∧
          (token.kind = .literal ∧ token.redacted = placeholder ∨ token.kind ∈ keptWhole) := by
  refine ⟨⟨by decide, by decide, by decide⟩, ?_⟩
  intro hall
  obtain ⟨token, htoken, hkind⟩ := hall 0 _ rfl (by decide)
  have htokens : tokenize ([] ++ ("42" : Text) ++ []) = [⟨.identifier, ("42" : Text)⟩] := by cbv
  rw [htokens] at htoken
  cases htoken
  rcases hkind with ⟨hkind, -⟩ | hkind
  · cases hkind
  · simp [keptWhole] at hkind

end Redaction.Sql
