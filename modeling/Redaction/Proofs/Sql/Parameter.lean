/-
  Parameter spans.

  What stands in a parameter span is kept as it is, so it matters which braces make one.

  * `IsDeclaration`: a name, a colon and a type, told by how they follow one another;
  * `isParameter_iff`: the test of what stands between braces finds the declarations;
  * `Declares rest inside`: behind an open brace, a declaration stands before the next brace, and that
    one closes it;
  * `parameterLength?_eq_some_iff`: the span is as long as that;
  * `parameterSpan_iff_declares`: so a brace that a token starts with makes a span of what it declares,
    and is a sign of its own where it declares nothing.
-/
import Redaction.Proofs.Sql.Reading

namespace Redaction.Sql

/-! ## Declarations -/

/-- What stands between the braces of a parameter: a name, a colon and a type. Blanks may stand before
    each of them, and of the type only the first character counts. -/
inductive IsDeclaration : Text → Prop
  | intro {blanks₁ blanks₂ blanks₃ name type : Text} {c d : CodePoint} :
      (∀ b ∈ blanks₁, b.isBlank) → startsParameter c → (∀ n ∈ name, n.isWord) →
      (∀ b ∈ blanks₂, b.isBlank) → (∀ b ∈ blanks₃, b.isBlank) → startsParameter d →
      IsDeclaration
        (blanks₁ ++ c :: (name ++ (blanks₂ ++ CodePoint.ofChar ':' :: (blanks₃ ++ d :: type))))

theorem isBlank_of_startsParameter {c : CodePoint} (h : startsParameter c) : c.isBlank = false := by
  by_contra hblank
  obtain ⟨range, hmem, hlow, hhigh⟩ := Ranges.mem_of_contains (Bool.of_not_eq_false hblank)
  have htable : ∀ range ∈ Ranges.blank, ∀ n ∈ List.range' range.1 (range.2 + 1 - range.1),
      n < 0x41 ∨ n = 0x85 ∨ 0x7A < n := by
    decide +kernel
  have hval := htable range hmem c.val (List.mem_range'_1.2 ⟨hlow, by omega⟩)
  simp only [startsParameter, CodePoint.isAsciiLetter, Bool.or_eq_true, Bool.and_eq_true,
    decide_eq_true_eq] at h
  rcases h with h | rfl
  · omega
  · revert hval
    decide

theorem isWord_of_isBlank {c : CodePoint} (h : c.isBlank) : c.isWord = false := by
  have hname := isNameChar_of_isBlank h
  rw [isNameChar, Bool.or_eq_false_iff] at hname
  exact hname.1

/-- Blanks before something else go, and `exists_of_trimStart`: nothing but blanks goes. -/
theorem trimStart_append {blanks : Text} {c : CodePoint} (hblanks : ∀ b ∈ blanks, b.isBlank)
    (hc : c.isBlank = false) (rest : Text) : Text.trimStart (blanks ++ c :: rest) = c :: rest := by
  rw [Text.trimStart, List.dropWhile_append_of_pos hblanks, List.dropWhile_cons_of_neg (by simp [hc])]

theorem exists_of_trimStart {t rest : Text} {c : CodePoint} (h : Text.trimStart t = c :: rest) :
    ∃ blanks, (∀ b ∈ blanks, b.isBlank) ∧ t = blanks ++ c :: rest := by
  refine ⟨t.takeWhile CodePoint.isBlank, fun b hb => List.mem_takeWhile_imp hb, ?_⟩
  rw [← h, Text.trimStart, List.takeWhile_append_dropWhile]

/-- **The test of what stands between braces finds the declarations.** -/
theorem isParameter_iff {inside : Text} : isParameter inside = true ↔ IsDeclaration inside := by
  constructor
  · intro h
    unfold isParameter at h
    split at h
    case h_1 => cases h
    case h_2 c rest hname =>
      obtain ⟨hc, h⟩ := Bool.and_eq_true_iff.1 h
      split at h
      case h_1 => cases h
      case h_2 colon type hcolon =>
        obtain ⟨hsign, h⟩ := Bool.and_eq_true_iff.1 h
        split at h
        case h_1 => cases h
        case h_2 d more htype =>
          obtain ⟨blanks₁, hblanks₁, rfl⟩ := exists_of_trimStart hname
          obtain ⟨blanks₂, hblanks₂, hrest⟩ := exists_of_trimStart hcolon
          obtain ⟨blanks₃, hblanks₃, rfl⟩ := exists_of_trimStart htype
          obtain rfl := of_decide_eq_true hsign
          rw [htype] at h
          rw [← List.takeWhile_append_dropWhile (p := CodePoint.isWord) (l := rest), hrest]
          exact .intro hblanks₁ hc (fun n hn => List.mem_takeWhile_imp hn) hblanks₂ hblanks₃ h
  · rintro @⟨blanks₁, blanks₂, blanks₃, name, type, c, d, hblanks₁, hc, hname, hblanks₂, hblanks₃, hd⟩
    -- the name ends before the blanks, or else before the colon
    have hend : ((blanks₂ ++ CodePoint.ofChar ':' :: (blanks₃ ++ d :: type)).dropWhile
        CodePoint.isWord) = blanks₂ ++ CodePoint.ofChar ':' :: (blanks₃ ++ d :: type) := by
      cases blanks₂ with
      | nil => exact List.dropWhile_cons_of_neg (by decide)
      | cons b blanks₂ =>
        have hb := isWord_of_isBlank (hblanks₂ b List.mem_cons_self)
        exact List.dropWhile_cons_of_neg (by simp [hb])
    rw [isParameter, trimStart_append hblanks₁ (isBlank_of_startsParameter hc)]
    dsimp only
    rw [List.dropWhile_append_of_pos hname, hend, trimStart_append hblanks₂ (by decide)]
    dsimp only
    rw [trimStart_append hblanks₃ (isBlank_of_startsParameter hd)]
    simp [hc, hd]

/-! ## Spans -/

/-- Behind an open brace stands a declaration, and the next brace closes it. -/
structure Declares (rest inside : Text) : Prop where
  /-- No brace stands in the declaration. -/
  plain : ∀ c ∈ inside, isBrace c = false
  /-- The closing brace stands behind it. -/
  closed : inside ++ [CodePoint.ofChar '}'] <+: rest
  declaration : IsDeclaration inside

/-- **A span goes up to the next brace**, and there is one just if that brace closes a declaration. -/
theorem parameterLength?_eq_some_iff {rest : Text} {n : Nat} :
    parameterLength? rest = some n ↔ ∃ inside, Declares rest inside ∧ n = inside.length + 1 := by
  constructor
  · intro h
    have hprefix := List.takeWhile_prefix (fun c => ! isBrace c) (l := rest)
    unfold parameterLength? at h
    dsimp only at h
    split at h
    · cases h
    case h_2 c behind hdrop =>
      split at h
      case isFalse => cases h
      case isTrue hclose =>
        obtain ⟨rfl, hinside⟩ := hclose
        refine ⟨_, ⟨fun c hc => ?_, ?_, isParameter_iff.1 hinside⟩, (Option.some.inj h).symm⟩
        · simpa using List.mem_takeWhile_imp hc
        · refine ⟨behind, ?_⟩
          rw [List.append_assoc, List.singleton_append, ← hdrop]
          exact List.prefix_iff_eq_append.1 hprefix
  · rintro ⟨inside, ⟨hplain, ⟨behind, rfl⟩, hinside⟩, rfl⟩
    have htake :
        (inside ++ [CodePoint.ofChar '}'] ++ behind).takeWhile (fun c => ! isBrace c) = inside := by
      rw [List.append_assoc, List.takeWhile_append_of_pos (by simpa using hplain),
        List.singleton_append, List.takeWhile_cons_of_neg (by decide), List.append_nil]
    rw [parameterLength?, htake, List.append_assoc, List.drop_left, List.singleton_append]
    exact if_pos ⟨rfl, isParameter_iff.2 hinside⟩

/-- The token starts behind so many characters. -/
def StartsAt (tokens : List Token) (i : Nat) (token : Token) : Prop :=
  ∃ xs ys, tokens = xs ++ token :: ys ∧ (xs.map Token.text).flatten.length = i

/-- A brace that a token starts with is a span of so many characters, or a sign of its own. -/
theorem cases_of_brace {before rest : Text} {token : Token}
    (h : StartsAt (tokenize (before ++ CodePoint.ofChar '{' :: rest)) before.length token) :
    (∃ n, parameterLength? rest = some n ∧
        token = ⟨.parameterSpan, CodePoint.ofChar '{' :: rest.take n⟩) ∨
      (parameterLength? rest = none ∧ token = ⟨.punctuation, [CodePoint.ofChar '{']⟩) := by
  obtain ⟨xs, ys, htokens, hlen⟩ := h
  obtain ⟨c, u, htext, hshape⟩ := shape_of_tokensFrom htokens
  have hwhole := flatten_tokenize (before ++ CodePoint.ofChar '{' :: rest)
  rw [htokens, List.map_append, List.flatten_append] at hwhole
  have hrest := List.append_inj_right hwhole hlen
  rw [List.map_cons, List.flatten_cons, htext, List.cons_append] at hrest
  obtain ⟨rfl, rfl⟩ := List.cons.inj hrest
  obtain ⟨kind, text⟩ := token
  obtain rfl : text = CodePoint.ofChar '{' :: u := htext
  rcases brace_of_shape hshape with ⟨rfl, hspan⟩ | ⟨rfl, rfl, hnone⟩
  · exact .inl ⟨u.length, hspan, by rw [List.take_left]⟩
  · exact .inr ⟨hnone, rfl⟩

/-- **Parameter spans are recognised exactly.** A token that starts with an open brace is a parameter
    span just if the next brace is a closing one and a declaration stands between the two. The span is
    then the declaration in its braces, so it holds no others; and a brace that declares nothing is a
    sign of its own. -/
theorem parameterSpan_iff_declares {before rest : Text} {token : Token}
    (h : StartsAt (tokenize (before ++ CodePoint.ofChar '{' :: rest)) before.length token) :
    (token.kind = .parameterSpan ↔ ∃ inside, Declares rest inside) ∧
      (∀ inside, Declares rest inside →
        token.text = CodePoint.ofChar '{' :: (inside ++ [CodePoint.ofChar '}'])) ∧
      (token.kind ≠ .parameterSpan → token = ⟨.punctuation, [CodePoint.ofChar '{']⟩) := by
  rcases cases_of_brace h with ⟨n, hspan, rfl⟩ | ⟨hnone, rfl⟩
  · obtain ⟨inside, hinside, rfl⟩ := parameterLength?_eq_some_iff.1 hspan
    refine ⟨⟨fun _ => ⟨inside, hinside⟩, fun _ => rfl⟩, fun other hother => ?_, fun hkind => ?_⟩
    · have hlen := parameterLength?_eq_some_iff.2 ⟨other, hother, rfl⟩
      have heq : other.length + 1 = inside.length + 1 := Option.some.inj (hlen.symm.trans hspan)
      obtain ⟨behind, rfl⟩ := hother.closed
      have htake : inside.length + 1 = (other ++ [CodePoint.ofChar '}']).length := by
        rw [← heq, List.length_append, List.length_singleton]
      rw [htake, List.take_left]
    · exact absurd rfl hkind
  · have hdeclares : ∀ inside, ¬ Declares rest inside := by
      intro inside hinside
      have hlen := parameterLength?_eq_some_iff.2 ⟨inside, hinside, rfl⟩
      rw [hnone] at hlen
      cases hlen
    refine ⟨⟨fun hkind => ?_, fun ⟨inside, hinside⟩ => absurd hinside (hdeclares inside)⟩,
      fun inside hinside => absurd hinside (hdeclares inside), fun _ => rfl⟩
    cases hkind

/-- A parameter behind a brace that declares nothing, with a quoted text in its type and a number behind
    it. -/
theorem parameterSpan_iff_declares_of_quote :
    StartsAt (tokenize (("\x7b " : Text) ++ CodePoint.ofChar '{' :: ("p : T('x')\x7d5\x7d" : Text))) 2
        ⟨.parameterSpan, ("\x7bp : T('x')\x7d" : Text)⟩ ∧
      ∃ inside, Declares ("p : T('x')\x7d5\x7d" : Text) inside := by
  have htokens : tokenize (("\x7b " : Text) ++ CodePoint.ofChar '{' :: ("p : T('x')\x7d5\x7d" : Text)) =
      [⟨.punctuation, ['{']⟩, ⟨.whitespace, [' ']⟩] ++
        ⟨.parameterSpan, ("\x7bp : T('x')\x7d" : Text)⟩ ::
          [⟨.literal, ['5']⟩, ⟨.punctuation, ['}']⟩] := by cbv
  have hstarts := (⟨_, _, htokens, rfl⟩ : StartsAt _ 2 _)
  exact ⟨hstarts, (parameterSpan_iff_declares hstarts).1.1 rfl⟩

end Redaction.Sql
