/-
  The pieces of a printed tree.

  * `Place.within?`: where a reader gets to in a quoted text, unless the text ends before;
    `within?_escape` says that a character between quotes does not end it;
  * `IsLexeme piece`: the piece is a sign, a quoted text, or a word or number;
  * `Node.IsPlain.isLexeme_of_mem`: a printed tree is made of such pieces.
-/
import Redaction.Batch
import Redaction.Proofs.Json.Layout

namespace Redaction

/-! ## Inside of quotes -/

namespace Batch.Place

open Json (escape quoted)

theorem next_outside {c : CodePoint} (hc : c ≠ CodePoint.doubleQuote) : outside.next c = outside :=
  if_neg hc

theorem next_outside_quote : outside.next CodePoint.doubleQuote = quoted := by decide

/-- Where the character behind a text stands, if all of the text is read inside of quotes. -/
def within? (place : Place) : Text → Option Place
  | [] => some place
  | c :: rest => if place = .outside then none else (place.next c).within? rest

theorem within?_append (place : Place) (s t : Text) :
    place.within? (s ++ t) = (place.within? s).bind fun place => place.within? t := by
  induction s generalizing place with
  | nil => rfl
  | cons c s ih =>
    rw [List.cons_append, within?, within?]
    split
    · rfl
    · exact ih _

theorem foldl_next_of_within? {place place' : Place} {t : Text} (h : place.within? t = some place') :
    t.foldl next place = place' := by
  induction t generalizing place with
  | nil => exact Option.some.inj h
  | cons c t ih =>
    rw [within?] at h
    split at h
    · cases h
    · exact ih h

/-- A character as it stands between quotes does not end them. -/
theorem within?_escape (c : CodePoint) : quoted.within? (escape c) = some quoted := by
  unfold escape
  split
  case h_1 letter hl =>
    obtain ⟨before, after, hmem, -⟩ := List.lookup_eq_some_iff.1 hl
    have hletters : ∀ pair ∈ Json.shortEscapes,
        quoted.within? [CodePoint.backslash, pair.2] = some quoted := by decide
    exact hletters (c, letter) (by simp [hmem])
  case h_2 hl =>
    split
    case isTrue hc =>
      have hhex : ∀ n < 32, quoted.within?
          (CodePoint.backslash :: CodePoint.ofChar 'u' :: Text.hex 4 n) = some quoted := by decide
      exact hhex _ hc
    case isFalse =>
      have hquote : c ≠ CodePoint.doubleQuote := by rintro rfl; revert hl; decide
      have hslash : c ≠ CodePoint.backslash := by rintro rfl; revert hl; decide
      simp [within?, next, hquote, hslash]

theorem within?_flatMap_escape (t : Text) : quoted.within? (t.flatMap escape) = some quoted := by
  induction t with
  | nil => rfl
  | cons c t ih => rw [List.flatMap_cons, within?_append, within?_escape, Option.bind_some, ih]

/-- **A quoted text is closed** by its last quote, and not before. -/
theorem within?_quoted (t : Text) :
    quoted.within? (t.flatMap escape ++ [CodePoint.doubleQuote]) = some outside := by
  rw [within?_append, within?_flatMap_escape, Option.bind_some]
  decide

end Batch.Place

namespace Json

/-! ## Pieces -/

/-- A character of a word or of an integer. -/
def isWordChar (c : CodePoint) : Bool := c.isAsciiLetter || c.isAsciiDigit || c = '-'

theorem ne_of_isWordChar {c d : CodePoint} (hc : isWordChar c) (hd : isWordChar d = false) :
    c ≠ d := by
  rintro rfl
  rw [hd] at hc
  cases hc

theorem ne_doubleQuote_of_mem_signs :
    ∀ c ∈ signs, CodePoint.ofChar c ≠ CodePoint.doubleQuote :=
  forall_mem_signs.2 (by decide)

/-- A sign, a quoted text, or a word or integer. -/
inductive IsLexeme : Text → Prop
  | sign {c} : c ∈ signs → IsLexeme (sign c)
  | quoted (t) : IsLexeme (quoted t)
  | word {c t} : (∀ d ∈ c :: t, isWordChar d) → IsLexeme (c :: t)

theorem Scalar.IsPlain.isLexeme {s : Scalar} (h : s.IsPlain) : IsLexeme s.text := by
  cases s with
  | null => exact .word (by decide)
  | boolean b => cases b <;> exact .word (by decide)
  | float x => exact h.elim
  | string t => exact .quoted t
  | integer n =>
    have hdigits : ∀ d ∈ Text.decimal n.natAbs, isWordChar d := by
      intro d hd
      simp [isWordChar, Text.isAsciiDigit_of_mem_decimal hd]
    obtain ⟨d, ds, hn, -⟩ := Text.decimal_eq_cons n.natAbs
    rw [hn] at hdigits
    rw [text, Text.integer_eq, hn]
    split
    · exact .word (List.forall_mem_cons.2 ⟨by decide, hdigits⟩)
    · exact .word hdigits

theorem mem_of_mem_intercalate {α : Type} {sep : List α} {groups : List (List α)} {x : α}
    (h : x ∈ sep.intercalate groups) : x ∈ sep ∨ ∃ group ∈ groups, x ∈ group := by
  induction groups with
  | nil => cases h
  | cons group groups ih =>
    cases groups with
    | nil => exact .inr ⟨group, by simp, by simpa using h⟩
    | cons group₂ groups =>
      rw [List.intercalate_cons_cons, List.mem_append, List.mem_append] at h
      rcases h with (h | h) | h
      · exact .inr ⟨group, by simp, h⟩
      · exact .inl h
      · rcases ih h with h | ⟨g, hg, h⟩
        · exact .inl h
        · exact .inr ⟨g, List.mem_cons_of_mem _ hg, h⟩

/-- **A printed tree is made of signs, quoted texts, words and integers.** -/
theorem Node.IsPlain.isLexeme_of_mem {node : Node} (h : node.IsPlain) :
    ∀ piece ∈ node.lexemes, IsLexeme piece := by
  induction h with
  | scalar hs =>
    intro piece hp
    rw [lexemes_scalar, List.mem_singleton] at hp
    exact hp ▸ hs.isLexeme
  | array _ ih =>
    intro piece hp
    rw [lexemes_array, List.cons_append, List.mem_cons, List.mem_append, List.mem_singleton] at hp
    rcases hp with rfl | hp | rfl
    · exact .sign (by decide)
    · rcases mem_of_mem_intercalate hp with hp | ⟨pieces, hps, hp⟩
      · exact List.mem_singleton.1 hp ▸ .sign (by decide)
      · obtain ⟨item, hitem, rfl⟩ := List.mem_map.1 hps
        exact ih item hitem piece hp
    · exact .sign (by decide)
  | object _ ih =>
    intro piece hp
    rw [lexemes_object, List.cons_append, List.mem_cons, List.mem_append, List.mem_singleton] at hp
    rcases hp with rfl | hp | rfl
    · exact .sign (by decide)
    · rcases mem_of_mem_intercalate hp with hp | ⟨pieces, hps, hp⟩
      · exact List.mem_singleton.1 hp ▸ .sign (by decide)
      · obtain ⟨entry, hentry, rfl⟩ := List.mem_map.1 hps
        rcases List.mem_cons.1 hp with rfl | hp
        · exact .quoted _
        rcases List.mem_cons.1 hp with rfl | hp
        · exact .sign (by decide)
        · exact ih entry hentry piece hp
    · exact .sign (by decide)

end Json

end Redaction
