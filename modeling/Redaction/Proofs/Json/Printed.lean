/-
  What the printer writes.

  * `Node.IsPlain.oneLine_dump`: no control character is written, so a printed tree is one line;
  * `Node.IsPlain.dump_eq_cons`: the first character starts a value, and tells arrays and objects
    from scalars;
  * `redactLine_dump`: what becomes of a printed tree depends on the redacted tree alone.
-/
import Redaction.Proofs.Json.Lexeme
import Redaction.Proofs.Json.Shape

namespace Redaction.Json

/-! ## Control characters -/

/-- A text without control characters. -/
def OneLine (t : Text) : Prop := ∀ c ∈ t, 0x20 ≤ c.val

theorem oneLine_flatten {pieces : List Text} (h : ∀ piece ∈ pieces, OneLine piece) :
    OneLine pieces.flatten := by
  intro c hc
  obtain ⟨piece, hmem, hc⟩ := List.mem_flatten.1 hc
  exact h piece hmem c hc

theorem OneLine.not_mem_lineFeed {t : Text} (h : OneLine t) : CodePoint.lineFeed ∉ t := by
  intro hmem
  exact absurd (h _ hmem) (by decide)

theorem oneLine_escape (c : CodePoint) : OneLine (escape c) := by
  unfold escape
  split
  case h_1 letter hl =>
    obtain ⟨before, after, hmem, -⟩ := List.lookup_eq_some_iff.1 hl
    have hletters : ∀ pair ∈ shortEscapes, OneLine [CodePoint.backslash, pair.2] := by
      unfold OneLine
      decide
    exact hletters (c, letter) (by simp [hmem])
  case h_2 =>
    split
    case isTrue hc =>
      have hhex : ∀ n < 32, OneLine (CodePoint.backslash :: CodePoint.ofChar 'u' :: Text.hex 4 n) := by
        unfold OneLine
        decide
      exact hhex _ hc
    case isFalse hc =>
      intro d hd
      rw [List.mem_singleton.1 hd]
      omega

theorem oneLine_quoted (t : Text) : OneLine (quoted t) := by
  intro c hc
  simp only [quoted, List.mem_cons, List.mem_append, List.mem_flatMap, List.not_mem_nil,
    or_false] at hc
  rcases hc with rfl | ⟨d, -, hc⟩ | rfl
  · decide
  · exact oneLine_escape d c hc
  · decide

theorem oneLine_sign : ∀ c ∈ signs, OneLine (sign c) := by
  simp only [OneLine, sign, List.mem_singleton, forall_eq]
  exact forall_mem_signs.2 (by decide)

theorem IsLexeme.oneLine {piece : Text} (h : IsLexeme piece) : OneLine piece := by
  cases h with
  | sign hc => exact oneLine_sign _ hc
  | quoted t => exact oneLine_quoted t
  | @word c t hword =>
    intro d hd
    have hd := hword d hd
    simp only [isWordChar, CodePoint.isAsciiLetter, CodePoint.isAsciiDigit, Bool.or_eq_true,
      Bool.and_eq_true, decide_eq_true_eq] at hd
    rcases hd with ((hd | hd) | hd) | rfl
    · omega
    · omega
    · omega
    · decide

/-- A printed tree has no control characters, whatever its texts hold. -/
theorem Node.IsPlain.oneLine_dump {node : Node} (h : node.IsPlain) : OneLine node.dump :=
  oneLine_flatten fun piece hp => (h.isLexeme_of_mem piece hp).oneLine

/-! ## First characters -/

/-- An array or object. -/
def Node.isContainer : Node → Bool
  | scalar _ => false
  | array _ | object _ => true

theorem Node.isContainer_redact (node : Node) : node.redact.isContainer = node.isContainer := by
  cases node <;> simp [isContainer]

theorem Node.IsPlain.dump_eq_cons {node : Node} (h : node.IsPlain) :
    ∃ c cs, node.dump = c :: cs ∧ startsValue c ∧
      (decide (c = CodePoint.ofChar '{') || decide (c = CodePoint.ofChar '[')) =
        node.isContainer := by
  cases h with
  | @scalar s hs =>
    obtain ⟨c, cs, ht, hstart, hc⟩ := Scalar.text_eq_cons hs
    refine ⟨c, cs, by rw [dump, lexemes_scalar, List.flatten_singleton, ht], hstart, ?_⟩
    rcases hc with hc | ⟨t, rfl⟩
    · simp only [startsPlain, Bool.and_eq_true, decide_eq_true_eq] at hc
      simp [isContainer, hc]
    · cases ht
      rfl
  | array => exact ⟨_, _, by rw [dump, lexemes_array]; rfl, by decide, rfl⟩
  | object => exact ⟨_, _, by rw [dump, lexemes_object]; rfl, by decide, rfl⟩

theorem dropMark_of_startsValue {c : CodePoint} (h : startsValue c) (t : Text) :
    Body.dropMark (c :: t) = c :: t := by
  refine if_neg ?_
  intro hmark
  cases hmark
  exact absurd h (by decide)

/-! ## What becomes of printed trees -/

/-- The tree is refused for its nesting or not, and becomes the redacted one: both are read off the
    redacted tree. -/
theorem Node.redactWithin_congr {a b : Node} (h : a.redact = b.redact) (limit : Int) :
    a.redactWithin limit = b.redactWithin limit := by
  have hdepth : a.depth = b.depth := by rw [← depth_redact a, h, depth_redact]
  have hfits : a.Fits limit ↔ b.Fits limit := by rw [Fits, hdepth, Fits]
  simp only [redactWithin_eq, hfits, h]

/-- A text that is read is redacted if its tree lies within the limit, and else is not kept. -/
theorem value_redactDecoded_of_parse {limits : Limits} (hkeep : limits.keepInvalid = false) {t : Text}
    {node : Node} (h : parse limits.length t = .ok node) :
    (redactDecoded limits t).value = (node.redactWithin limits.depth).map Node.dump := by
  rw [redactDecoded, (dropMark_and_not_blank_of_parse h).2, redactText, h]
  cases hr : node.redactWithin limits.depth with
  | none => simp [hr, hkeep]
  | some redacted => simp [hr]

/-- A text that is not read is not kept. -/
theorem value_redactDecoded_of_error {limits : Limits} (hkeep : limits.keepInvalid = false) {t : Text}
    {failure : Failure} (h : parse limits.length t = .error failure) :
    (redactDecoded limits t).value = none := by
  rw [redactDecoded, redactText, h]
  split
  · rfl
  · simp [hkeep]

/-- Redaction prints redacted trees, and nothing else. -/
theorem exists_of_redactLine {limits : Limits} (hkeep : limits.keepInvalid = false) {t r : Text}
    (h : (redactLine limits t).value = some r) : ∃ node : Node, r = node.redact.dump := by
  rw [redactLine] at h
  cases hparse : parse limits.length (Body.dropMark t) with
  | error failure =>
    rw [value_redactDecoded_of_error hkeep hparse] at h
    cases h
  | ok node =>
    rw [value_redactDecoded_of_parse hkeep hparse, Option.map_eq_some_iff] at h
    obtain ⟨redacted, hredacted, rfl⟩ := h
    rw [Node.redactWithin_eq] at hredacted
    obtain ⟨-, hnode⟩ := Option.ite_none_right_eq_some.1 hredacted
    exact ⟨node, by rw [Option.some.inj hnode]⟩

/-- **A printed tree is redacted by its shape.** -/
theorem redactLine_dump {limits : Limits} (hkeep : limits.keepInvalid = false) {node : Node}
    (h : node.IsPlain) (hd : node.depth ≤ nestingLimit) {blanks : Text} (hb : ∀ c ∈ blanks, isSpace c)
    (hl : ((node.dump ++ blanks).length : Int) ≤ limits.length) :
    (redactLine limits (node.dump ++ blanks)).value =
      (node.redactWithin limits.depth).map Node.dump := by
  have hread := parse_spaced h hd node.spaced_dump hb hl
  rw [redactLine, (dropMark_and_not_blank_of_parse hread).1]
  exact value_redactDecoded_of_parse hkeep hread

end Redaction.Json
