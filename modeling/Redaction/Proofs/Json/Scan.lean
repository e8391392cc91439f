/-
  Scanners read back what the printer writes.

  * `scanString_quoted`: a quoted text is read up to its closing quote, whatever follows;
  * `scanNumeral?_integer`: an integer is read up to a text that does not go on with a number
    (`EndsNumeral`);
  * `scanPlain_integer` and `scanPlain_word`: so is a plain scalar (`Scalar.IsPlain`) that is not
    quoted.
-/
import Mathlib
import Redaction.Json.Parser
import Redaction.Json.Printer

namespace Redaction

/-! ## Digits -/

theorem CodePoint.isAsciiDigit_ofChar {c : Char} (h : c.isDigit) : (ofChar c).isAsciiDigit := by
  simp only [Char.isDigit, Bool.and_eq_true, decide_eq_true_eq] at h
  have h₁ : 48 ≤ c.toNat := UInt32.le_iff_toNat_le.1 h.1
  have h₂ : c.toNat ≤ 57 := UInt32.le_iff_toNat_le.1 h.2
  simp only [isAsciiDigit, ofChar_val, Bool.and_eq_true]
  exact ⟨decide_eq_true h₁, decide_eq_true h₂⟩

theorem CodePoint.hexValue?_ofHexValue :
    ∀ d < 16, (CodePoint.ofHexValue d).hexValue? = some d := by
  decide

namespace Text

theorem isAsciiDigit_of_mem_decimal {n : Nat} {c : CodePoint} (h : c ∈ decimal n) :
    c.isAsciiDigit := by
  obtain ⟨d, hd, rfl⟩ := List.mem_map.1 h
  exact CodePoint.isAsciiDigit_ofChar (Nat.isDigit_of_mem_toDigits (by decide) (by decide) hd)

@[simp] theorem digitsValue_decimal (n : Nat) : digitsValue (decimal n) = n := by
  rw [digitsValue, decimal, List.foldl_map]
  exact Nat.ofDigitChars_ten_toDigits

theorem length_decimal_le {n k : Nat} (hk : 0 < k) (h : n < 10 ^ k) : (decimal n).length ≤ k := by
  rw [decimal, List.length_map]
  exact (Nat.length_toDigits_le_iff (by decide) hk).2 h

theorem integer_eq (n : Int) :
    integer n = (if n < 0 then [CodePoint.ofChar '-'] else []) ++ decimal n.natAbs := by
  cases n with
  | ofNat n => simp [integer]
  | negSucc n => simp [integer, Int.negSucc_lt_zero]

/-- A number in decimal notation has a first digit, and starts with a zero only if it is zero. -/
theorem decimal_eq_cons (n : Nat) :
    ∃ d ds, decimal n = d :: ds ∧ d.isAsciiDigit ∧ (d = CodePoint.ofChar '0' → ds = []) := by
  induction n using Nat.strongRecOn with
  | ind n ih =>
    by_cases h : n < 10
    · have hn : decimal n = [CodePoint.ofChar n.digitChar] := by
        rw [decimal, Nat.toDigits_of_lt_base h]; rfl
      exact ⟨_, [], hn, isAsciiDigit_of_mem_decimal (n := n) (by simp [hn]), fun _ => rfl⟩
    · obtain ⟨d, ds, hd, hdigit, hzero⟩ := ih (n / 10) (by omega)
      have hn : decimal n = d :: (ds ++ [CodePoint.ofChar (n % 10).digitChar]) := by
        rw [decimal, Nat.toDigits_of_base_le (by decide) (by omega), List.map_append]
        rw [decimal] at hd
        rw [hd]; rfl
      refine ⟨d, _, hn, hdigit, fun h0 => ?_⟩
      -- a leading zero would be all of `n / 10`, which is positive
      have hv := digitsValue_decimal (n / 10)
      rw [hd, hzero h0, h0] at hv
      have : digitsValue [CodePoint.ofChar '0'] = 0 := rfl
      omega

end Text

namespace Json

/-! ## Quoted texts -/

theorem hex_eq_of_lt : ∀ n < 32, Text.hex 4 n =
    [CodePoint.ofHexValue 0, CodePoint.ofHexValue 0, CodePoint.ofHexValue (n / 16),
      CodePoint.ofHexValue (n % 16)] := by
  decide

theorem hexQuad?_control {n : Nat} (h : n < 32) :
    hexQuad? (CodePoint.ofHexValue 0) (CodePoint.ofHexValue 0) (CodePoint.ofHexValue (n / 16))
      (CodePoint.ofHexValue (n % 16)) = some n := by
  have h₀ := CodePoint.hexValue?_ofHexValue 0 (by decide)
  have h₁ := CodePoint.hexValue?_ofHexValue (n / 16) (by omega)
  have h₂ := CodePoint.hexValue?_ofHexValue (n % 16) (by omega)
  simp only [hexQuad?, h₀, h₁, h₂, Option.some.injEq]
  omega

theorem unescape?_of_mem_shortEscapes :
    ∀ pair ∈ shortEscapes, unescape? pair.2 = some pair.1 ∧ pair.2 ≠ CodePoint.ofChar 'u' := by
  decide

theorem isLeading_of_control {n : Nat} (h : n < 32) : (CodePoint.ofNat n).isLeading = false := by
  rw [CodePoint.ofNat_of_lt (by omega)]
  simp only [CodePoint.isLeading, Bool.and_eq_false_iff, decide_eq_false_iff_not]
  omega

theorem scanString_close (opening done rest : Text) (afterLeading : Bool) :
    scanString opening done afterLeading (CodePoint.doubleQuote :: rest) =
      .ok (done.reverse, rest) := by
  rw [scanString.eq_def]
  simp

theorem scanString_self (opening done rest : Text) (afterLeading : Bool) {c : CodePoint}
    (hquote : c ≠ CodePoint.doubleQuote) (hslash : c ≠ CodePoint.backslash)
    (hc : ¬ c.val < 0x20) :
    scanString opening done afterLeading (c :: rest) =
      scanString opening (c :: done) false rest := by
  rw [scanString.eq_def]
  simp [hquote, hslash, hc]

theorem scanString_short (opening done rest : Text) (afterLeading : Bool) {e c : CodePoint}
    (he : e ≠ CodePoint.ofChar 'u') (hc : unescape? e = some c) :
    scanString opening done afterLeading (CodePoint.backslash :: e :: rest) =
      scanString opening (c :: done) false rest := by
  have hne : CodePoint.backslash ≠ CodePoint.doubleQuote := by decide
  rw [scanString.eq_def]
  simp [he, hc, hne]

theorem scanString_hex (opening done rest : Text) (afterLeading : Bool)
    {h₁ h₂ h₃ h₄ next : CodePoint} {n : Nat} (hn : hexQuad? h₁ h₂ h₃ h₄ = some n) :
    scanString opening done afterLeading
        (CodePoint.backslash :: CodePoint.ofChar 'u' :: h₁ :: h₂ :: h₃ :: h₄ :: next :: rest) =
      scanString opening (pushUnit done afterLeading (CodePoint.ofNat n))
        (CodePoint.ofNat n).isLeading (next :: rest) := by
  have hne : CodePoint.backslash ≠ CodePoint.doubleQuote := by decide
  rw [scanString.eq_def]
  simp [hn, hne]

/-- A character is read back from how it stands between quotes. -/
theorem scanString_escape (opening done : Text) (c next : CodePoint) (rest : Text) :
    scanString opening done false (escape c ++ next :: rest) =
      scanString opening (c :: done) false (next :: rest) := by
  unfold escape
  split
  case h_1 letter hl =>
    obtain ⟨before, after, hmem, -⟩ := List.lookup_eq_some_iff.1 hl
    obtain ⟨hu, hne⟩ := unescape?_of_mem_shortEscapes (c, letter) (by simp [hmem])
    exact scanString_short opening done (next :: rest) false hne hu
  case h_2 hl =>
    split
    case isTrue hc =>
      rw [hex_eq_of_lt _ hc]
      refine (scanString_hex opening done rest false (hexQuad?_control hc)).trans ?_
      rw [isLeading_of_control hc, CodePoint.ofNat_val]
      cases done <;> rfl
    case isFalse hc =>
      have hquote : c ≠ CodePoint.doubleQuote := by rintro rfl; revert hl; decide
      have hslash : c ≠ CodePoint.backslash := by rintro rfl; revert hl; decide
      exact scanString_self opening done (next :: rest) false hquote hslash hc

/-- **A quoted text is read back**, and what follows its closing quote is left. -/
theorem scanString_quoted (opening done t rest : Text) :
    scanString opening done false (t.flatMap escape ++ CodePoint.doubleQuote :: rest) =
      .ok (done.reverse ++ t, rest) := by
  induction t generalizing done with
  | nil => simp [scanString_close]
  | cons c t ih =>
    obtain ⟨next, more, h⟩ : ∃ next more,
        t.flatMap escape ++ CodePoint.doubleQuote :: rest = next :: more :=
      List.exists_cons_of_ne_nil (by simp)
    rw [List.flatMap_cons, List.append_assoc, h, scanString_escape, ← h, ih]
    simp

/-! ## Integers -/

/-- A text that does not go on with a number: neither a digit nor a point nor an exponent comes
    first. -/
def EndsNumeral (t : Text) : Prop :=
  ∀ c, t.head? = some c →
    c.isAsciiDigit = false ∧ c ≠ CodePoint.ofChar '.' ∧ c ≠ CodePoint.ofChar 'e' ∧
      c ≠ CodePoint.ofChar 'E'

theorem endsNumeral_nil : EndsNumeral [] := by simp [EndsNumeral]

theorem scanFraction_of_ends {t : Text} (h : EndsNumeral t) : scanFraction t = ([], t) := by
  cases t with
  | nil => rfl
  | cons c rest => simp [scanFraction, (h c rfl).2.1]

theorem scanExponent_of_ends {t : Text} (h : EndsNumeral t) : scanExponent t = (none, t) := by
  cases t with
  | nil => rfl
  | cons c rest => simp [scanExponent, (h c rfl).2.2.1, (h c rfl).2.2.2]

theorem takeDigits_append {digits rest : Text} (hd : ∀ c ∈ digits, c.isAsciiDigit)
    (hr : EndsNumeral rest) : takeDigits (digits ++ rest) = (digits, rest) := by
  have htake : rest.takeWhile CodePoint.isAsciiDigit = [] ∧
      rest.dropWhile CodePoint.isAsciiDigit = rest := by
    cases rest with
    | nil => simp
    | cons c rest => simp [(hr c rfl).1]
  rw [takeDigits, List.span_eq_takeWhile_dropWhile, List.takeWhile_append_of_pos hd,
    List.dropWhile_append_of_pos hd, htake.1, htake.2, List.append_nil]

theorem not_minus_of_isAsciiDigit {d : CodePoint} (h : d.isAsciiDigit) :
    d ≠ CodePoint.ofChar '-' := by
  rintro rfl; revert h; decide

/-- **An integer is read back** from its digits and its sign. -/
theorem scanNumeral?_integer (n : Int) {rest : Text} (hr : EndsNumeral rest) :
    scanNumeral? (Text.integer n ++ rest) =
      some (⟨n < 0, Text.decimal n.natAbs, [], none⟩, rest) := by
  obtain ⟨d, ds, hn, hd, hzero⟩ := Text.decimal_eq_cons n.natAbs
  have hdigits : ∀ c ∈ d :: ds, c.isAsciiDigit :=
    fun c hc => Text.isAsciiDigit_of_mem_decimal (n := n.natAbs) (hn ▸ hc)
  -- the digits are read alike with and without a sign
  have hwhole : scanWhole (d :: ds ++ rest) = (d :: ds, rest) := by
    rw [List.cons_append, scanWhole]
    split
    case isTrue h0 => rw [hzero h0]; rfl
    case isFalse => exact takeDigits_append hdigits hr
  rw [Text.integer_eq, hn]
  by_cases hneg : n < 0
  · simp only [hneg, if_true, scanNumeral?, takeMinus, List.cons_append, List.nil_append]
    rw [← List.cons_append, hwhole]
    simp [scanFraction_of_ends hr, scanExponent_of_ends hr]
  · simp only [hneg, if_false, scanNumeral?, takeMinus, List.cons_append, List.nil_append,
      if_neg (not_minus_of_isAsciiDigit hd)]
    rw [← List.cons_append, hwhole]
    simp [scanFraction_of_ends hr, scanExponent_of_ends hr]

theorem Numeral.value_integer {n : Int} (h : n.natAbs < 10 ^ digitLimit) :
    (⟨n < 0, Text.decimal n.natAbs, [], none⟩ : Numeral).value = .ok (.integer n) := by
  have hlen : ¬ digitLimit < (Text.decimal n.natAbs).length :=
    Nat.not_lt.2 (Text.length_decimal_le (by decide) h)
  simp only [Numeral.value, List.isEmpty_nil, Option.isNone_none, Bool.and_self, if_true,
    if_neg hlen, Text.digitsValue_decimal, Except.ok.injEq, Scalar.integer.injEq,
    decide_eq_true_eq]
  split <;> omega

/-- No word that stands for a value starts like a number. -/
theorem scanWord?_digit {sign : Text} (hsign : sign = [] ∨ sign = [CodePoint.ofChar '-'])
    {d : CodePoint} (hd : d.isAsciiDigit) (rest : Text) : scanWord? (sign ++ d :: rest) = none := by
  have hletters : ∀ c ∈ ['n', 't', 'f', 'N', 'I', '-'], (CodePoint.ofChar c).isAsciiDigit = false := by
    simp only [List.forall_mem_cons, List.not_mem_nil, false_implies, implies_true]
    decide
  have hne : ∀ c ∈ ['n', 't', 'f', 'N', 'I', '-'], CodePoint.ofChar c ≠ d := by
    rintro c hc rfl
    simp [hletters c hc] at hd
  simp only [List.forall_mem_cons] at hne
  rcases hsign with rfl | rfl <;> simp [scanWord?, words, after?, hne, CodePoint.ofChar_inj]

theorem scanWord?_integer (n : Int) (rest : Text) : scanWord? (Text.integer n ++ rest) = none := by
  obtain ⟨d, ds, hn, hd, -⟩ := Text.decimal_eq_cons n.natAbs
  rw [Text.integer_eq, hn, List.append_assoc]
  refine scanWord?_digit ?_ hd (ds ++ rest)
  split
  · exact .inr rfl
  · exact .inl rfl

/-- A word is read, whatever follows it. -/
theorem scanWord?_word {word : Text} {value : Scalar} (h : (word, value) ∈ words) (rest : Text) :
    scanWord? (word ++ rest) = some (value, rest) := by
  simp only [words, List.mem_cons, Prod.mk.injEq, List.not_mem_nil, or_false] at h
  obtain ⟨rfl, rfl⟩ | ⟨rfl, rfl⟩ | ⟨rfl, rfl⟩ | ⟨rfl, rfl⟩ | ⟨rfl, rfl⟩ | ⟨rfl, rfl⟩ := h <;>
    simp [scanWord?, words, after?, CodePoint.ofChar_inj]

/-! ## Scalars -/

/-- A scalar that is read back as it was: neither a floating-point number nor an integer with more
    digits than are read. -/
def Scalar.IsPlain : Scalar → Prop
  | .integer n => n.natAbs < 10 ^ digitLimit
  | .float _ => False
  | .null | .boolean _ | .string _ => True

theorem scanPlain_integer {n : Int} (h : n.natAbs < 10 ^ digitLimit) {rest : Text}
    (hr : EndsNumeral rest) :
    scanPlain (Text.integer n ++ rest) = .ok (.scalar (.integer n), rest) := by
  rw [scanPlain, scanWord?_integer, scanNumeral?_integer n hr]
  simp only [Numeral.value_integer h]

theorem scanPlain_word {word : Text} {value : Scalar} (h : (word, value) ∈ words) (rest : Text) :
    scanPlain (word ++ rest) = .ok (.scalar value, rest) := by
  rw [scanPlain, scanWord?_word h]

/-- A character that neither a quoted text nor an array nor an object starts with. -/
def startsPlain (c : CodePoint) : Bool :=
  c ≠ CodePoint.doubleQuote && c ≠ CodePoint.ofChar '[' && c ≠ CodePoint.ofChar '{'

theorem parseValue_plain (fuel room : Nat) {c : CodePoint} (hc : startsPlain c) (rest : Text) :
    parseValue (fuel + 1) room (c :: rest) = scanPlain (c :: rest) := by
  simp only [startsPlain, Bool.and_eq_true, decide_eq_true_eq] at hc
  simp [parseValue, hc]

end Json

end Redaction
