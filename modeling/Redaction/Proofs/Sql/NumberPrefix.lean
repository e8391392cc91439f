/-
  What a cut leaves of a number.

  A number that is cut off is read as a number again, or it is a lone point, or it hangs: it ends behind
  the letter of an exponent or of a hexadecimal number, or behind the sign of an exponent.

  * `numberLength_prefix`: where the number of a text ends is told from any part of the text that goes
    beyond it, and a part of the number is a number, a lone point, or hangs;
  * `Hangs.nameAfterNumber`: a number that hangs touches its own letter;
  * `Hangs.masked_eq_self`: so it is read as names and signs, and no literal is in it.
-/
import Redaction.Proofs.Sql.Masked

namespace Redaction.Sql

/-! ## Mantissas, exponents and prefixes -/

/-- Digits, with at most one point among them. -/
inductive IsMantissa : Text → Prop
  | digits {ds} : (∀ d ∈ ds, d.isDecimal) → IsMantissa ds
  | point {ds fs} : (∀ d ∈ ds, d.isDecimal) → (∀ d ∈ fs, d.isDecimal) →
      IsMantissa (ds ++ CodePoint.ofChar '.' :: fs)

/-- The letters of an exponent and of a hexadecimal number. -/
def numberLetters : List CodePoint := ['e', 'E', 'x', 'X']

/-- A letter of a number, and the sign that may follow it. -/
def IsHook (t : Text) : Prop :=
  ∃ x s, t = x :: s ∧ x ∈ numberLetters ∧ (s = [] ∨ s = ['+'] ∨ s = ['-'])

/-- A number that ends behind its letter or the sign of its exponent. -/
def Hangs (t : Text) : Prop := ∃ m hook, t = m ++ hook ∧ IsMantissa m ∧ IsHook hook

section Prefix

variable {w z : Text}

theorem length_takeWhile_prefix {α : Type} (p : α → Bool) (w z : List α) :
    (w.takeWhile p).length = min w.length ((w ++ z).takeWhile p).length := by
  have hle : (w.takeWhile p).length ≤ w.length := (List.takeWhile_sublist p).length_le
  rw [List.takeWhile_append]
  split
  case isTrue hall => rw [List.length_append]; omega
  case isFalse => omega

theorem digitsLength_prefix (w z : Text) :
    digitsLength w = min w.length (digitsLength (w ++ z)) :=
  length_takeWhile_prefix CodePoint.isDecimal w z

theorem digitsLength_le_decimalLength (t : Text) : digitsLength t ≤ decimalLength t := by
  unfold decimalLength
  dsimp only
  split
  · exact Nat.le_refl _
  · split <;> omega

theorem decimalLength_of_drop_nil {t : Text} (h : t.drop (digitsLength t) = []) :
    decimalLength t = digitsLength t := by
  unfold decimalLength
  dsimp only
  rw [h]

theorem decimalLength_of_drop_cons {t rest : Text} {c : CodePoint}
    (h : t.drop (digitsLength t) = c :: rest) :
    decimalLength t =
      if c = CodePoint.ofChar '.' ∧ (digitsLength t ≠ 0 ∨ digitsLength rest ≠ 0) then
        digitsLength t + 1 + digitsLength rest
      else digitsLength t := by
  unfold decimalLength
  dsimp only
  rw [h]

/-- A part of a number without exponent is a lone point, or goes as far as the number does. -/
theorem decimalLength_prefix (w z : Text) :
    decimalLength w = min w.length (decimalLength (w ++ z)) ∨
      (w = [CodePoint.ofChar '.'] ∧ 1 < decimalLength (w ++ z)) := by
  have hdigits := digitsLength_prefix w z
  by_cases hshort : w.length ≤ digitsLength (w ++ z)
  · have hlong := digitsLength_le_decimalLength (w ++ z)
    have hnil : w.drop (digitsLength w) = [] := List.drop_eq_nil_iff.2 (by omega)
    rw [decimalLength_of_drop_nil hnil]
    omega
  have heq : digitsLength w = digitsLength (w ++ z) := by omega
  cases hdrop : w.drop (digitsLength w) with
  | nil =>
    have := List.drop_eq_nil_iff.1 hdrop
    omega
  | cons c rest =>
    have hdrop' : (w ++ z).drop (digitsLength (w ++ z)) = c :: (rest ++ z) := by
      rw [← heq, List.drop_append_of_le_length (digitsLength_le w), hdrop, List.cons_append]
    have hlen : w.length = digitsLength w + 1 + rest.length := by
      have := congrArg List.length hdrop
      rw [List.length_drop, List.length_cons] at this
      omega
    have hrest := digitsLength_prefix rest z
    rw [decimalLength_of_drop_cons hdrop, decimalLength_of_drop_cons hdrop', ← heq]
    by_cases hpoint : c = CodePoint.ofChar '.'
    case neg =>
      rw [if_neg fun h => hpoint h.1, if_neg fun h => hpoint h.1]
      omega
    by_cases hfraction : digitsLength w ≠ 0 ∨ digitsLength rest ≠ 0
    · rw [if_pos ⟨hpoint, hfraction⟩, if_pos ⟨hpoint, by omega⟩]
      omega
    rw [if_neg fun h => hfraction h.2]
    by_cases hnone : digitsLength (rest ++ z) = 0
    · rw [if_neg (by omega)]
      omega
    · -- the digits behind the point are all cut off
      right
      rw [if_pos ⟨hpoint, .inr hnone⟩]
      have hzero : digitsLength w = 0 := by omega
      obtain rfl : rest = [] := List.eq_nil_of_length_eq_zero (by omega)
      rw [hzero, List.drop_zero] at hdrop
      exact ⟨by rw [hdrop, hpoint], by omega⟩

theorem exponentLength_sign {x sign : CodePoint} {digits : Text}
    (hx : x = CodePoint.ofChar 'e' ∨ x = CodePoint.ofChar 'E')
    (hsign : sign = CodePoint.ofChar '+' ∨ sign = CodePoint.ofChar '-') :
    exponentLength (x :: sign :: digits) =
      if digitsLength digits = 0 then 0 else digitsLength digits + 2 := by
  simp only [exponentLength]
  rw [if_pos hx, if_pos hsign]

theorem exponentLength_unsigned {x d : CodePoint} {digits : Text}
    (hx : x = CodePoint.ofChar 'e' ∨ x = CodePoint.ofChar 'E')
    (hd : ¬ (d = CodePoint.ofChar '+' ∨ d = CodePoint.ofChar '-')) :
    exponentLength (x :: d :: digits) =
      if digitsLength (d :: digits) = 0 then 0 else digitsLength (d :: digits) + 1 := by
  simp only [exponentLength]
  rw [if_pos hx, if_neg hd]

/-- An exponent has a letter and digits. -/
theorem one_lt_exponentLength {t : Text} (h : exponentLength t ≠ 0) : 1 < exponentLength t := by
  cases t with
  | nil => exact absurd rfl h
  | cons x rest =>
    by_cases hx : x = CodePoint.ofChar 'e' ∨ x = CodePoint.ofChar 'E'
    case neg => exact absurd (exponentLength_eq_zero rest hx) h
    cases rest with
    | nil => simp [exponentLength] at h
    | cons d digits =>
      by_cases hsign : d = CodePoint.ofChar '+' ∨ d = CodePoint.ofChar '-'
      · rw [exponentLength_sign hx hsign] at h ⊢
        split_ifs at h ⊢ <;> omega
      · rw [exponentLength_unsigned hx hsign] at h ⊢
        split_ifs at h ⊢ <;> omega

/-- A part of an exponent is a hook, or goes as far as the exponent does. -/
theorem exponentLength_prefix (w z : Text) :
    exponentLength w = min w.length (exponentLength (w ++ z)) ∨
      (IsHook w ∧ w.length < exponentLength (w ++ z)) := by
  cases w with
  | nil => exact .inl (by simp [exponentLength])
  | cons x rest =>
    by_cases hx : x = CodePoint.ofChar 'e' ∨ x = CodePoint.ofChar 'E'
    case neg =>
      rw [List.cons_append, exponentLength_eq_zero rest hx, exponentLength_eq_zero _ hx]
      exact .inl (Nat.min_zero _).symm
    have hletter : x ∈ numberLetters := by rcases hx with rfl | rfl <;> decide
    cases rest with
    | nil =>
      have hzero : exponentLength [x] = 0 := by simp [exponentLength]
      by_cases hz : exponentLength ([x] ++ z) = 0
      · exact .inl (by rw [hzero, hz, Nat.min_zero])
      · exact .inr ⟨⟨x, [], rfl, hletter, .inl rfl⟩, one_lt_exponentLength hz⟩
    | cons d digits =>
      by_cases hsign : d = CodePoint.ofChar '+' ∨ d = CodePoint.ofChar '-'
      · have hdigits := digitsLength_prefix digits z
        rw [List.cons_append, List.cons_append, exponentLength_sign hx hsign,
          exponentLength_sign hx hsign, List.length_cons, List.length_cons]
        by_cases hz : digitsLength (digits ++ z) = 0
        · rw [if_pos hz, if_pos (by omega)]
          exact .inl (Nat.min_zero _).symm
        · rw [if_neg hz]
          by_cases hcut : digits.length = 0
          · obtain rfl := List.eq_nil_of_length_eq_zero hcut
            refine .inr ⟨⟨x, [d], rfl, hletter, .inr ?_⟩, by simp only [List.length_nil]; omega⟩
            rcases hsign with rfl | rfl
            · exact .inl rfl
            · exact .inr rfl
          · rw [if_neg (by omega)]
            left
            omega
      · have hdigits := digitsLength_prefix (d :: digits) z
        rw [List.cons_append, List.cons_append, exponentLength_unsigned hx hsign,
          exponentLength_unsigned hx hsign]
        rw [List.cons_append] at hdigits
        simp only [List.length_cons] at hdigits ⊢
        left
        split_ifs <;> omega

theorem hexLength_cons_cons (zero x : CodePoint) (rest : Text) :
    hexLength (zero :: x :: rest) =
      if zero = CodePoint.ofChar '0' ∧ (x = CodePoint.ofChar 'x' ∨ x = CodePoint.ofChar 'X') ∧
          (rest.takeWhile CodePoint.isHexDigit).length ≠ 0 then
        (rest.takeWhile CodePoint.isHexDigit).length + 2
      else 0 :=
  rfl

/-- A hexadecimal number has a zero, a letter and digits. -/
theorem hexLength_ne_zero {zero : CodePoint} {t : Text} (h : hexLength (zero :: t) ≠ 0) :
    zero = CodePoint.ofChar '0' ∧ 2 < hexLength (zero :: t) := by
  match t with
  | [] => exact absurd rfl h
  | x :: rest =>
    rw [hexLength_cons_cons] at h ⊢
    split_ifs at h ⊢ with hhex
    · exact ⟨hhex.1, by omega⟩
    · exact absurd rfl h

/-- A part of a hexadecimal number is a zero, or hangs, or goes as far as the number does. -/
theorem hexLength_prefix (w z : Text) :
    hexLength w = min w.length (hexLength (w ++ z)) ∨
      ((w = [CodePoint.ofChar '0'] ∨ ∃ x ∈ numberLetters, w = [CodePoint.ofChar '0', x]) ∧
        w.length < hexLength (w ++ z)) := by
  match w with
  | [] => exact .inl (by simp [hexLength])
  | [zero] =>
    by_cases hz : hexLength (zero :: z) = 0
    · exact .inl (by rw [List.singleton_append, hz, Nat.min_zero]; rfl)
    · obtain ⟨rfl, hlen⟩ := hexLength_ne_zero hz
      exact .inr ⟨.inl rfl, Nat.lt_of_succ_lt hlen⟩
  | zero :: x :: rest =>
    have hdigits := length_takeWhile_prefix CodePoint.isHexDigit rest z
    rw [List.cons_append, List.cons_append, hexLength_cons_cons, hexLength_cons_cons]
    simp only [List.length_cons]
    by_cases hstart : zero = CodePoint.ofChar '0' ∧
        (x = CodePoint.ofChar 'x' ∨ x = CodePoint.ofChar 'X')
    case neg =>
      rw [if_neg fun h => hstart ⟨h.1, h.2.1⟩, if_neg fun h => hstart ⟨h.1, h.2.1⟩]
      exact .inl (Nat.min_zero _).symm
    obtain ⟨rfl, hx⟩ := hstart
    by_cases hz : ((rest ++ z).takeWhile CodePoint.isHexDigit).length = 0
    · rw [if_neg fun h => h.2.2 (by omega), if_neg fun h => h.2.2 hz]
      exact .inl (Nat.min_zero _).symm
    · rw [if_pos (⟨rfl, hx, hz⟩ : _ ∧ _ ∧ _)]
      by_cases hcut : rest.length = 0
      · obtain rfl := List.eq_nil_of_length_eq_zero hcut
        refine .inr ⟨.inr ⟨x, ?_, rfl⟩, by simp only [List.length_nil]; omega⟩
        rcases hx with rfl | rfl <;> decide
      · rw [if_pos ⟨rfl, hx, by omega⟩]
        left
        omega

/-! ## Numbers -/

theorem isDecimal_of_mem_take {t : Text} : ∀ d ∈ t.take (digitsLength t), d.isDecimal := by
  intro d hd
  have htake : t.takeWhile CodePoint.isDecimal = t.take (digitsLength t) :=
    List.prefix_iff_eq_take.1 (List.takeWhile_prefix _)
  rw [← htake] at hd
  exact List.mem_takeWhile_imp hd

/-- What is read as a number without exponent. -/
theorem isMantissa_take (t : Text) : IsMantissa (t.take (decimalLength t)) := by
  cases hdrop : t.drop (digitsLength t) with
  | nil =>
    rw [decimalLength_of_drop_nil hdrop]
    exact .digits isDecimal_of_mem_take
  | cons c rest =>
    rw [decimalLength_of_drop_cons hdrop]
    split
    case isFalse => exact .digits isDecimal_of_mem_take
    case isTrue hpoint =>
      have htake : t.take (digitsLength t + 1 + digitsLength rest) =
          t.take (digitsLength t) ++ CodePoint.ofChar '.' :: rest.take (digitsLength rest) := by
        rw [Nat.add_assoc, List.take_add, hdrop, Nat.add_comm 1, List.take_succ_cons, hpoint.1]
      rw [htake]
      exact .point isDecimal_of_mem_take isDecimal_of_mem_take

theorem numberLength_of_hexLength {t : Text} (h : hexLength t ≠ 0) : numberLength t = hexLength t :=
  if_pos h

theorem numberLength_of_hexLength_eq_zero {t : Text} (h : hexLength t = 0) :
    numberLength t = decimalLength t + exponentLength (t.drop (decimalLength t)) :=
  if_neg (not_not_intro h)

/-- **Where the number of a text ends is told from any part of the text that goes beyond it.** A part
    of the number is a number as a whole, a lone point, or hangs. -/
theorem numberLength_prefix (w z : Text) :
    numberLength w = min w.length (numberLength (w ++ z)) ∨
      ((w = [CodePoint.ofChar '.'] ∨ Hangs w) ∧ w.length < numberLength (w ++ z)) := by
  by_cases hhex : hexLength (w ++ z) = 0
  · have hzero : hexLength w = 0 := by
      rcases hexLength_prefix w z with h | ⟨-, h⟩ <;> omega
    rw [numberLength_of_hexLength_eq_zero hhex, numberLength_of_hexLength_eq_zero hzero]
    rcases decimalLength_prefix w z with hw | ⟨hw, hlen⟩
    case inr => exact .inr ⟨.inl hw, by rw [hw] at hlen ⊢; simp only [List.length_singleton]; omega⟩
    by_cases hshort : w.length ≤ decimalLength (w ++ z)
    · have hnil : w.drop (decimalLength w) = [] := List.drop_eq_nil_iff.2 (by omega)
      rw [hnil]
      exact .inl (by simp only [exponentLength]; omega)
    · have heq : decimalLength w = decimalLength (w ++ z) := by omega
      rw [← heq, List.drop_append_of_le_length (decimalLength_le w)]
      have hlen : (w.drop (decimalLength w)).length = w.length - decimalLength w := List.length_drop
      rcases exponentLength_prefix (w.drop (decimalLength w)) z with hexponent | ⟨hhook, hexponent⟩
      · left
        omega
      · refine .inr ⟨.inr ⟨_, _, (List.take_append_drop _ w).symm, isMantissa_take w, hhook⟩, ?_⟩
        omega
  · rw [numberLength_of_hexLength hhex]
    rcases hexLength_prefix w z with h | ⟨rfl | ⟨x, hx, rfl⟩, hlen⟩
    · by_cases hempty : w.length = 0
      · obtain rfl := List.eq_nil_of_length_eq_zero hempty
        exact .inl (by simp [numberLength, hexLength, decimalLength, digitsLength, exponentLength])
      · rw [numberLength_of_hexLength (by omega)]
        exact .inl h
    · left
      have hone : numberLength [CodePoint.ofChar '0'] = 1 := by decide
      rw [hone, List.length_singleton]
      rw [List.length_singleton] at hlen
      omega
    · refine .inr ⟨.inr ⟨[CodePoint.ofChar '0'], [x], rfl, .digits ?_, x, [], rfl, hx, .inl rfl⟩, hlen⟩
      rw [List.forall_mem_singleton]
      decide

end Prefix

/-! ## Numbers that hang -/

section Hangs

variable {before : Option CodePoint} {c : CodePoint} {m hook t : Text}

/-- What ends a number that hangs is a name, and no exponent. -/
theorem IsHook.nameAfterExponent (h : IsHook hook) : nameAfterExponent hook := by
  obtain ⟨x, s, rfl, hx, hs⟩ := h
  have hletters : ∀ x ∈ numberLetters, isNameChar x ∧ exponentLength [x] = 0 ∧
      exponentLength [x, CodePoint.ofChar '+'] = 0 ∧
      exponentLength [x, CodePoint.ofChar '-'] = 0 := by decide
  obtain ⟨hname, hnone, hplus, hminus⟩ := hletters x hx
  rcases hs with rfl | rfl | rfl
  · exact nameAfterExponent_of_zero hname hnone
  · exact nameAfterExponent_of_zero hname hplus
  · exact nameAfterExponent_of_zero hname hminus

/-- No number starts in a hook, and no quoted text. -/
theorem IsHook.forall_mem (h : IsHook hook) : ∀ c ∈ hook, c.isDecimal = false ∧
    c ≠ CodePoint.ofChar '.' ∧ ∀ pair ∈ quotedKinds, pair.1 ≠ c := by
  obtain ⟨x, s, rfl, hx, hs⟩ := h
  have hletters : ∀ x ∈ numberLetters, x.isDecimal = false ∧ x ≠ CodePoint.ofChar '.' ∧
      ∀ pair ∈ quotedKinds, pair.1 ≠ x := by decide
  refine List.forall_mem_cons.2 ⟨hletters x hx, ?_⟩
  rcases hs with rfl | rfl | rfl <;> decide

theorem IsHook.head (h : IsHook hook) : hook.head?.any CodePoint.isDecimal = false ∧
    hook.head? ≠ some (CodePoint.ofChar '.') := by
  have hmem := h.forall_mem
  obtain ⟨x, s, rfl, -⟩ := h
  obtain ⟨hdecimal, hpoint, -⟩ := hmem x List.mem_cons_self
  simp [hdecimal, hpoint]

/-- Behind digits it makes no hexadecimal number. -/
theorem IsHook.hexLength (h : IsHook hook) {ds : Text} (hne : ds ≠ []) (hds : ∀ d ∈ ds, d.isDecimal) :
    hexLength (ds ++ hook) = 0 := by
  obtain ⟨x, s, rfl, hx, hs⟩ := h
  match ds with
  | [] => exact absurd rfl hne
  | [d] =>
    rw [List.singleton_append, hexLength_cons_cons]
    refine if_neg fun hhex => hhex.2.2 ?_
    rcases hs with rfl | rfl | rfl <;> decide
  | d :: e :: ds =>
    refine hexLength_eq_zero ?_
    intro y hy
    obtain rfl : e = y := Option.some.inj hy
    have he := hds e (by simp)
    constructor <;> (rintro rfl; revert he; decide)

/-- A number that a hook follows touches it. -/
theorem nameAfterNumber_of_hook (hm : IsMantissa m) (hhook : IsHook hook) (hne : m ≠ [])
    (hpoint : m ≠ [CodePoint.ofChar '.']) : nameAfterNumber (m ++ hook) := by
  obtain ⟨hdecimal, hhead⟩ := hhook.head
  cases hm with
  | digits hds =>
    rw [nameAfterNumber_digits hds hdecimal hhead (hhook.hexLength hne hds)]
    exact hhook.nameAfterExponent
  | @point ds fs hds hfs =>
    rw [List.append_assoc, List.cons_append]
    cases ds with
    | nil =>
      have hfs' : fs ≠ [] := by
        rintro rfl
        exact hpoint rfl
      rw [List.nil_append, nameAfterNumber_point hfs' hfs hdecimal]
      exact hhook.nameAfterExponent
    | cons d ds =>
      rw [nameAfterNumber_digits_point (List.cons_ne_nil d ds) hds,
        digitsLength_append_of_digits hfs hdecimal, List.drop_left]
      exact hhook.nameAfterExponent

/-- What is left of a mantissa behind its first characters is one. -/
theorem IsMantissa.suffix {a b : Text} (h : IsMantissa (a ++ b)) : IsMantissa b := by
  generalize ht : a ++ b = t at h
  cases h with
  | digits hds =>
    subst ht
    exact .digits fun d hd => hds d (List.mem_append_right a hd)
  | @point ds fs hds hfs =>
    rcases List.append_eq_append_iff.1 ht with ⟨a', hds', hb⟩ | ⟨a', ha, hfs'⟩
    · rw [hb]
      refine .point (fun d hd => hds d ?_) hfs
      rw [hds']
      exact List.mem_append_right a hd
    · cases a' with
      | nil =>
        rw [List.nil_append] at hfs'
        rw [← hfs']
        exact .point (List.forall_mem_nil _) hfs
      | cons p a' =>
        rw [List.cons_append, List.cons.injEq] at hfs'
        refine .digits fun d hd => hfs d ?_
        rw [hfs'.2]
        exact List.mem_append_right a' hd

theorem IsMantissa.forall_mem (h : IsMantissa m) :
    ∀ c ∈ m, ∀ pair ∈ quotedKinds, pair.1 ≠ c := by
  have hdigit : ∀ d : CodePoint, d.isDecimal → ∀ pair ∈ quotedKinds, pair.1 ≠ d := by
    rintro d hd pair hpair rfl
    have hquotes : ∀ pair ∈ quotedKinds, pair.1.isDecimal = false := by decide
    rw [hquotes pair hpair] at hd
    cases hd
  cases h with
  | digits hds => exact fun d hd => hdigit d (hds d hd)
  | point hds hfs =>
    intro c hc
    rcases List.mem_append.1 hc with hc | hc
    · exact hdigit c (hds c hc)
    rcases List.mem_cons.1 hc with rfl | hc
    · decide
    · exact hdigit c (hfs c hc)

/-- Wherever a number starts in what hangs, a name goes on behind it. -/
theorem Hangs.nameAfterNumber {a rest : Text} (h : Hangs (a ++ c :: rest))
    (hstart : StartsNumber c rest) : nameAfterNumber (c :: rest) := by
  obtain ⟨m, hook, hsplit, hm, hhook⟩ := h
  have hnot : ∀ d ∈ hook, ∀ more, ¬ StartsNumber d more := by
    rintro d hd more (hdecimal | ⟨hpoint, -⟩)
    · rw [(hhook.forall_mem d hd).1] at hdecimal
      cases hdecimal
    · exact (hhook.forall_mem d hd).2.1 hpoint
  rcases List.append_eq_append_iff.1 hsplit with ⟨m', rfl, hrest⟩ | ⟨hook', -, rfl⟩
  case inr => exact absurd hstart (hnot c (by simp) rest)
  rw [hrest]
  refine nameAfterNumber_of_hook hm.suffix hhook ?_ ?_
  · rintro rfl
    rw [List.nil_append] at hrest
    exact hnot c (hrest ▸ List.mem_cons_self) rest hstart
  · rintro rfl
    rw [List.singleton_append, List.cons.injEq] at hrest
    obtain ⟨rfl, rfl⟩ := hrest
    rcases hstart with hdecimal | ⟨-, hdecimal⟩
    · exact absurd hdecimal (by decide)
    · rw [hhook.head.1] at hdecimal
      cases hdecimal

/-- **What hangs holds no literal**, and no quote that never ends. -/
theorem Hangs.kind_ne (h : Hangs t) {token : Token} (hmem : token ∈ tokensFrom before t) :
    token.kind ≠ .literal ∧ token.kind ≠ .unparsed := by
  obtain ⟨xs, ys, htokens⟩ := List.append_of_mem hmem
  obtain ⟨c, u, htext, hshape⟩ := shape_of_tokensFrom htokens
  have hreads := reads_of_shape hshape
  have hsplit : (xs.map Token.text).flatten ++ c :: (u ++ (ys.map Token.text).flatten) = t := by
    have hall := flatten_tokensFrom before t
    simpa [htokens, htext] using hall
  have hquote : ∀ pair ∈ quotedKinds, pair.1 ≠ c := by
    obtain ⟨m, hook, rfl, hm, hhook⟩ := h
    have hmem : c ∈ m ++ hook := by
      rw [← hsplit]
      simp
    rcases List.mem_append.1 hmem with hc | hc
    · exact hm.forall_mem c hc
    · exact (hhook.forall_mem c hc).2.2
  generalize token.kind = kind at hreads
  cases hreads with
  | quoted hkind => exact absurd rfl (hquote _ hkind)
  | openQuote hkind => exact absurd rfl (hquote _ hkind)
  | number hstart _ hlength hname =>
    -- a name would go on behind the number
    rw [← hsplit] at h
    have htouch := h.nameAfterNumber hstart
    rw [Sql.nameAfterNumber, hlength, ← List.cons_append, List.drop_left, hname] at htouch
    cases htouch
  | blanks | lineComment | blockComment | span | name | pointName | sign => simp

end Hangs

end Redaction.Sql
