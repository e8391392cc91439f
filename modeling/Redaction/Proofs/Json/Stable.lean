/-
  What is read stays as it is when more text follows.

  A reader that has come to the end of a value does not look behind it, unless the value is a number
  and the text ends there.

  * `Stops`: a text goes on, and not with a number;
  * `scanString_append` and `scanPlain_append`: quoted texts, words and numbers;
  * `readsStay`: values, items and entries, by induction on the fuel;
  * `Node.IsPlain.not_read_of_cut`: a printed array or object is no document before its last bracket.
-/
import Redaction.Proofs.Json.Printed

namespace Redaction.Json

variable {t rest : Text}

/-! ## Blanks and words -/

theorem skipSpace_append_of_ne_nil (h : skipSpace t ≠ []) (z : Text) :
    skipSpace (t ++ z) = skipSpace t ++ z := by
  rw [skipSpace] at h
  simp [skipSpace, List.dropWhile_append, h]

theorem skipSpace_append_of_cons {d : CodePoint} {ds : Text} (h : skipSpace t = d :: ds) (z : Text) :
    skipSpace (t ++ z) = d :: (ds ++ z) := by
  rw [skipSpace_append_of_ne_nil (h ▸ List.cons_ne_nil d ds), h, List.cons_append]

/-- A text goes on, and not with a number. -/
def Stops (t : Text) : Prop := t ≠ [] ∧ EndsNumeral t

theorem Stops.append (h : Stops t) (z : Text) : Stops (t ++ z) := by
  obtain ⟨c, more, rfl⟩ := List.exists_cons_of_ne_nil h.1
  exact ⟨by simp, h.2⟩

theorem stops_of_skipSpace {c : Char} (hc : c ∈ signs) {more : Text}
    (h : skipSpace t = CodePoint.ofChar c :: more) : Stops t := by
  have hsplit : t = t.takeWhile isSpace ++ CodePoint.ofChar c :: more := by
    rw [← h, skipSpace, List.takeWhile_append_dropWhile]
  rw [hsplit]
  exact ⟨by simp, endsNumeral_append (fun d hd => List.mem_takeWhile_imp hd) (endsNumeral_sign hc more)⟩

theorem eq_append_of_after? {w t rest : Text} (h : after? w t = some rest) : t = w ++ rest := by
  induction w generalizing t with
  | nil => exact Option.some.inj h
  | cons a w ih =>
    cases t with
    | nil => cases h
    | cons b t =>
      rw [after?] at h
      obtain ⟨hab, h⟩ := Option.ite_none_right_eq_some.1 h
      rw [hab, ih h, List.cons_append]

theorem exists_word_of_scanWord? {value : Scalar} (h : scanWord? t = some (value, rest)) :
    ∃ word, (word, value) ∈ words ∧ t = word ++ rest := by
  obtain ⟨⟨word, value'⟩, hmem, h⟩ := List.exists_of_findSome?_eq_some h
  obtain ⟨rest', hafter, h⟩ := Option.map_eq_some_iff.1 h
  cases h
  exact ⟨word, hmem, eq_append_of_after? hafter⟩

/-! ## Quoted texts -/

/-- A quoted text is read up to its closing quote, whatever follows. -/
theorem scanString_append {opening done r : Text} {afterLeading : Bool}
    (h : scanString opening done afterLeading t = .ok (r, rest)) (opening' z : Text) :
    scanString opening' done afterLeading (t ++ z) = .ok (r, rest ++ z) := by
  fun_induction scanString opening done afterLeading t with
  | case2 done afterLeading more =>
    cases h
    exact scanString_close opening' done (rest ++ z) afterLeading
  | case4 done afterLeading h₁ h₂ h₃ h₄ next more n hn unit hne ih =>
    exact (scanString_hex opening' done (more ++ z) afterLeading hn).trans (ih h)
  | case7 done afterLeading e more hu c hc hne ih =>
    exact (scanString_short opening' done (more ++ z) afterLeading hu hc).trans (ih h)
  | case10 done afterLeading c more hquote hslash hcontrol ih =>
    exact (scanString_self opening' done (more ++ z) afterLeading hquote hslash hcontrol).trans (ih h)
  | case1 | case3 | case5 | case6 | case8 | case9 => cases h

/-! ## Numbers -/

theorem takeDigits_append_of_ne_nil {digits : Text} (h : takeDigits t = (digits, rest))
    (hrest : rest ≠ []) (z : Text) : takeDigits (t ++ z) = (digits, rest ++ z) := by
  rw [takeDigits, List.span_eq_takeWhile_dropWhile, Prod.mk.injEq] at h ⊢
  obtain ⟨rfl, rfl⟩ := h
  have hlength : (t.takeWhile CodePoint.isAsciiDigit).length ≠ t.length := by
    intro hlength
    apply hrest
    have hall := (List.takeWhile_prefix CodePoint.isAsciiDigit (l := t)).eq_of_length hlength
    exact List.dropWhile_eq_nil_iff.2 (List.takeWhile_eq_self_iff.1 hall)
  simp [List.takeWhile_append, List.dropWhile_append, hlength, hrest]

theorem scanWhole_append {whole : Text} (h : scanWhole t = (whole, rest)) (hrest : rest ≠ [])
    (z : Text) : scanWhole (t ++ z) = (whole, rest ++ z) := by
  cases t with
  | nil => cases h; exact absurd rfl hrest
  | cons c t =>
    by_cases hzero : c = CodePoint.ofChar '0'
    · simp only [scanWhole, if_pos hzero, Prod.mk.injEq] at h
      obtain ⟨rfl, rfl⟩ := h
      simp [scanWhole, hzero]
    · simp only [scanWhole, if_neg hzero] at h
      simp only [List.cons_append, scanWhole, if_neg hzero]
      exact takeDigits_append_of_ne_nil h hrest z

theorem scanFraction_append {fraction : Text} (h : scanFraction t = (fraction, rest))
    (hrest : rest ≠ []) (hpoint : rest.head? ≠ some (CodePoint.ofChar '.')) (z : Text) :
    scanFraction (t ++ z) = (fraction, rest ++ z) := by
  cases t with
  | nil => cases h; exact absurd rfl hrest
  | cons c t =>
    by_cases hc : c = CodePoint.ofChar '.'
    · cases hdigits : takeDigits t with
      | mk digits more =>
        cases digits with
        | nil =>
          -- a point without digits is left
          simp only [scanFraction, if_pos hc, hdigits, Prod.mk.injEq] at h
          exact absurd (by rw [← h.2, hc]; rfl) hpoint
        | cons d ds =>
          simp only [scanFraction, if_pos hc, hdigits, Prod.mk.injEq] at h
          obtain ⟨rfl, rfl⟩ := h
          simp only [List.cons_append, scanFraction, if_pos hc,
            takeDigits_append_of_ne_nil hdigits hrest z]
    · simp only [scanFraction, if_neg hc, Prod.mk.injEq] at h
      obtain ⟨rfl, rfl⟩ := h
      simp only [List.cons_append, scanFraction, if_neg hc]

theorem takeSign_append (hne : t ≠ []) (z : Text) :
    takeSign (t ++ z) = ((takeSign t).1, (takeSign t).2 ++ z) := by
  obtain ⟨c, more, rfl⟩ := List.exists_cons_of_ne_nil hne
  simp only [List.cons_append, takeSign]
  split
  · rfl
  · split <;> rfl

/-- What is left does not start with the letter of an exponent, so one was read or none begins. -/
theorem scanExponent_append {exponent : Option Int} (h : scanExponent t = (exponent, rest))
    (hrest : Stops rest) (z : Text) : scanExponent (t ++ z) = (exponent, rest ++ z) := by
  cases t with
  | nil => cases h; exact absurd rfl hrest.1
  | cons c t =>
    by_cases hc : c = CodePoint.ofChar 'e' ∨ c = CodePoint.ofChar 'E'
    · cases hdigits : takeDigits (takeSign t).2 with
      | mk digits more =>
        cases digits with
        | nil =>
          simp only [scanExponent, if_pos hc, hdigits, Prod.mk.injEq] at h
          have hhead := hrest.2 c (by rw [← h.2]; rfl)
          exact absurd hc (by simp [hhead])
        | cons d ds =>
          simp only [scanExponent, if_pos hc, hdigits, Prod.mk.injEq] at h
          obtain ⟨rfl, rfl⟩ := h
          have hne : t ≠ [] := by rintro rfl; cases hdigits
          simp only [List.cons_append, scanExponent, if_pos hc, takeSign_append hne,
            takeDigits_append_of_ne_nil hdigits hrest.1]
    · simp only [scanExponent, if_neg hc, Prod.mk.injEq] at h
      obtain ⟨rfl, rfl⟩ := h
      simp only [List.cons_append, scanExponent, if_neg hc]

/-- What an exponent is read of goes on, and not with a point. -/
theorem head_ne_point_of_scanExponent {exponent : Option Int}
    (h : scanExponent t = (exponent, rest)) (hrest : Stops rest) :
    t ≠ [] ∧ t.head? ≠ some (CodePoint.ofChar '.') := by
  cases t with
  | nil => cases h; exact absurd rfl hrest.1
  | cons c t =>
    refine ⟨by simp, ?_⟩
    intro hpoint
    obtain rfl := Option.some.inj hpoint
    have hletter : ¬ (CodePoint.ofChar '.' = CodePoint.ofChar 'e' ∨
        CodePoint.ofChar '.' = CodePoint.ofChar 'E') := by decide
    simp only [scanExponent, if_neg hletter, Prod.mk.injEq] at h
    exact (hrest.2 _ (by rw [← h.2]; rfl)).2.1 rfl

theorem ne_nil_of_scanFraction {fraction : Text} (h : scanFraction t = (fraction, rest))
    (hrest : rest ≠ []) : t ≠ [] := by
  rintro rfl
  cases h
  exact hrest rfl

theorem takeMinus_append (hne : t ≠ []) (z : Text) :
    takeMinus (t ++ z) = ((takeMinus t).1, (takeMinus t).2 ++ z) := by
  obtain ⟨c, more, rfl⟩ := List.exists_cons_of_ne_nil hne
  simp only [List.cons_append, takeMinus]
  split <;> rfl

/-- The parts of a number that is read. -/
theorem parts_of_scanNumeral? {n : Numeral} (h : scanNumeral? t = some (n, rest)) :
    ∃ unsigned more behind, takeMinus t = (n.negative, unsigned) ∧
      scanWhole unsigned = (n.whole, more) ∧ n.whole ≠ [] ∧
      scanFraction more = (n.fraction, behind) ∧ scanExponent behind = (n.exponent, rest) := by
  cases hminus : takeMinus t with
  | mk negative unsigned =>
  cases hwhole : scanWhole unsigned with
  | mk whole more =>
  cases hfraction : scanFraction more with
  | mk fraction behind =>
  cases hexponent : scanExponent behind with
  | mk exponent rest' =>
    simp only [scanNumeral?, hminus, hwhole, hfraction, hexponent] at h
    split at h
    · cases h
    case isFalse hne =>
      cases h
      exact ⟨unsigned, more, behind, rfl, hwhole, by simpa using hne, hfraction, hexponent⟩

/-- A number has a digit behind its sign. -/
theorem starts_of_scanNumeral? {n : Numeral} (h : scanNumeral? t = some (n, rest)) :
    ∃ sign d more, t = sign ++ d :: more ∧ (sign = [] ∨ sign = [CodePoint.ofChar '-']) ∧
      d.isAsciiDigit := by
  obtain ⟨unsigned, more, behind, hminus, hwhole, hne, -⟩ := parts_of_scanNumeral? h
  have hdigit : ∃ d ds, unsigned = d :: ds ∧ d.isAsciiDigit := by
    cases unsigned with
    | nil => exact absurd (congrArg Prod.fst hwhole).symm hne
    | cons d ds =>
      refine ⟨d, ds, rfl, ?_⟩
      by_cases hzero : d = CodePoint.ofChar '0'
      · rw [hzero]; decide
      · simp only [scanWhole, if_neg hzero, takeDigits, List.span_eq_takeWhile_dropWhile,
          Prod.mk.injEq] at hwhole
        by_contra hd
        exact hne (by rw [← hwhole.1, List.takeWhile_cons_of_neg hd])
  obtain ⟨d, ds, rfl, hd⟩ := hdigit
  cases t with
  | nil => cases congrArg Prod.snd hminus
  | cons c t =>
    by_cases hc : c = CodePoint.ofChar '-'
    · simp only [takeMinus, if_pos hc, Prod.mk.injEq] at hminus
      exact ⟨[c], d, ds, by rw [hminus.2]; rfl, .inr (by rw [hc]), hd⟩
    · simp only [takeMinus, if_neg hc, Prod.mk.injEq] at hminus
      exact ⟨[], d, ds, hminus.2, .inl rfl, hd⟩

/-- **A number is read up to its end**, whatever stands behind what stops it. -/
theorem scanNumeral?_append {n : Numeral} (h : scanNumeral? t = some (n, rest)) (hrest : Stops rest)
    (z : Text) : scanNumeral? (t ++ z) = some (n, rest ++ z) := by
  obtain ⟨unsigned, more, behind, hminus, hwhole, hne, hfraction, hexponent⟩ :=
    parts_of_scanNumeral? h
  obtain ⟨hbehind, hpoint⟩ := head_ne_point_of_scanExponent hexponent hrest
  have hmore := ne_nil_of_scanFraction hfraction hbehind
  have ht : t ≠ [] := by
    obtain ⟨sign, d, ds, rfl, -⟩ := starts_of_scanNumeral? h
    simp
  rw [scanNumeral?, takeMinus_append ht, hminus]
  simp only [scanWhole_append hwhole hmore, scanFraction_append hfraction hbehind hpoint,
    scanExponent_append hexponent hrest, List.isEmpty_iff, if_neg hne]

/-- A word or a number is read up to its end. -/
theorem scanPlain_append {node : Node} (h : scanPlain t = .ok (node, rest)) (hrest : Stops rest)
    (z : Text) : scanPlain (t ++ z) = .ok (node, rest ++ z) := by
  cases hword : scanWord? t with
  | some read =>
    obtain ⟨value, more⟩ := read
    simp only [scanPlain, hword] at h
    cases h
    obtain ⟨word, hmem, rfl⟩ := exists_word_of_scanWord? hword
    rw [List.append_assoc]
    exact scanPlain_word hmem (rest ++ z)
  | none =>
    cases hnumeral : scanNumeral? t with
    | none => simp [scanPlain, hword, hnumeral] at h
    | some read =>
      obtain ⟨n, more⟩ := read
      cases hvalue : n.value with
      | error halt => simp [scanPlain, hword, hnumeral, hvalue] at h
      | ok value =>
        simp only [scanPlain, hword, hnumeral, hvalue] at h
        cases h
        have hnone : scanWord? (t ++ z) = none := by
          obtain ⟨sign, d, more, rfl, hsign, hd⟩ := starts_of_scanNumeral? hnumeral
          rw [List.append_assoc, List.cons_append]
          exact scanWord?_digit hsign hd (more ++ z)
        simp only [scanPlain, hnone, scanNumeral?_append hnumeral hrest, hvalue]

/-! ## Values -/

/-- With so much fuel or more, a value that is read is read alike when more text follows. A word or a
    number must have been stopped by something. -/
def ValuesStay (fuel : Nat) : Prop :=
  ∀ {room : Nat} {c : CodePoint} {t rest : Text} {node : Node},
    parseValue fuel room (c :: t) = .ok (node, rest) → (startsPlain c → Stops rest) →
      ∀ (more : Nat) (z : Text), parseValue (fuel + more) room (c :: t ++ z) = .ok (node, rest ++ z)

/-- So are the items of an array. -/
def ItemsStay (fuel : Nat) : Prop :=
  ∀ {room : Nat} {done : List Node} {t rest : Text} {node : Node},
    parseItems fuel room done t = .ok (node, rest) →
      ∀ (more : Nat) (z : Text), parseItems (fuel + more) room done (t ++ z) = .ok (node, rest ++ z)

/-- So are the entries of an object. -/
def EntriesStay (fuel : Nat) : Prop :=
  ∀ {room : Nat} {done : List (Text × Node)} {t rest : Text} {node : Node},
    parseEntries fuel room done t = .ok (node, rest) →
      ∀ (more : Nat) (z : Text), parseEntries (fuel + more) room done (t ++ z) = .ok (node, rest ++ z)

variable {fuel : Nat}

theorem valuesStay_succ (hitems : ItemsStay fuel) (hentries : EntriesStay fuel) :
    ValuesStay (fuel + 1) := by
  intro room c t rest node h hstops more z
  rw [Nat.add_right_comm, List.cons_append]
  by_cases hquote : c = CodePoint.doubleQuote
  · simp only [parseValue, if_pos hquote] at h ⊢
    cases hstring : scanString (c :: t) [] false t with
    | error halt => simp [hstring] at h
    | ok read =>
      simp only [hstring] at h
      cases h
      simp only [scanString_append hstring]
  by_cases harray : c = CodePoint.ofChar '['
  · simp only [parseValue, if_neg hquote, if_pos harray] at h ⊢
    cases room with
    | zero => cases h
    | succ room =>
      cases hskip : skipSpace t with
      | nil => simp [hskip] at h
      | cons d behind =>
        simp only [hskip] at h
        simp only [skipSpace_append_of_cons hskip]
        split at h
        case isTrue hclose =>
          cases h
          rw [if_pos hclose]
        case isFalse hclose =>
          rw [if_neg hclose]
          exact hitems h more z
  by_cases hobject : c = CodePoint.ofChar '{'
  · simp only [parseValue, if_neg hquote, if_neg harray, if_pos hobject] at h ⊢
    cases room with
    | zero => cases h
    | succ room =>
      cases hskip : skipSpace t with
      | nil => simp [hskip] at h
      | cons d behind =>
        simp only [hskip] at h
        simp only [skipSpace_append_of_cons hskip]
        split at h
        case isTrue hclose =>
          cases h
          rw [if_pos hclose]
        case isFalse hclose =>
          rw [if_neg hclose]
          exact hentries h more z
  · have hplain : startsPlain c := by simp [startsPlain, hquote, harray, hobject]
    rw [parseValue_plain _ room hplain] at h ⊢
    exact scanPlain_append h (hstops hplain) z

theorem exists_cons_of_parseValue {room : Nat} {node : Node}
    (h : parseValue fuel room t = .ok (node, rest)) : ∃ c more, t = c :: more := by
  cases t with
  | nil => cases fuel <;> simp [parseValue] at h
  | cons c more => exact ⟨c, more, rfl⟩

/-- The sign behind an item stops it. -/
theorem itemsStay_succ (hvalues : ValuesStay fuel) (hitems : ItemsStay fuel) :
    ItemsStay (fuel + 1) := by
  intro room done t rest node h more z
  rw [Nat.add_right_comm]
  cases hvalue : parseValue fuel room t with
  | error halt => simp [parseItems, hvalue] at h
  | ok read =>
  obtain ⟨item, behind⟩ := read
  cases hskip : skipSpace behind with
  | nil => simp [parseItems, hvalue, hskip] at h
  | cons d ds =>
    have hbehind := skipSpace_append_of_cons hskip z
    obtain ⟨c, cs, rfl⟩ := exists_cons_of_parseValue hvalue
    by_cases hclose : d = CodePoint.ofChar ']'
    · simp only [parseItems, hvalue, hskip, if_pos hclose] at h
      cases h
      have hstops : Stops behind := stops_of_skipSpace (by decide) (hclose ▸ hskip)
      simp only [parseItems, hvalues hvalue (fun _ => hstops) more z, hbehind, if_pos hclose]
    by_cases hcomma : d = CodePoint.ofChar ','
    · simp only [parseItems, hvalue, hskip, if_neg hclose, if_pos hcomma] at h
      have hstops : Stops behind := stops_of_skipSpace (by decide) (hcomma ▸ hskip)
      obtain ⟨e, es, hnext, -⟩ := not_closing_of_parseItems h
      simp only [parseItems, hvalues hvalue (fun _ => hstops) more z, hbehind, if_neg hclose,
        if_pos hcomma, skipSpace_append_of_ne_nil (hnext ▸ List.cons_ne_nil e es)]
      exact hitems h more z
    · simp [parseItems, hvalue, hskip, hclose, hcomma] at h

/-- The sign behind the value of an entry stops it. -/
theorem entriesStay_succ (hvalues : ValuesStay fuel) (hentries : EntriesStay fuel) :
    EntriesStay (fuel + 1) := by
  intro room done t rest node h more z
  rw [Nat.add_right_comm]
  cases t with
  | nil => simp [parseEntries] at h
  | cons c t =>
  by_cases hquote : c = CodePoint.doubleQuote
  case neg => simp [parseEntries, hquote] at h
  subst hquote
  cases hkey : scanString (CodePoint.doubleQuote :: t) [] false t with
  | error halt => simp [parseEntries, hkey] at h
  | ok read =>
  obtain ⟨key, behindKey⟩ := read
  cases hskipKey : skipSpace behindKey with
  | nil => simp [parseEntries, hkey, hskipKey] at h
  | cons colon behindColon =>
  by_cases hcolon : colon = CodePoint.ofChar ':'
  case neg => simp [parseEntries, hkey, hskipKey, hcolon] at h
  cases hvalue : parseValue fuel room (skipSpace behindColon) with
  | error halt => simp [parseEntries, hkey, hskipKey, hcolon, hvalue] at h
  | ok read =>
  obtain ⟨value, behind⟩ := read
  cases hskip : skipSpace behind with
  | nil => simp [parseEntries, hkey, hskipKey, hcolon, hvalue, hskip] at h
  | cons d ds =>
    obtain ⟨e, es, hnext⟩ := exists_cons_of_parseValue hvalue
    have hbehindKey := skipSpace_append_of_cons hskipKey z
    have hbehindColon := skipSpace_append_of_cons hnext z
    have hbehind := skipSpace_append_of_cons hskip z
    have hstays (hstops : Stops behind) :
        parseValue (fuel + more) room (e :: (es ++ z)) = .ok (value, behind ++ z) :=
      hvalues (hnext ▸ hvalue) (fun _ => hstops) more z
    by_cases hclose : d = CodePoint.ofChar '}'
    · simp only [parseEntries, if_true, hkey, hskipKey, if_pos hcolon, hvalue, hskip,
        if_pos hclose] at h
      cases h
      have hstops : Stops behind := stops_of_skipSpace (by decide) (hclose ▸ hskip)
      simp only [List.cons_append, parseEntries, if_true, scanString_append hkey, hbehindKey,
        if_pos hcolon, hbehindColon, hstays hstops, hbehind, if_pos hclose]
    by_cases hcomma : d = CodePoint.ofChar ','
    · simp only [parseEntries, if_true, hkey, hskipKey, if_pos hcolon, hvalue, hskip,
        if_neg hclose, if_pos hcomma] at h
      have hstops : Stops behind := stops_of_skipSpace (by decide) (hcomma ▸ hskip)
      obtain ⟨k, ks, hentry, -⟩ := not_closing_of_parseEntries h
      simp only [List.cons_append, parseEntries, if_true, scanString_append hkey, hbehindKey,
        if_pos hcolon, hbehindColon, hstays hstops, hbehind, if_neg hclose, if_pos hcomma,
        skipSpace_append_of_ne_nil (hentry ▸ List.cons_ne_nil k ks)]
      exact hentries h more z
    · simp [parseEntries, hkey, hskipKey, hcolon, hvalue, hskip, hclose, hcomma] at h

/-- **What is read stays**, however the text goes on behind it. -/
theorem readsStay : ∀ fuel : Nat, ValuesStay fuel ∧ ItemsStay fuel ∧ EntriesStay fuel
  | 0 => by simp [ValuesStay, ItemsStay, EntriesStay, parseValue, parseItems, parseEntries]
  | fuel + 1 =>
    have ⟨hvalues, hitems, hentries⟩ := readsStay fuel
    ⟨valuesStay_succ hitems hentries, itemsStay_succ hvalues hitems,
      entriesStay_succ hvalues hentries⟩

/-! ## Documents that are cut off -/

/-- **A printed array or object is no document before its last bracket.** -/
theorem Node.IsPlain.not_read_of_cut {node : Node} (h : node.IsPlain) (hcontainer : node.isContainer)
    (hd : node.depth ≤ nestingLimit) {u z : Text} (hdump : u ++ z = node.dump) (hz : z ≠ [])
    (read : Node) : parseDocument u ≠ .ok read := by
  intro hread
  obtain ⟨c, cs, hcons, hstart, hbracket⟩ := h.dump_eq_cons
  cases u with
  | nil => exact absurd hread (by simp [parseDocument, skipSpace, parseValue])
  | cons b u =>
    obtain ⟨rfl, -⟩ : b = c ∧ u ++ z = cs := by simpa [hcons] using hdump
    have hskip : ∀ t, skipSpace (b :: t) = b :: t := skipSpace_cons (isSpace_of_startsValue hstart)
    have hplain : startsPlain b = false := by
      rw [hcontainer, Bool.or_eq_true, decide_eq_true_eq, decide_eq_true_eq] at hbracket
      rcases hbracket with rfl | rfl <;> decide
    unfold parseDocument at hread
    split at hread
    · cases hread
    rw [hskip] at hread
    cases hvalue : parseValue (2 * (b :: u).length + 1) nestingLimit (b :: u) with
    | error halt => simp only [hvalue, reduceCtorEq] at hread
    | ok value =>
      obtain ⟨value, rest⟩ := value
      -- the whole print is read alike, but nothing is left of it
      have hlonger := (readsStay _).1 hvalue (by simp [hplain]) (2 * z.length) z
      have hwhole : parseValue (2 * (b :: u).length + 1 + 2 * z.length) nestingLimit
          (skipSpace (node.dump ++ [])) = .ok (node, []) :=
        h.readBack node.spaced_dump endsNumeral_nil hd (by
          rw [← hdump, List.length_append]
          omega)
      rw [List.append_nil, ← hdump, List.cons_append, hskip, ← List.cons_append, hlonger] at hwhole
      have hnil : rest ++ z = [] := congrArg Prod.snd (Except.ok.inj hwhole)
      exact hz (List.append_eq_nil_iff.1 hnil).2

end Redaction.Json
