/-
  Documents with blanks between their pieces, and how they are read.

  * `Node.IsPlain`: every scalar of a tree is read back as it was;
  * `Spaced pieces t`: the text `t` is made of the pieces in order, with blanks before each of them;
  * `Node.IsPlain.readBack`: the value that a text starts with is read back from its pieces, and what
    follows is left;
  * `parse_spaced`: a document is read back from its pieces, with blanks around them;
  * `parse_dump`: as it is from the text that the printer writes.
-/
import Redaction.Proofs.Json.Scan

namespace Redaction.Json

/-! ## Plain trees -/

/-- A tree without floating-point numbers and without integers that have too many digits. -/
inductive Node.IsPlain : Node → Prop
  | scalar {s} : s.IsPlain → IsPlain (.scalar s)
  | array {items} : (∀ item ∈ items, IsPlain item) → IsPlain (.array items)
  | object {entries} : (∀ entry ∈ entries, IsPlain entry.2) → IsPlain (.object entries)

/-- A redacted tree is plain, whatever the tree was. -/
theorem Node.isPlain_redact (node : Node) : node.redact.IsPlain := by
  induction node using Node.induction with
  | ofScalar s => rw [redact_scalar]; exact .scalar trivial
  | ofArray items ih =>
    rw [redact_array]
    refine .array fun item h => ?_
    obtain ⟨item, hmem, rfl⟩ := List.mem_map.1 h
    exact ih item hmem
  | ofObject entries ih =>
    rw [redact_object]
    refine .object fun entry h => ?_
    obtain ⟨entry, hmem, rfl⟩ := List.mem_map.1 h
    exact ih entry hmem

theorem foldl_max_le_iff {depths : List Nat} {a n : Nat} :
    depths.foldl max a ≤ n ↔ a ≤ n ∧ ∀ d ∈ depths, d ≤ n := by
  induction depths generalizing a with
  | nil => simp
  | cons d depths ih => rw [List.foldl_cons, ih, Nat.max_le, List.forall_mem_cons, and_assoc]

theorem Node.depth_array_le_iff {items : List Node} {n : Nat} :
    (array items).depth ≤ n + 1 ↔ ∀ item ∈ items, item.depth ≤ n := by
  simp [foldl_max_le_iff]

theorem Node.depth_object_le_iff {entries : List (Text × Node)} {n : Nat} :
    (object entries).depth ≤ n + 1 ↔ ∀ entry ∈ entries, entry.2.depth ≤ n := by
  rw [depth_object, Nat.add_le_add_iff_right, foldl_max_le_iff, List.forall_mem_map]
  simp

/-! ## Blanks -/

theorem skipSpace_append {blanks : Text} (h : ∀ c ∈ blanks, isSpace c) (t : Text) :
    skipSpace (blanks ++ t) = skipSpace t :=
  List.dropWhile_append_of_pos h

theorem skipSpace_cons {c : CodePoint} (h : isSpace c = false) (t : Text) :
    skipSpace (c :: t) = c :: t := by
  simp [skipSpace, h]

theorem endsNumeral_append {blanks : Text} (h : ∀ c ∈ blanks, isSpace c) {t : Text}
    (ht : EndsNumeral t) : EndsNumeral (blanks ++ t) := by
  cases blanks with
  | nil => exact ht
  | cons b blanks =>
    rintro c hc
    cases hc
    have hb := h b (by simp)
    refine ⟨?_, ?_, ?_, ?_⟩
    · simp only [isSpace, CodePoint.isAsciiDigit, Bool.or_eq_true, decide_eq_true_eq,
        Bool.and_eq_false_iff, decide_eq_false_iff_not] at hb ⊢
      rcases hb with ((rfl | hb) | hb) | hb
      · decide
      all_goals omega
    all_goals rintro rfl; revert hb; decide

/-- The signs that hold a document together. -/
def signs : List Char := ['[', ']', '{', '}', ',', ':']

theorem forall_mem_signs {p : Char → Prop} :
    (∀ c ∈ signs, p c) ↔ p '[' ∧ p ']' ∧ p '{' ∧ p '}' ∧ p ',' ∧ p ':' := by
  simp [signs]

theorem isSpace_of_mem_signs : ∀ c ∈ signs, isSpace (CodePoint.ofChar c) = false :=
  forall_mem_signs.2 (by decide)

theorem endsNumeral_sign {c : Char} (h : c ∈ signs) (t : Text) :
    EndsNumeral (CodePoint.ofChar c :: t) := by
  rintro d hd
  cases hd
  revert c
  rw [forall_mem_signs]
  decide

/-! ## Pieces and blanks -/

/-- A text made of pieces in order, with blanks before each of them. -/
inductive Spaced : List Text → Text → Prop
  | nil : Spaced [] []
  | cons {blanks piece pieces t} : (∀ c ∈ blanks, isSpace c) → Spaced pieces t →
      Spaced (piece :: pieces) (blanks ++ piece ++ t)

theorem spaced_flatten : ∀ pieces : List Text, Spaced pieces pieces.flatten
  | [] => .nil
  | _ :: pieces => @Spaced.cons [] _ _ _ (List.forall_mem_nil _) (spaced_flatten pieces)

theorem Node.spaced_dump (node : Node) : Spaced node.lexemes node.dump :=
  spaced_flatten node.lexemes

theorem Spaced.append_left {ps qs : List Text} {t : Text} (h : Spaced (ps ++ qs) t) :
    ∃ t₁ t₂, t = t₁ ++ t₂ ∧ Spaced ps t₁ ∧ Spaced qs t₂ := by
  induction ps generalizing t with
  | nil => exact ⟨[], t, rfl, .nil, h⟩
  | cons p ps ih =>
    cases h with
    | @cons blanks _ _ t hb h =>
      obtain ⟨t₁, t₂, rfl, h₁, h₂⟩ := ih h
      exact ⟨blanks ++ p ++ t₁, t₂, by simp, .cons hb h₁, h₂⟩

/-- A sign in front is what comes first behind the blanks. -/
theorem Spaced.sign_left {c : Char} (hc : c ∈ signs) {pieces : List Text} {t : Text}
    (h : Spaced (sign c :: pieces) t) :
    ∃ t', Spaced pieces t' ∧ t'.length < t.length ∧
      ∀ rest, EndsNumeral (t ++ rest) ∧ skipSpace (t ++ rest) = CodePoint.ofChar c :: (t' ++ rest) := by
  cases h with
  | @cons blanks _ _ t' hb h =>
    refine ⟨t', h, by simp [sign]; omega, fun rest => ?_⟩
    simp only [sign, List.append_assoc, List.cons_append, List.nil_append]
    refine ⟨endsNumeral_append hb (endsNumeral_sign hc _), ?_⟩
    rw [skipSpace_append hb, skipSpace_cons (isSpace_of_mem_signs c hc)]

/-! ## Values -/

/-- A character that a value can start with. -/
def startsValue (c : CodePoint) : Bool :=
  c.isAsciiDigit ||
    ['"', '[', '{', '-', 'n', 't', 'f', 'N', 'I'].any fun start => CodePoint.ofChar start = c

theorem startsValue_of_isAsciiDigit {c : CodePoint} (h : c.isAsciiDigit) : startsValue c := by
  simp [startsValue, h]

/-- No value starts with a blank. -/
theorem isBlank_of_startsValue {c : CodePoint} (h : startsValue c) : c.isBlank = false := by
  simp only [startsValue, Bool.or_eq_true, List.any_eq_true, decide_eq_true_eq] at h
  rcases h with hdigit | ⟨start, hmem, rfl⟩
  · simp only [CodePoint.isAsciiDigit, Bool.and_eq_true, decide_eq_true_eq] at hdigit
    have h₁ : ¬ c.val ≤ 0xD := by omega
    have h₂ : ¬ c.val ≤ 0x20 := by omega
    have h₃ : c.val ≤ 0x85 := by omega
    have h₄ : ¬ 0x85 ≤ c.val := by omega
    simp [CodePoint.isBlank, Ranges.blank, Ranges.contains, h₁, h₂, h₃, h₄]
  · revert start
    simp only [List.forall_mem_cons, List.not_mem_nil, false_implies, implies_true]
    decide

theorem isSpace_of_startsValue {c : CodePoint} (h : startsValue c) : isSpace c = false := by
  by_contra hspace
  have hblank := isBlank_of_startsValue h
  obtain ⟨n, hn⟩ := c
  simp only [isSpace, Bool.not_eq_false, Bool.or_eq_true, decide_eq_true_eq, CodePoint.ext_iff,
    CodePoint.ofChar_val] at hspace
  rcases hspace with ((rfl | rfl) | rfl) | rfl <;> (clear h; revert hn; decide)

theorem Scalar.text_eq_cons {s : Scalar} (h : s.IsPlain) :
    ∃ c cs, s.text = c :: cs ∧ startsValue c ∧ (startsPlain c ∨ ∃ t, s = .string t) := by
  cases s with
  | null => exact ⟨_, _, rfl, by decide, .inl (by decide)⟩
  | boolean b => cases b <;> exact ⟨_, _, rfl, by decide, .inl (by decide)⟩
  | float x => exact h.elim
  | string t => exact ⟨_, _, rfl, by decide, .inr ⟨t, rfl⟩⟩
  | integer n =>
    obtain ⟨d, ds, hn, hd, -⟩ := Text.decimal_eq_cons n.natAbs
    by_cases hneg : n < 0
    · exact ⟨_, _, by rw [text, Text.integer_eq, if_pos hneg]; rfl, by decide, .inl (by decide)⟩
    · refine ⟨d, ds, by rw [text, Text.integer_eq, if_neg hneg, hn]; rfl,
        startsValue_of_isAsciiDigit hd, .inl ?_⟩
      simp only [startsPlain, Bool.and_eq_true, decide_eq_true_eq]
      refine ⟨⟨?_, ?_⟩, ?_⟩ <;> (rintro rfl; revert hd; decide)

theorem parseValue_scalar {s : Scalar} (hs : s.IsPlain) (fuel room : Nat) {rest : Text}
    (hr : EndsNumeral rest) :
    parseValue (fuel + 1) room (s.text ++ rest) = .ok (.scalar s, rest) := by
  obtain ⟨c, cs, ht, -, hc | ⟨t, rfl⟩⟩ := Scalar.text_eq_cons hs
  · have hplain : scanPlain (s.text ++ rest) = .ok (.scalar s, rest) := by
      cases s with
      | null => exact scanPlain_word (by simp [words]; rfl) rest
      | boolean b => cases b <;> exact scanPlain_word (by simp [words]; rfl) rest
      | float x => exact hs.elim
      | string t => cases ht; exact absurd hc (by decide)
      | integer n => exact scanPlain_integer hs hr
    rw [← hplain, ht]
    exact parseValue_plain fuel room hc _
  · simp only [Scalar.text, quoted, List.cons_append, List.append_assoc, List.nil_append,
      parseValue, if_true]
    rw [scanString_quoted]
    rfl

/-! ## Reading spaced pieces -/

/-- A tree that is read back from its pieces, whatever follows them that does not go on with a
    number. Two units of fuel for each character are enough. -/
def Node.ReadBack (node : Node) : Prop :=
  ∀ {fuel room : Nat} {t rest : Text}, Spaced node.lexemes t → EndsNumeral rest →
    node.depth ≤ room → 2 * t.length ≤ fuel →
      parseValue fuel room (skipSpace (t ++ rest)) = .ok (node, rest)

theorem Node.readBack_scalar {s : Scalar} (hs : s.IsPlain) : (scalar s).ReadBack := by
  intro fuel room t rest ht hr _ hf
  rw [lexemes_scalar] at ht
  cases ht with
  | @cons blanks _ _ t hb ht =>
    cases ht
    obtain ⟨c, cs, hc, hstart, -⟩ := Scalar.text_eq_cons hs
    simp only [hc, List.append_nil, List.length_append, List.length_cons] at hf
    obtain ⟨fuel, rfl⟩ : ∃ n, fuel = n + 1 := ⟨fuel - 1, by omega⟩
    rw [List.append_nil, List.append_assoc, skipSpace_append hb, ← parseValue_scalar hs fuel room hr,
      hc, List.cons_append, skipSpace_cons (isSpace_of_startsValue hstart)]

/-- Behind an item the array ends or goes on. -/
theorem parseItems_item {item : Node} (hread : item.ReadBack) {fuel room : Nat}
    (hdepth : item.depth ≤ room) {done : List Node} {t rest more : Text} {c : CodePoint}
    (ht : Spaced item.lexemes t) (hf : 2 * t.length ≤ fuel) (hr : EndsNumeral rest)
    (hc : skipSpace rest = c :: more) :
    parseItems (fuel + 1) room done (skipSpace (t ++ rest)) =
      if c = CodePoint.ofChar ']' then .ok (.array (item :: done).reverse, more)
      else if c = CodePoint.ofChar ',' then parseItems fuel room (item :: done) (skipSpace more)
      else .error (.fault .expectedComma (c :: more)) := by
  rw [parseItems, hread ht hr hdepth hf]
  simp only [hc]

/-- The items of an array are read back from the first one on. -/
theorem parseItems_spaced {items : List Node} (hne : items ≠ [])
    (hread : ∀ item ∈ items, item.ReadBack) {room : Nat} (hdepth : ∀ item ∈ items, item.depth ≤ room)
    {fuel : Nat} {done : List Node} {t rest : Text}
    (ht : Spaced ([sign ','].intercalate (items.map Node.lexemes) ++ [sign ']']) t)
    (hf : 2 * t.length ≤ fuel) :
    parseItems fuel room done (skipSpace (t ++ rest)) = .ok (.array (done.reverse ++ items), rest) := by
  induction items generalizing fuel done t with
  | nil => exact absurd rfl hne
  | cons item items ih =>
    simp only [List.forall_mem_cons] at hread hdepth
    cases items with
    | nil =>
      rw [List.map_singleton, List.intercalate_singleton] at ht
      obtain ⟨t₁, t₂, rfl, h₁, h₂⟩ := ht.append_left
      obtain ⟨t', h', hlen, hsign⟩ := h₂.sign_left (by decide)
      cases h'
      rw [List.length_append] at hf
      obtain ⟨fuel, rfl⟩ : ∃ n, fuel = n + 1 := ⟨fuel - 1, by omega⟩
      rw [List.append_assoc, parseItems_item hread.1 hdepth.1 h₁ (by omega) (hsign rest).1
        (hsign rest).2, if_pos rfl]
      simp
    | cons item₂ items =>
      rw [List.map_cons, List.map_cons, List.intercalate_cons_cons, ← List.map_cons,
        List.append_assoc, List.append_assoc] at ht
      obtain ⟨t₁, t₂, rfl, h₁, h₂⟩ := ht.append_left
      obtain ⟨t', h', hlen, hsign⟩ := h₂.sign_left (by decide)
      rw [List.length_append] at hf
      obtain ⟨fuel, rfl⟩ : ∃ n, fuel = n + 1 := ⟨fuel - 1, by omega⟩
      rw [List.append_assoc, parseItems_item hread.1 hdepth.1 h₁ (by omega) (hsign rest).1
        (hsign rest).2, if_neg (by decide), if_pos rfl,
        ih (by simp) hread.2 hdepth.2 h' (by omega)]
      simp

/-- The pieces of an entry. -/
def Node.entryLexemes (entry : Text × Node) : List Text :=
  quoted entry.1 :: sign ':' :: entry.2.lexemes

/-- Behind an entry the object ends or goes on. -/
theorem parseEntries_entry {key : Text} {value : Node} (hread : value.ReadBack) {fuel room : Nat}
    (hdepth : value.depth ≤ room) {done : List (Text × Node)} {t rest more : Text} {c : CodePoint}
    (ht : Spaced (Node.entryLexemes (key, value)) t) (hf : 2 * t.length ≤ fuel)
    (hr : EndsNumeral rest) (hc : skipSpace rest = c :: more) :
    parseEntries (fuel + 1) room done (skipSpace (t ++ rest)) =
      if c = CodePoint.ofChar '}' then .ok (.object ((key, value) :: done).reverse, more)
      else if c = CodePoint.ofChar ',' then
        parseEntries fuel room ((key, value) :: done) (skipSpace more)
      else .error (.fault .expectedComma (c :: more)) := by
  cases ht with
  | @cons blanks _ _ t hb ht =>
    obtain ⟨t', h', hlen, hsign⟩ := ht.sign_left (by decide)
    simp only [List.length_append] at hf
    rw [List.append_assoc, List.append_assoc, skipSpace_append hb]
    simp only [quoted, List.cons_append, List.append_assoc, List.nil_append]
    rw [skipSpace_cons (by decide)]
    simp only [parseEntries, if_true, scanString_quoted, (hsign rest).2]
    rw [hread h' hr hdepth (by omega)]
    simp only [hc]
    rfl

/-- The entries of an object are read back from the first key on. -/
theorem parseEntries_spaced {entries : List (Text × Node)} (hne : entries ≠ [])
    (hread : ∀ entry ∈ entries, entry.2.ReadBack) {room : Nat}
    (hdepth : ∀ entry ∈ entries, entry.2.depth ≤ room) {fuel : Nat} {done : List (Text × Node)}
    {t rest : Text}
    (ht : Spaced ([sign ','].intercalate (entries.map Node.entryLexemes) ++ [sign '}']) t)
    (hf : 2 * t.length ≤ fuel) :
    parseEntries fuel room done (skipSpace (t ++ rest)) =
      .ok (.object (done.reverse ++ entries), rest) := by
  induction entries generalizing fuel done t with
  | nil => exact absurd rfl hne
  | cons entry entries ih =>
    simp only [List.forall_mem_cons] at hread hdepth
    cases entries with
    | nil =>
      rw [List.map_singleton, List.intercalate_singleton] at ht
      obtain ⟨t₁, t₂, rfl, h₁, h₂⟩ := ht.append_left
      obtain ⟨t', h', hlen, hsign⟩ := h₂.sign_left (by decide)
      cases h'
      rw [List.length_append] at hf
      obtain ⟨fuel, rfl⟩ : ∃ n, fuel = n + 1 := ⟨fuel - 1, by omega⟩
      rw [List.append_assoc, parseEntries_entry hread.1 hdepth.1 h₁ (by omega) (hsign rest).1
        (hsign rest).2, if_pos rfl]
      simp
    | cons entry₂ entries =>
      rw [List.map_cons, List.map_cons, List.intercalate_cons_cons, ← List.map_cons,
        List.append_assoc, List.append_assoc] at ht
      obtain ⟨t₁, t₂, rfl, h₁, h₂⟩ := ht.append_left
      obtain ⟨t', h', hlen, hsign⟩ := h₂.sign_left (by decide)
      rw [List.length_append] at hf
      obtain ⟨fuel, rfl⟩ : ∃ n, fuel = n + 1 := ⟨fuel - 1, by omega⟩
      rw [List.append_assoc, parseEntries_entry hread.1 hdepth.1 h₁ (by omega) (hsign rest).1
        (hsign rest).2, if_neg (by decide), if_pos rfl,
        ih (by simp) hread.2 hdepth.2 h' (by omega)]
      simp

/-- Only what a value can start with is read as a value. -/
theorem startsValue_of_parseValue {fuel room : Nat} {c : CodePoint} {t rest : Text} {node : Node}
    (h : parseValue fuel room (c :: t) = .ok (node, rest)) : startsValue c := by
  by_contra hc
  simp only [startsValue, Bool.or_eq_true, not_or, Bool.not_eq_true, List.any_cons, List.any_nil,
    Bool.or_false, decide_eq_false_iff_not] at hc
  obtain ⟨hdigit, hquote, harray, hobject, hminus, hletters⟩ := hc
  have hplain : startsPlain c := by
    simp only [startsPlain, Bool.and_eq_true, decide_eq_true_eq]
    exact ⟨⟨Ne.symm hquote, Ne.symm harray⟩, Ne.symm hobject⟩
  have hzero : c ≠ CodePoint.ofChar '0' := by rintro rfl; revert hdigit; decide
  have hnone : scanPlain (c :: t) = .error (.fault .expectedValue (c :: t)) := by
    simp [scanPlain, scanWord?, words, after?, hletters, hminus, scanNumeral?, takeMinus, scanWhole,
      Ne.symm hminus, hzero, takeDigits, List.span_eq_takeWhile_dropWhile, hdigit]
  cases fuel with
  | zero => simp [parseValue] at h
  | succ fuel =>
    rw [parseValue_plain fuel room hplain, hnone] at h
    cases h

/-- No items are read of a text that ends or that closes the array at once. -/
theorem not_closing_of_parseItems {fuel room : Nat} {done : List Node} {t rest : Text} {node : Node}
    (h : parseItems fuel room done t = .ok (node, rest)) :
    ∃ c more, t = c :: more ∧ c ≠ CodePoint.ofChar ']' := by
  cases fuel with
  | zero => simp [parseItems] at h
  | succ fuel =>
    rw [parseItems] at h
    cases hv : parseValue fuel room t with
    | error halt => simp [hv] at h
    | ok read =>
      cases t with
      | nil => cases fuel <;> simp [parseValue] at hv
      | cons c more =>
        refine ⟨c, more, rfl, ?_⟩
        rintro rfl
        exact absurd (startsValue_of_parseValue hv) (by decide)

/-- No entries are read of a text that ends or that closes the object at once. -/
theorem not_closing_of_parseEntries {fuel room : Nat} {done : List (Text × Node)} {t rest : Text}
    {node : Node} (h : parseEntries fuel room done t = .ok (node, rest)) :
    ∃ c more, t = c :: more ∧ c ≠ CodePoint.ofChar '}' := by
  cases fuel with
  | zero => simp [parseEntries] at h
  | succ fuel =>
    cases t with
    | nil => simp [parseEntries] at h
    | cons c more =>
      refine ⟨c, more, rfl, ?_⟩
      rintro rfl
      have hquote : CodePoint.ofChar '}' ≠ CodePoint.doubleQuote := by decide
      simp [parseEntries, hquote] at h

theorem Node.readBack_array {items : List Node} (hread : ∀ item ∈ items, item.ReadBack) :
    (array items).ReadBack := by
  intro fuel room t rest ht hr hd hf
  rw [lexemes_array, List.cons_append] at ht
  obtain ⟨t', h', hlen, hsign⟩ := ht.sign_left (by decide)
  obtain ⟨fuel, rfl⟩ : ∃ n, fuel = n + 1 := ⟨fuel - 1, by omega⟩
  obtain ⟨room, rfl⟩ : ∃ n, room = n + 1 := ⟨room - 1, by simp at hd; omega⟩
  have hopen : CodePoint.ofChar '[' ≠ CodePoint.doubleQuote := by decide
  rw [(hsign rest).2]
  simp only [parseValue, if_neg hopen, if_true]
  cases items with
  | nil =>
    rw [List.map_nil, List.intercalate_nil, List.nil_append] at h'
    obtain ⟨t'', h'', -, hclose⟩ := h'.sign_left (by decide)
    cases h''
    simp [(hclose rest).2]
  | cons item items =>
    have hitems : parseItems fuel room [] (skipSpace (t' ++ rest)) =
        .ok (.array (item :: items), rest) :=
      parseItems_spaced (List.cons_ne_nil item items) hread (depth_array_le_iff.1 hd) h' (by omega)
    obtain ⟨c, more, hc, hne⟩ := not_closing_of_parseItems hitems
    rw [hc] at hitems ⊢
    simp only [if_neg hne, hitems]

theorem Node.readBack_object {entries : List (Text × Node)}
    (hread : ∀ entry ∈ entries, entry.2.ReadBack) : (object entries).ReadBack := by
  intro fuel room t rest ht hr hd hf
  rw [lexemes_object, List.cons_append] at ht
  obtain ⟨t', h', hlen, hsign⟩ := ht.sign_left (by decide)
  obtain ⟨fuel, rfl⟩ : ∃ n, fuel = n + 1 := ⟨fuel - 1, by omega⟩
  obtain ⟨room, rfl⟩ : ∃ n, room = n + 1 := ⟨room - 1, by simp at hd; omega⟩
  have hopen : CodePoint.ofChar '{' ≠ CodePoint.doubleQuote ∧
      CodePoint.ofChar '{' ≠ CodePoint.ofChar '[' := by decide
  rw [(hsign rest).2]
  simp only [parseValue, if_neg hopen.1, if_neg hopen.2, if_true]
  cases entries with
  | nil =>
    rw [List.map_nil, List.intercalate_nil, List.nil_append] at h'
    obtain ⟨t'', h'', -, hclose⟩ := h'.sign_left (by decide)
    cases h''
    simp [(hclose rest).2]
  | cons entry entries =>
    have hentries : parseEntries fuel room [] (skipSpace (t' ++ rest)) =
        .ok (.object (entry :: entries), rest) :=
      parseEntries_spaced (List.cons_ne_nil entry entries) hread (depth_object_le_iff.1 hd) h'
        (by omega)
    obtain ⟨c, more, hc, hne⟩ := not_closing_of_parseEntries hentries
    rw [hc] at hentries ⊢
    simp only [if_neg hne, hentries]

/-- **Values are read back from their pieces.** -/
theorem Node.IsPlain.readBack {node : Node} (h : node.IsPlain) : node.ReadBack := by
  induction h with
  | scalar hs => exact Node.readBack_scalar hs
  | array _ ih => exact Node.readBack_array ih
  | object _ ih => exact Node.readBack_object ih

/-! ## Documents -/

/-- A document is read from its pieces, and only blanks may follow it. -/
theorem parseDocument_append {node : Node} (h : node.IsPlain) (hd : node.depth ≤ nestingLimit)
    {t rest : Text} (ht : Spaced node.lexemes t) (hr : EndsNumeral rest) :
    parseDocument (t ++ rest) =
      match skipSpace rest with
      | [] => .ok node
      | c :: more => .error (.fault .extraData (c :: more)) := by
  have hvalue : parseValue (2 * (t ++ rest).length + 1) nestingLimit (skipSpace (t ++ rest)) =
      .ok (node, rest) := h.readBack ht hr hd (by rw [List.length_append]; omega)
  have hmark : (t ++ rest).head? ≠ some CodePoint.byteOrderMark := by
    intro hmark
    obtain ⟨more, hmore⟩ := List.head?_eq_some_iff.1 hmark
    rw [hmore, skipSpace_cons (by decide)] at hvalue
    exact absurd (startsValue_of_parseValue hvalue) (by decide)
  cases hs : skipSpace rest with
  | nil => simp only [parseDocument, if_neg hmark, hvalue, hs]
  | cons c more => simp only [parseDocument, if_neg hmark, hvalue, hs]

/-- **A document is read back** from its pieces with blanks between and around them, if it is nested
    no deeper than documents that are read. -/
theorem parse_spaced {node : Node} (h : node.IsPlain) (hd : node.depth ≤ nestingLimit)
    {t blanks : Text} (ht : Spaced node.lexemes t) (hb : ∀ c ∈ blanks, isSpace c) {limit : Int}
    (hl : ((t ++ blanks).length : Int) ≤ limit) : parse limit (t ++ blanks) = .ok node := by
  have hr : EndsNumeral blanks := by
    simpa using endsNumeral_append hb endsNumeral_nil
  have hend : skipSpace blanks = [] := by
    simpa [skipSpace] using skipSpace_append hb []
  rw [parse, if_neg (by omega), parseDocument_append h hd ht hr, hend]

/-- The text that the printer writes is read back. -/
theorem parse_dump {node : Node} (h : node.IsPlain) (hd : node.depth ≤ nestingLimit) {limit : Int}
    (hl : (node.dump.length : Int) ≤ limit) : parse limit node.dump = .ok node := by
  have hspaced : parse limit (node.dump ++ []) = .ok node :=
    parse_spaced h hd node.spaced_dump (List.forall_mem_nil _)
      (by rw [List.append_nil]; exact hl)
  rwa [List.append_nil] at hspaced

end Redaction.Json
