/-
  Taking a redacted batch apart.

  * `IsWhole t`: a reader outside of quotes takes `t` into one piece;
  * `split_intercalate`: such texts are got back from what joins them;
  * `isWhole_dump`: a printed tree is one, whatever its keys hold;
  * `split_redact`: the pieces of a redacted batch are its lines, each redacted on its own.
-/
import Redaction.Proofs.Batch

namespace Redaction.Batch

open Json (IsLexeme Limits Node)

/-! ## Joining and splitting -/

/-- A text that a reader outside of quotes takes into its piece from end to end. -/
def IsWhole (t : Text) : Prop :=
  ∀ piece rest, splitOnto .outside piece (t ++ rest) = splitOnto .outside (t.reverse ++ piece) rest

theorem isWhole_nil : IsWhole [] := fun _ _ => rfl

theorem IsWhole.append {s t : Text} (hs : IsWhole s) (ht : IsWhole t) : IsWhole (s ++ t) := by
  intro piece rest
  rw [List.append_assoc, hs, ht, List.reverse_append, List.append_assoc]

theorem isWhole_flatten {texts : List Text} (h : ∀ t ∈ texts, IsWhole t) :
    IsWhole texts.flatten := by
  induction texts with
  | nil => exact isWhole_nil
  | cons t texts ih =>
    rw [List.forall_mem_cons] at h
    exact h.1.append (ih h.2)

theorem split_of_isWhole {t : Text} (h : IsWhole t) : split t = [t] := by
  have := h [] []
  rwa [List.append_nil, splitOnto, List.append_nil, List.reverse_reverse] at this

theorem split_append_separator {t : Text} (h : IsWhole t) (rest : Text) :
    split (t ++ separator :: rest) = t :: split rest := by
  rw [split, h, splitOnto, if_pos ⟨rfl, rfl⟩, List.append_nil, List.reverse_reverse, split]

/-- **Splitting undoes joining**, if a reader is outside of quotes at both ends of every part, and
    meets no separator on the way. -/
theorem split_intercalate {parts : List Text} (hne : parts ≠ []) (h : ∀ part ∈ parts, IsWhole part) :
    split ([separator].intercalate parts) = parts := by
  induction parts with
  | nil => exact absurd rfl hne
  | cons part parts ih =>
    rw [List.forall_mem_cons] at h
    cases parts with
    | nil =>
      rw [List.intercalate_singleton]
      exact split_of_isWhole h.1
    | cons part₂ parts =>
      rw [List.intercalate_cons_cons, List.append_assoc, List.singleton_append,
        split_append_separator h.1, ih (List.cons_ne_nil _ _) h.2]

/-! ## Printed trees -/

/-- Between quotes a separator is a character like others. -/
theorem splitOnto_of_within? {place place' : Place} {t : Text} (h : place.within? t = some place')
    (piece rest : Text) :
    splitOnto place piece (t ++ rest) = splitOnto place' (t.reverse ++ piece) rest := by
  induction t generalizing place piece with
  | nil =>
    obtain rfl := Option.some.inj h
    rfl
  | cons c t ih =>
    rw [Place.within?] at h
    split at h
    case isTrue => cases h
    case isFalse hplace =>
      rw [List.cons_append, splitOnto, if_neg fun hc => hplace hc.1, ih h, List.reverse_cons,
        List.append_assoc, List.singleton_append]

theorem isWhole_singleton {c : CodePoint} (hquote : c ≠ CodePoint.doubleQuote)
    (hseparator : c ≠ separator) : IsWhole [c] := by
  intro piece rest
  rw [List.singleton_append, splitOnto, if_neg fun hc => hseparator hc.2, Place.next_outside hquote,
    List.reverse_singleton, List.singleton_append]

theorem isWhole_quoted (t : Text) : IsWhole (Json.quoted t) := by
  intro piece rest
  have hopen : ¬(Place.outside = .outside ∧ CodePoint.doubleQuote = separator) := by decide
  rw [Json.quoted, List.cons_append, splitOnto, if_neg hopen, Place.next_outside_quote,
    splitOnto_of_within? (Place.within?_quoted t), List.reverse_cons, List.append_assoc,
    List.singleton_append]

theorem isWhole_of_isWordChar {t : Text} (h : ∀ c ∈ t, Json.isWordChar c) : IsWhole t := by
  induction t with
  | nil => exact isWhole_nil
  | cons c t ih =>
    rw [List.forall_mem_cons] at h
    have hc : IsWhole [c] := isWhole_singleton (Json.ne_of_isWordChar h.1 (by decide))
      (Json.ne_of_isWordChar h.1 (by decide))
    exact hc.append (ih h.2)

theorem isWhole_of_isLexeme {piece : Text} (h : IsLexeme piece) : IsWhole piece := by
  cases h with
  | @sign c hc =>
    have hseparator : ∀ c ∈ Json.signs, CodePoint.ofChar c ≠ separator :=
      Json.forall_mem_signs.2 (by decide)
    exact isWhole_singleton (Json.ne_doubleQuote_of_mem_signs c hc) (hseparator c hc)
  | quoted text => exact isWhole_quoted text
  | word hword => exact isWhole_of_isWordChar hword

/-- **A printed tree is one piece**, whatever quotes and separators its keys and texts hold. -/
theorem isWhole_dump {node : Node} (h : node.IsPlain) : IsWhole node.dump :=
  isWhole_flatten fun piece hpiece => isWhole_of_isLexeme (h.isLexeme_of_mem piece hpiece)

/-! ## Lines -/

theorem length_dropReturn_le (line : Text) : (dropReturn line).length ≤ line.length := by
  rw [dropReturn]
  split
  · exact (List.dropLast_sublist line).length_le
  · exact le_rfl

theorem linesOf_ne_nil {t : Text} (h : t ≠ []) : linesOf t ≠ [] := by
  rw [linesOf, Ne, List.map_eq_nil_iff]
  split
  case isFalse => exact List.splitOn_ne_nil _ _
  case isTrue hlast =>
    intro hdrop
    obtain ⟨line, hline⟩ := List.getLast?_eq_some_iff.1 hlast
    rw [hline, List.dropLast_concat] at hdrop
    have hjoin : [CodePoint.lineFeed].intercalate (t.splitOn CodePoint.lineFeed) = t :=
      List.intercalate_splitOn CodePoint.lineFeed
    rw [hline, hdrop] at hjoin
    exact h hjoin.symm

/-- The lines of a text are as long as the text, and the end of the last line is beyond it. -/
theorem size_linesOf_le (t : Text) : size (linesOf t) ≤ t.length + 1 := by
  have hsize : size (t.splitOn CodePoint.lineFeed) = t.length + 1 := by
    rw [size_eq CodePoint.lineFeed (List.splitOn_ne_nil _ _), List.intercalate_splitOn]
  have hmap : ∀ lines : List Text, size (lines.map dropReturn) ≤ size lines := by
    intro lines
    rw [size, size, List.map_map]
    refine List.sum_le_sum fun line _ => ?_
    exact Nat.succ_le_succ (length_dropReturn_le line)
  rw [linesOf]
  refine (hmap _).trans ?_
  rw [← hsize]
  split
  · exact ((List.dropLast_sublist _).map _).sum_le_sum fun _ _ => Nat.zero_le _
  · exact le_rfl

/-! ## Redacted batches -/

variable {limits : Limits} {t : Text}

/-- Every line of a text within the limit gives a segment. -/
theorem value_segments (h : (t.length : Int) ≤ limits.length) :
    (segments limits t).value = (linesOf t).map fun line => (segment limits line).value := by
  have hsize := size_linesOf_le t
  rw [segments, within_eq (by omega)]
  exact List.map_map

theorem isWhole_segment (hkeep : limits.keepInvalid = false) (line : Text) :
    IsWhole (segment limits line).value := by
  rw [value_segment hkeep]
  cases hline : (Json.redactLine limits line).value with
  | none =>
    rw [Option.getD_none]
    exact isWhole_singleton (by decide) (by decide)
  | some redacted =>
    obtain ⟨node, rfl⟩ := Json.exists_of_redactLine hkeep hline
    exact isWhole_dump node.isPlain_redact

/-- **A redacted batch is taken apart into its lines.** The pieces of it between the separators
    outside of quotes are as many as there are lines, and each is the line redacted on its own, or the
    placeholder if that gives nothing. -/
theorem split_redact [Encoding.Codecs] (hkeep : limits.keepInvalid = false) {body : Text}
    (hne : Body.dropMark body ≠ []) (hl : ((Body.dropMark body).length : Int) ≤ limits.length)
    (encoding : Text) :
    ∃ redacted : Text,
      (redact limits encoding (some (.text body))).map Logged.value = .ok redacted ∧
        List.Forall₂ (fun piece line => ∃ result : Option Text,
            (Json.redact limits encoding (some (.text line))).map Logged.value = .ok result ∧
              piece = result.getD placeholder)
          (split redacted) (linesOf (Body.dropMark body)) := by
  refine ⟨_, rfl, ?_⟩
  have hparts : ∀ part ∈ (linesOf (Body.dropMark body)).map fun line => (segment limits line).value,
      IsWhole part := by
    intro part hpart
    obtain ⟨line, -, rfl⟩ := List.mem_map.1 hpart
    exact isWhole_segment hkeep line
  have hsplit : split (redactText limits (Body.dropMark body)).value =
      (linesOf (Body.dropMark body)).map fun line => (segment limits line).value := by
    rw [redactText, Logged.value_bind, Logged.value_pure, value_segments hl,
      split_intercalate (by simpa using linesOf_ne_nil hne) hparts]
  simp only [Logged.value_bind, Logged.value_pure]
  rw [hsplit, List.forall₂_map_left_iff]
  refine List.forall₂_same.2 fun line _ => ?_
  exact ⟨_, Json.redact_text limits encoding line, value_segment hkeep line⟩

/-- A key that holds a separator and a quote, a blank line, a line that is no document and holds a
    separator, and a last line with a carriage return behind it. -/
theorem split_redact_of_quoted_separator :
    ∃ redacted : Text,
      (redact {} [] (some (.text
        ("\x7b\";\\\"\":1\x7d\n\n\";\nx;y\n[2]\r" : Text)))).map Logged.value = .ok redacted ∧
        List.Forall₂ (fun piece line => ∃ result : Option Text,
            (Json.redact {} [] (some (.text line))).map Logged.value = .ok result ∧
              piece = result.getD placeholder)
          (split redacted)
          (linesOf (Body.dropMark ("\x7b\";\\\"\":1\x7d\n\n\";\nx;y\n[2]\r" : Text))) :=
  split_redact rfl (by decide) (by decide) []

end Redaction.Batch
