/-
  The limit of a batch.

  * `within_initial`: a higher limit lets through the same lines and maybe more;
  * `segment_of_length_le`: a line that the limit lets through is redacted as if there were no limit;
  * `segments_initial`: so a higher limit gives the same segments and maybe more;
  * `placedLines t`: the lines of a text, each with the place where it ends;
  * `within_place`: a line is kept if it ends within the limit, where the carriage returns at the ends of
    the lines before it are not counted;
  * `segments_within_iff`: the kept lines are those within the first characters of the text just if this
    makes no difference.
-/
import Redaction.Batch
import Redaction.Proofs.Json.Accepted

namespace Redaction.Batch

open Json (Limits)

section Within

variable {left left' : Int} {line : Text} {lines : List Text}

/-! ## Lines that the limit lets through -/

theorem fits_iff : fits left line ↔ (line.length : Int) ≤ left := by
  rw [fits, decide_eq_true_iff]
  omega

theorem fst_withinOnto (done : List Text) (left : Int) (lines : List Text) :
    (withinOnto done left lines).1 = done.reverse ++ (within left lines).1 := by
  induction lines generalizing done left with
  | nil => simp [within, withinOnto]
  | cons line lines ih =>
    rw [within, withinOnto, withinOnto]
    split
    case isTrue => rw [ih (line :: done), ih [line]]; simp
    case isFalse => simp

theorem fst_within_cons (left : Int) (line : Text) (lines : List Text) :
    (within left (line :: lines)).1 =
      if (line.length : Int) ≤ left then line :: (within (left - (line.length + 1)) lines).1
      else [] := by
  rw [within, withinOnto]
  by_cases hfits : (line.length : Int) ≤ left
  · rw [if_pos (fits_iff.2 hfits), if_pos hfits, fst_withinOnto]
    rfl
  · rw [if_neg (mt fits_iff.1 hfits), if_neg hfits]
    rfl

theorem length_le_of_mem_within (h : line ∈ (within left lines).1) : (line.length : Int) ≤ left := by
  induction lines generalizing left with
  | nil => cases h
  | cons first lines ih =>
    rw [fst_within_cons] at h
    split at h
    case isTrue hfits =>
      rcases List.mem_cons.1 h with rfl | h
      · exact hfits
      · have := ih h
        omega
    case isFalse => cases h

/-- **A higher limit lets through the same lines**, and maybe more. -/
theorem within_initial (h : left ≤ left') (lines : List Text) :
    (within left lines).1 <+: (within left' lines).1 := by
  induction lines generalizing left left' with
  | nil => exact List.prefix_rfl
  | cons line lines ih =>
    rw [fst_within_cons, fst_within_cons]
    by_cases hfits : (line.length : Int) ≤ left
    · rw [if_pos hfits, if_pos (hfits.trans h), List.prefix_cons_inj]
      exact ih (by omega)
    · rw [if_neg hfits]
      exact List.nil_prefix

end Within

/-! ## Segments under two limits -/

section Segments

variable {limits : Limits} {m m' : Int} {line : Text}

theorem value_segments_eq (limits : Limits) (t : Text) :
    (segments limits t).value =
      (within limits.length (linesOf t)).1.map fun line => (segment limits line).value :=
  List.map_map

theorem length_dropMark_le (t : Text) : (Body.dropMark t).length ≤ t.length := by
  rw [Body.dropMark]
  split
  · rw [List.length_drop]
    omega
  · exact le_rfl

/-- A body that is a text is redacted to its segments, with separators between them. -/
theorem redact_text [Encoding.Codecs] (limits : Limits) (encoding body : Text) :
    (redact limits encoding (some (.text body))).map Logged.value =
      .ok ([separator].intercalate (segments limits (Body.dropMark body)).value) :=
  rfl

theorem upTo_of_length_le {t : Text} (h : (t.length : Int) ≤ m) : upTo m t = t := by
  rw [upTo, if_neg (by omega), List.take_of_length_le (by omega)]

/-- A limit that lets all of a line through has no part in how it is redacted. -/
theorem segment_of_length_le (hm : (line.length : Int) ≤ m) (hm' : (line.length : Int) ≤ m') :
    segment { limits with length := m } line = segment { limits with length := m' } line := by
  have hline := length_dropMark_le line
  have hlength : ((Body.dropMark line).length : Int) ≤ m := by omega
  have hlength' : ((Body.dropMark line).length : Int) ≤ m' := by omega
  have htext : Json.redactText { limits with length := m } (Body.dropMark line) =
      Json.redactText { limits with length := m' } (Body.dropMark line) := by
    rw [Json.redactText, Json.redactText, Json.parse_of_length_le hlength,
      Json.parse_of_length_le hlength']
  rw [segment, segment, Json.redactLine, Json.redactLine, Json.redactDecoded, Json.redactDecoded,
    htext, upTo_of_length_le hlength, upTo_of_length_le hlength']

theorem redactText_ne_tooLong {t : Text} (h : (t.length : Int) ≤ limits.length) (k : Int) :
    Json.redactText limits t ≠ .error (.tooLong k) := by
  rw [Json.redactText, Json.parse, if_neg (by omega)]
  cases Json.parseDocument t with
  | error halt => cases halt <;> simp [Json.Halt.failure]
  | ok node => cases hnode : node.redactWithin limits.depth <;> simp [hnode]

theorem log_segment (limits : Limits) (line : Text) :
    (segment limits line).log = (Json.redactLine limits line).log := by
  rw [segment, Logged.log_bind]
  cases (Json.redactLine limits line).value <;> simp

/-- A line that the limit lets through is not refused for its length. -/
theorem not_tooLong_of_length_le (h : (line.length : Int) ≤ limits.length) (k : Int) :
    Event.bodyUnredacted (.tooLong k) ∉ (segment limits line).log := by
  have hline := length_dropMark_le line
  have hread := @redactText_ne_tooLong limits (Body.dropMark line) (by omega) k
  rw [log_segment, Json.redactLine, Json.redactDecoded]
  split
  · simp
  · cases hredacted : Json.redactText limits (Body.dropMark line) with
    | ok redacted => simp
    | error failure =>
      intro hmem
      obtain rfl : Json.Failure.tooLong k = failure := by simpa using hmem
      exact hread hredacted

/-- **The limit of a batch only shortens it.** Under a higher limit the segments of a body are the same
    from the first on, and there may be more. A line that is kept has the same segment under both, as
    the limit on documents, which is the same, neither refuses nor cuts it. -/
theorem segments_initial [Encoding.Codecs] (h : m ≤ m') (encoding body : Text) :
    (∀ n, (redact { limits with length := n } encoding (some (.text body))).map Logged.value =
        .ok ([separator].intercalate
          (segments { limits with length := n } (Body.dropMark body)).value)) ∧
      (segments { limits with length := m } (Body.dropMark body)).value <+:
        (segments { limits with length := m' } (Body.dropMark body)).value ∧
      ∀ line ∈ (within m (linesOf (Body.dropMark body))).1,
        segment { limits with length := m } line = segment { limits with length := m' } line ∧
          (∀ k, Event.bodyUnredacted (.tooLong k) ∉ (segment { limits with length := m } line).log) ∧
          upTo m (Body.dropMark line) = Body.dropMark line := by
  have hsame : ∀ line ∈ (within m (linesOf (Body.dropMark body))).1,
      segment { limits with length := m } line = segment { limits with length := m' } line := by
    intro line hline
    have hlength := length_le_of_mem_within hline
    exact segment_of_length_le hlength (hlength.trans h)
  refine ⟨fun n => redact_text _ _ _, ?_, fun line hline => ⟨hsame line hline, ?_, ?_⟩⟩
  · rw [value_segments_eq, value_segments_eq,
      List.map_congr_left fun line hline => congrArg Logged.value (hsame line hline)]
    exact (within_initial h _).map _
  · exact not_tooLong_of_length_le (length_le_of_mem_within hline)
  · have hlength := length_le_of_mem_within hline
    have := length_dropMark_le line
    exact upTo_of_length_le (by omega)

/-- A limit behind the second of three lines, the first of which has a carriage return. The second is no
    document and is kept whole. -/
theorem segments_initial_of_invalid_line :
    (segments { keepInvalid := true, length := 6 } ("[1]\r\nx\"\n2" : Text)).value =
        [("[\"?\"]" : Text), ("x\"" : Text)] ∧
      (segments { keepInvalid := true, length := 6 } ("[1]\r\nx\"\n2" : Text)).value <+:
        (segments { keepInvalid := true, length := 99 } ("[1]\r\nx\"\n2" : Text)).value := by
  have hlimits : (6 : Int) ≤ 99 := by decide
  have hbody := @segments_initial { keepInvalid := true } 6 99 _ hlimits [] ("[1]\r\nx\"\n2" : Text)
  exact ⟨by cbv, hbody.2.1⟩

end Segments

section Placed

/-! ## Where lines end -/

/-- A line, and where it ends. -/
structure PlacedLine where
  /-- The line as it is redacted. -/
  line : Text
  /-- How many characters of the text there are up to the end of the line. A line feed, and a carriage
      return before it, are not part of the line. -/
  stop : Nat
  /-- How many of them are carriage returns that are not counted against the limit. -/
  returns : Nat

/-- One for a carriage return at the end of a line. -/
def returnsAt (line : Text) : Nat :=
  if line.getLast? = some CodePoint.carriageReturn then 1 else 0

/-- The lines that start at a place, given as the pieces between line feeds. A carriage return at the end
    of the last piece is part of its line, as no line feed follows. -/
def place (start returns : Nat) : List Text → List PlacedLine
  | [] => []
  | [last] =>
    if last = [] then []
    else [⟨dropReturn last, start + last.length, returns + returnsAt last⟩]
  | line :: next :: lines =>
    ⟨dropReturn line, start + (dropReturn line).length, returns⟩ ::
      place (start + line.length + 1) (returns + returnsAt line) (next :: lines)

/-- The lines of a text with their places. -/
def placedLines (t : Text) : List PlacedLine := place 0 0 (t.splitOn CodePoint.lineFeed)

variable {start returns : Nat} {pieces : List Text} {t : Text}

theorem length_dropReturn (line : Text) :
    (dropReturn line).length + returnsAt line = line.length := by
  rw [dropReturn, returnsAt]
  split
  case isTrue hlast =>
    have hne : line ≠ [] := by
      rintro rfl
      cases hlast
    have := List.length_pos_iff.2 hne
    rw [List.length_dropLast]
    omega
  case isFalse => rfl

theorem map_line_place (start returns : Nat) (pieces : List Text) :
    (place start returns pieces).map PlacedLine.line =
      (if pieces.getLast? = some [] then pieces.dropLast else pieces).map dropReturn := by
  fun_induction place start returns pieces with
  | case1 | case2 => rfl
  | case3 start returns last hlast => simp [hlast]
  | case4 start returns line next lines ih =>
    rw [List.map_cons, ih, List.getLast?_cons_cons, List.dropLast_cons_cons]
    split <;> rfl

/-- The lines with their places are the lines of the text. -/
theorem map_line_placedLines (t : Text) : (placedLines t).map PlacedLine.line = linesOf t :=
  map_line_place 0 0 _

/-- A line stands in a text that starts at a place: behind the start or a line feed, and before the end of
    the line or of the text. -/
def PlacedLine.StandsIn (l : PlacedLine) (start : Nat) (t : Text) : Prop :=
  ∃ before content behind, t = before ++ content ++ behind ∧
    l.stop = start + (before ++ content).length ∧
    (before = [] ∨ before.getLast? = some CodePoint.lineFeed) ∧
    ((content = l.line ∧ (behind = [] ∨ behind.head? = some CodePoint.lineFeed ∨
        ("\r\n" : Text) <+: behind)) ∨
      (content = l.line ++ ("\r" : Text) ∧ behind = []))

theorem dropReturn_append (line : Text) :
    line = dropReturn line ++ if returnsAt line = 0 then [] else ("\r" : Text) := by
  rw [dropReturn, returnsAt]
  split
  case isTrue hlast =>
    obtain ⟨front, rfl⟩ := List.getLast?_eq_some_iff.1 hlast
    rw [List.dropLast_concat]
    rfl
  case isFalse => simp

theorem standsIn_of_mem_place {l : PlacedLine} (h : l ∈ place start returns pieces) :
    l.StandsIn start ([CodePoint.lineFeed].intercalate pieces) := by
  fun_induction place start returns pieces with
  | case1 | case2 => cases h
  | case3 start returns last =>
    obtain rfl := List.mem_singleton.1 h
    have hline := dropReturn_append last
    refine ⟨[], last, [], by simp, rfl, .inl rfl, ?_⟩
    split at hline
    · exact .inl ⟨by rwa [List.append_nil] at hline, .inl rfl⟩
    · exact .inr ⟨hline, rfl⟩
  | case4 start returns line next lines ih =>
    have hline := dropReturn_append line
    rw [List.intercalate_cons_cons]
    rcases List.mem_cons.1 h with rfl | h
    · refine ⟨[], dropReturn line, (if returnsAt line = 0 then [] else ("\r" : Text)) ++
        CodePoint.lineFeed :: [CodePoint.lineFeed].intercalate (next :: lines), ?_, rfl, .inl rfl,
        .inl ⟨rfl, .inr ?_⟩⟩
      · rw [List.nil_append, ← List.append_assoc, ← hline, List.append_assoc, List.singleton_append]
      · split
        · exact .inl rfl
        · exact .inr ⟨_, rfl⟩
    · obtain ⟨before, content, behind, htext, hstop, hbefore, hbehind⟩ := ih h
      refine ⟨line ++ CodePoint.lineFeed :: before, content, behind, ?_, ?_, .inr ?_, hbehind⟩
      · simp [htext]
      · simp only [hstop, List.length_append, List.length_cons]
        omega
      · rw [List.getLast?_append, List.getLast?_cons]
        rcases hbefore with rfl | hbefore
        · rfl
        · rw [hbefore]
          rfl

/-- The lines of a text end where their places say. -/
theorem standsIn_of_mem_placedLines {l : PlacedLine} (h : l ∈ placedLines t) : l.StandsIn 0 t := by
  have hline := standsIn_of_mem_place h
  rwa [List.intercalate_splitOn] at hline

/-- **A line is kept if it ends within the limit**, where carriage returns are not counted. -/
theorem within_place (limit : Int) (start returns : Nat) (pieces : List Text) :
    (within (limit + returns - start) ((place start returns pieces).map PlacedLine.line)).1 =
      ((place start returns pieces).takeWhile fun l => l.stop ≤ limit + l.returns).map
        PlacedLine.line := by
  fun_induction place start returns pieces with
  | case1 | case2 => rfl
  | case3 start returns last =>
    have hlength := length_dropReturn last
    have hstop : ((start + last.length : Nat) : Int) ≤ limit + (returns + returnsAt last : Nat) ↔
        ((dropReturn last).length : Int) ≤ limit + returns - start := by omega
    rw [List.map_singleton, fst_within_cons]
    simp only [List.takeWhile_cons, hstop, decide_eq_true_iff]
    split <;> rfl
  | case4 start returns line next lines ih =>
    have hlength := length_dropReturn line
    have hstop : ((start + (dropReturn line).length : Nat) : Int) ≤ limit + returns ↔
        ((dropReturn line).length : Int) ≤ limit + returns - start := by omega
    have hrest : limit + returns - start - ((dropReturn line).length + 1) =
        limit + (returns + returnsAt line : Nat) - (start + line.length + 1 : Nat) := by omega
    rw [List.map_cons, fst_within_cons, hrest, ih]
    simp only [List.takeWhile_cons, hstop, decide_eq_true_iff]
    split <;> rfl

/-- Behind the place where lines start, at least so many characters are counted. -/
theorem le_stop_of_mem_place {l : PlacedLine} (h : l ∈ place start returns pieces) :
    start + l.returns ≤ l.stop + returns := by
  fun_induction place start returns pieces with
  | case1 | case2 => cases h
  | case3 start returns last =>
    have hlength := length_dropReturn last
    obtain rfl := List.mem_singleton.1 h
    simp only
    omega
  | case4 start returns line next lines ih =>
    have hlength := length_dropReturn line
    rcases List.mem_cons.1 h with rfl | h
    · simp only
      omega
    · have := ih h
      omega

/-- If a line ends within the limit, so do those before it, the carriage returns counted or not. -/
theorem pairwise_place (limit : Int) (start returns : Nat) (pieces : List Text) :
    (place start returns pieces).Pairwise fun a b =>
      b.stop ≤ limit + b.returns → a.stop ≤ limit + a.returns := by
  fun_induction place start returns pieces with
  | case1 | case2 => exact .nil
  | case3 => exact List.pairwise_singleton _ _
  | case4 start returns line next lines ih =>
    have hlength := length_dropReturn line
    refine List.pairwise_cons.2 ⟨fun l hl hstop => ?_, ih⟩
    have := le_stop_of_mem_place hl
    simp only
    omega

theorem length_takeWhile_eq_iff {α : Type} {p q : α → Bool} {l : List α}
    (hq : l.Pairwise fun a b => q b → q a) (hpq : ∀ a ∈ l, p a → q a) :
    (l.takeWhile p).length = (l.takeWhile q).length ↔ ∀ a ∈ l, q a → p a := by
  induction l with
  | nil => simp
  | cons a l ih =>
    rw [List.pairwise_cons] at hq
    rw [List.forall_mem_cons] at hpq ⊢
    by_cases hp : p a
    · rw [List.takeWhile_cons_of_pos hp, List.takeWhile_cons_of_pos (hpq.1 hp), List.length_cons,
        List.length_cons, Nat.add_right_cancel_iff, ih hq.2 hpq.2]
      simp [hp]
    · rw [List.takeWhile_cons_of_neg hp]
      by_cases hqa : q a
      · simp [List.takeWhile_cons_of_pos hqa, hqa, hp]
      · rw [List.takeWhile_cons_of_neg hqa]
        simp only [true_iff]
        exact ⟨fun h => absurd h hqa, fun b hb h => absurd (hq.1 b hb h) hqa⟩

/-- So two such runs are as long, and the same, just if the weaker test lets no more through. -/
theorem map_takeWhile_eq_iff {α β : Type} (f : α → β) {p q : α → Bool} {l : List α}
    (hq : l.Pairwise fun a b => q b → q a) (hpq : ∀ a ∈ l, p a → q a) :
    (∀ a ∈ l, q a → p a) ↔ (l.takeWhile q).map f = (l.takeWhile p).map f := by
  rw [← length_takeWhile_eq_iff hq hpq]
  constructor
  · intro hlength
    have hinitial := List.prefix_of_prefix_length_le (List.takeWhile_prefix p) (List.takeWhile_prefix q)
      (Nat.le_of_eq hlength)
    rw [hinitial.eq_of_length hlength]
  · intro hmap
    simpa using congrArg List.length hmap.symm

/-- What becomes of a line in its place. -/
def PlacedLine.segment (limits : Limits) (l : PlacedLine) : Text := (Batch.segment limits l.line).value

theorem value_segments_placed (limits : Limits) (t : Text) :
    (segments limits t).value =
      ((placedLines t).takeWhile fun l => l.stop ≤ limits.length + l.returns).map
        (PlacedLine.segment limits) := by
  have hkept := within_place limits.length 0 0 (t.splitOn CodePoint.lineFeed)
  rw [← placedLines, map_line_placedLines, Int.natCast_zero, add_zero, sub_zero] at hkept
  rw [value_segments_eq, hkept, List.map_map]
  rfl

/-- **The lines that are kept.** The segments of a batch are those of the lines from the first on that end
    within the limit, where the carriage returns at the ends of the lines before are not counted. They
    are those of the lines within the first characters of the text, as many as the limit says, just if
    no line ends beyond these by no more than the carriage returns that are not counted. -/
theorem segments_within_iff [Encoding.Codecs] (limits : Limits) (encoding body : Text) :
    (redact limits encoding (some (.text body))).map Logged.value =
        .ok ([separator].intercalate (segments limits (Body.dropMark body)).value) ∧
      (∀ l ∈ placedLines (Body.dropMark body), l.StandsIn 0 (Body.dropMark body)) ∧
      (segments limits (Body.dropMark body)).value =
        ((placedLines (Body.dropMark body)).takeWhile fun l =>
          l.stop ≤ limits.length + l.returns).map (PlacedLine.segment limits) ∧
      ((segments limits (Body.dropMark body)).value =
          ((placedLines (Body.dropMark body)).takeWhile fun l =>
            l.stop ≤ limits.length).map (PlacedLine.segment limits) ↔
        ∀ l ∈ placedLines (Body.dropMark body),
          l.stop ≤ limits.length + l.returns → l.stop ≤ limits.length) := by
  have hkept := value_segments_placed limits (Body.dropMark body)
  refine ⟨rfl, fun l => standsIn_of_mem_placedLines, hkept, ?_⟩
  rw [hkept, ← map_takeWhile_eq_iff (PlacedLine.segment limits)]
  · simp only [decide_eq_true_iff]
  · simp only [decide_eq_true_iff]
    exact pairwise_place limits.length 0 0 _
  · intro l _ hstop
    simp only [decide_eq_true_iff] at hstop ⊢
    omega

/-- A carriage return that is not counted lets a line through that ends beyond the limit. -/
theorem kept_beyond_limit_of_return :
    (redact { length := 3 } [] (some (.text ("1\r\n2" : Text)))).map Logged.value ≠
      .ok ([separator].intercalate (((placedLines ("1\r\n2" : Text)).takeWhile fun l =>
        (l.stop : Int) ≤ 3).map (PlacedLine.segment { length := 3 }))) := by
  have hkept : (redact { length := 3 } [] (some (.text ("1\r\n2" : Text)))).map Logged.value =
      .ok ("\"?\";\"?\"" : Text) := by cbv
  have hwithin : [separator].intercalate (((placedLines ("1\r\n2" : Text)).takeWhile fun l =>
      (l.stop : Int) ≤ 3).map (PlacedLine.segment { length := 3 })) = ("\"?\"" : Text) := by cbv
  rw [hkept, hwithin]
  decide

end Placed

end Redaction.Batch
