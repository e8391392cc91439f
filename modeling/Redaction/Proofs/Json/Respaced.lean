/-
  Blanks put into a document.

  * `Respaced place last s t`: the text `t` is `s` with blanks put in, outside of quoted texts and next
    to a sign or the border of the document;
  * `respaced_dump_iff`: in a printed tree these are the places between, before and behind its pieces;
  * `parse_of_respaced`: a tree is read back from its print, whatever blanks are put in.
-/
import Redaction.Proofs.Json.Lexeme

namespace Redaction.Json

open Batch (Place)

/-- A sign, or the border of a document: blanks may stand next to it. -/
def isBorder (c : Option CodePoint) : Bool :=
  c.all fun c => signs.any fun sign => CodePoint.ofChar sign = c

/-- The text `t` is `s` with blanks put in. The first character of `s` stands at a place, behind the
    character `last`. -/
inductive Respaced : Place → Option CodePoint → Text → Text → Prop
  | nil {place last} : Respaced place last [] []
  | keep {place last c s t} : Respaced (place.next c) (some c) s t →
      Respaced place last (c :: s) (c :: t)
  | insert {last s b t} : isBorder last ∨ isBorder s.head? → isSpace b →
      Respaced .outside last s t → Respaced .outside last s (b :: t)

section Respaced

variable {place : Place} {last : Option CodePoint} {u s t : Text} {piece : Text}
  {pieces : List Text}

/-! ## From a text with blanks to its pieces -/

theorem Respaced.blanks (h : Respaced place last [] t) : ∀ b ∈ t, isSpace b := by
  generalize hs : ([] : Text) = s at h
  induction h with
  | nil => simp
  | keep => cases hs
  | insert _ hb _ ih => exact List.forall_mem_cons.2 ⟨hb, ih hs⟩

/-- Blanks come first, and then the text goes on. -/
theorem Respaced.skip {c : CodePoint} (h : Respaced place last (c :: s) t) :
    ∃ blanks t', (∀ b ∈ blanks, isSpace b) ∧ t = blanks ++ c :: t' ∧
      Respaced (place.next c) (some c) s t' := by
  generalize hs : c :: s = s' at h
  induction h with
  | nil => cases hs
  | @keep _ _ _ _ t' h =>
    cases hs
    exact ⟨[], t', by simp, rfl, h⟩
  | @insert _ _ b _ _ hb _ ih =>
    obtain ⟨blanks, t', hblanks, rfl, h⟩ := ih hs
    exact ⟨b :: blanks, t', List.forall_mem_cons.2 ⟨hb, hblanks⟩, rfl, h⟩

/-- Between quotes nothing is put in. -/
theorem Respaced.within (h : Respaced place last (u ++ s) t) {place' : Place}
    (hu : place.within? u = some place') :
    ∃ t', t = u ++ t' ∧ Respaced place' (u.getLast?.or last) s t' := by
  induction u generalizing place last t with
  | nil =>
    obtain rfl := Option.some.inj hu
    exact ⟨t, rfl, h⟩
  | cons c u ih =>
    rw [Place.within?] at hu
    split at hu
    case isTrue => cases hu
    case isFalse hplace =>
      cases h with
      | insert => exact absurd rfl hplace
      | keep h =>
        obtain ⟨t', rfl, hrest⟩ := ih h hu
        refine ⟨t', rfl, ?_⟩
        rw [List.getLast?_cons]
        cases hlast : u.getLast? with
        | none => rwa [hlast] at hrest
        | some d => rwa [hlast] at hrest

theorem isBorder_of_isWordChar {c : CodePoint} (h : isWordChar c) : isBorder (some c) = false := by
  have hsigns : ∀ sign ∈ signs, isWordChar (CodePoint.ofChar sign) = false :=
    forall_mem_signs.2 (by decide)
  by_contra hborder
  obtain ⟨sign, hmem, hc⟩ : ∃ sign ∈ signs, CodePoint.ofChar sign = c := by
    simpa [isBorder] using hborder
  exact ne_of_isWordChar h (hsigns sign hmem) hc.symm

theorem next_of_isWordChar {c : CodePoint} (h : isWordChar c) :
    Place.next .outside c = .outside :=
  Place.next_outside (ne_of_isWordChar h (by decide))

/-- Nor is anything put into a word. -/
theorem Respaced.word {c : CodePoint} (hu : ∀ d ∈ c :: u, isWordChar d)
    (h : Respaced .outside (some c) (u ++ s) t) :
    ∃ t', t = u ++ t' ∧ Respaced .outside (c :: u).getLast? s t' := by
  induction u generalizing c t with
  | nil => exact ⟨t, rfl, h⟩
  | cons d u ih =>
    rw [List.forall_mem_cons] at hu
    have hd := hu.2 d List.mem_cons_self
    cases h with
    | insert hborder =>
      rw [isBorder_of_isWordChar hu.1, List.cons_append, List.head?_cons,
        isBorder_of_isWordChar hd] at hborder
      simp at hborder
    | keep h =>
      rw [next_of_isWordChar hd] at h
      obtain ⟨t', rfl, hrest⟩ := ih hu.2 h
      exact ⟨t', rfl, by rwa [List.getLast?_cons_cons]⟩

/-- **Nothing is put into a piece**, but before it. -/
theorem IsLexeme.respaced (hp : IsLexeme piece) (h : Respaced .outside last (piece ++ s) t) :
    ∃ blanks t', (∀ b ∈ blanks, isSpace b) ∧ t = blanks ++ piece ++ t' ∧
      Respaced .outside piece.getLast? s t' := by
  cases hp with
  | @sign c hc =>
    obtain ⟨blanks, t', hblanks, rfl, hrest⟩ := h.skip
    rw [Place.next_outside (ne_doubleQuote_of_mem_signs c hc)] at hrest
    exact ⟨blanks, t', hblanks, by simp [Json.sign], hrest⟩
  | quoted text =>
    obtain ⟨blanks, t', hblanks, rfl, hrest⟩ := h.skip
    rw [Place.next_outside_quote] at hrest
    obtain ⟨t', rfl, hend⟩ := hrest.within (Place.within?_quoted text)
    refine ⟨blanks, t', hblanks, by simp [Json.quoted], ?_⟩
    rw [Json.quoted, List.getLast?_cons, List.getLast?_concat]
    rwa [List.getLast?_concat] at hend
  | @word c u hword =>
    obtain ⟨blanks, t', hblanks, rfl, hrest⟩ := h.skip
    rw [next_of_isWordChar (hword c List.mem_cons_self)] at hrest
    obtain ⟨t', rfl, hend⟩ := hrest.word hword
    exact ⟨blanks, t', hblanks, by simp, hend⟩

/-- A text with blanks is made of its pieces, with blanks before and behind them. -/
theorem spaced_of_respaced (hp : ∀ piece ∈ pieces, IsLexeme piece)
    (h : Respaced .outside last pieces.flatten t) :
    ∃ t' blanks, Spaced pieces t' ∧ (∀ b ∈ blanks, isSpace b) ∧ t = t' ++ blanks := by
  induction pieces generalizing last t with
  | nil => exact ⟨[], t, .nil, h.blanks, rfl⟩
  | cons piece pieces ih =>
    rw [List.forall_mem_cons] at hp
    obtain ⟨before, t', hbefore, rfl, hrest⟩ := hp.1.respaced h
    obtain ⟨t', blanks, hspaced, hblanks, rfl⟩ := ih hp.2 hrest
    exact ⟨_, blanks, .cons hbefore hspaced, hblanks, by simp⟩

/-! ## From pieces with blanks to a text with blanks -/

/-- Pieces of which every two neighbours have a sign among them. -/
def Linked : Option CodePoint → List Text → Prop
  | _, [] => True
  | last, piece :: pieces =>
    (isBorder last ∨ isBorder piece.head?) ∧ Linked piece.getLast? pieces

theorem isBorder_sign {c : Char} (hc : c ∈ signs) : isBorder (some (CodePoint.ofChar c)) := by
  simp only [isBorder, Option.all_some, List.any_eq_true, decide_eq_true_eq]
  exact ⟨c, hc, rfl⟩

theorem linked_sign {c : Char} (hc : c ∈ signs)
    (h : Linked (some (CodePoint.ofChar c)) pieces) (last : Option CodePoint) :
    Linked last (sign c :: pieces) :=
  ⟨.inr (isBorder_sign hc), h⟩

/-- Groups of pieces are linked by the signs between them. -/
theorem linked_intercalate {groups : List (List Text)}
    (hgroups : ∀ group ∈ groups, ∀ last pieces, isBorder last → (∀ last, Linked last pieces) →
      Linked last (group ++ pieces))
    (hlast : isBorder last) (h : ∀ last, Linked last pieces) :
    Linked last ([sign ','].intercalate groups ++ pieces) := by
  induction groups generalizing last with
  | nil => exact h last
  | cons group groups ih =>
    rw [List.forall_mem_cons] at hgroups
    cases groups with
    | nil =>
      rw [List.intercalate_singleton]
      exact hgroups.1 last pieces hlast h
    | cons group₂ groups =>
      rw [List.intercalate_cons_cons, List.append_assoc, List.append_assoc]
      refine hgroups.1 last _ hlast fun last => ?_
      exact linked_sign (by decide) (ih hgroups.2 (isBorder_sign (by decide))) last

/-- **The pieces of a tree are linked**: two that are no signs never touch. -/
theorem Node.linked_lexemes (node : Node) (hlast : isBorder last)
    (h : ∀ last, Linked last pieces) : Linked last (node.lexemes ++ pieces) := by
  induction node using Node.induction generalizing last pieces with
  | ofScalar s =>
    rw [lexemes_scalar]
    exact ⟨.inl hlast, h _⟩
  | ofArray items ih =>
    rw [lexemes_array, List.append_assoc, List.cons_append]
    refine linked_sign (by decide) ?_ last
    refine linked_intercalate ?_ (isBorder_sign (by decide)) fun last =>
      linked_sign (by decide) (h _) last
    intro group hgroup last pieces hlast h
    obtain ⟨item, hitem, rfl⟩ := List.mem_map.1 hgroup
    exact ih item hitem hlast h
  | ofObject entries ih =>
    rw [lexemes_object, List.append_assoc, List.cons_append]
    refine linked_sign (by decide) ?_ last
    refine linked_intercalate ?_ (isBorder_sign (by decide)) fun last =>
      linked_sign (by decide) (h _) last
    intro group hgroup last pieces hlast h
    obtain ⟨entry, hentry, rfl⟩ := List.mem_map.1 hgroup
    refine ⟨.inl hlast, linked_sign (by decide) ?_ _⟩
    exact ih entry hentry (isBorder_sign (by decide)) h

theorem Respaced.keep_append
    (h : Respaced (u.foldl Place.next place) (u.getLast?.or last) s t) :
    Respaced place last (u ++ s) (u ++ t) := by
  induction u generalizing place last with
  | nil => exact h
  | cons c u ih =>
    refine .keep (ih ?_)
    rw [List.getLast?_cons] at h
    cases hlast : u.getLast? with
    | none => rwa [hlast] at h
    | some d => rwa [hlast] at h

theorem Respaced.insert_append {blanks : Text} (hblanks : ∀ b ∈ blanks, isSpace b)
    (hborder : isBorder last ∨ isBorder s.head?) (h : Respaced .outside last s t) :
    Respaced .outside last s (blanks ++ t) := by
  induction blanks with
  | nil => exact h
  | cons b blanks ih =>
    rw [List.forall_mem_cons] at hblanks
    exact .insert hborder hblanks.1 (ih hblanks.2)

theorem foldl_next_word (hu : ∀ d ∈ u, isWordChar d) :
    u.foldl Place.next .outside = .outside := by
  induction u with
  | nil => rfl
  | cons d u ih =>
    rw [List.forall_mem_cons] at hu
    rw [List.foldl_cons, next_of_isWordChar hu.1]
    exact ih hu.2

/-- Behind a piece a reader stands outside of quotes. -/
theorem IsLexeme.foldl_next (h : IsLexeme piece) :
    piece ≠ [] ∧ piece.foldl Place.next .outside = .outside := by
  cases h with
  | @sign c hc =>
    exact ⟨List.cons_ne_nil _ _, Place.next_outside (ne_doubleQuote_of_mem_signs c hc)⟩
  | quoted text =>
    refine ⟨List.cons_ne_nil _ _, ?_⟩
    rw [Json.quoted, List.foldl_cons, Place.next_outside_quote]
    exact Place.foldl_next_of_within? (Place.within?_quoted text)
  | @word c u hword =>
    exact ⟨List.cons_ne_nil _ _, foldl_next_word hword⟩

theorem respaced_of_spaced {blanks : Text} (hp : ∀ piece ∈ pieces, IsLexeme piece)
    (hlinked : Linked last pieces) (h : Spaced pieces t) (hblanks : ∀ b ∈ blanks, isSpace b) :
    Respaced .outside last pieces.flatten (t ++ blanks) := by
  induction h generalizing last with
  | nil =>
    have hnil : Respaced .outside last [] [] := .nil
    have hend := Respaced.insert_append hblanks (.inr rfl) hnil
    rwa [List.append_nil] at hend
  | @cons before piece pieces t hbefore _ ih =>
    rw [List.forall_mem_cons] at hp
    obtain ⟨hborder, hlinked⟩ := hlinked
    obtain ⟨hne, hplace⟩ := hp.1.foldl_next
    obtain ⟨c, u, rfl⟩ := List.exists_cons_of_ne_nil hne
    rw [List.flatten_cons, List.append_assoc, List.append_assoc]
    refine Respaced.insert_append hbefore hborder (Respaced.keep_append ?_)
    rw [hplace, List.getLast?_cons, Option.some_or]
    rw [List.getLast?_cons] at hlinked
    exact ih hp.2 hlinked

end Respaced

/-! ## Trees -/

/-- **Blanks are put into a printed tree** between its pieces, before and behind them. -/
theorem respaced_dump_iff {node : Node} (h : node.IsPlain) {t : Text} :
    Respaced .outside none node.dump t ↔
      ∃ t' blanks, Spaced node.lexemes t' ∧ (∀ b ∈ blanks, isSpace b) ∧ t = t' ++ blanks := by
  constructor
  · exact spaced_of_respaced h.isLexeme_of_mem
  · rintro ⟨t', blanks, hspaced, hblanks, rfl⟩
    have hlinked : Linked none (node.lexemes ++ []) := node.linked_lexemes rfl fun _ => trivial
    rw [List.append_nil] at hlinked
    exact respaced_of_spaced h.isLexeme_of_mem hlinked hspaced hblanks

/-- **Reading undoes printing under any layout.** A tree whose numbers are integers that are not too
    long is read back from its print, wherever blanks are put between the signs, texts, words and
    numbers of it. -/
theorem parse_of_respaced {node : Node} (h : node.IsPlain) (hd : node.depth < 150) {t : Text}
    (ht : Respaced .outside none node.dump t) {limit : Int} (hl : t.length ≤ limit) :
    parse limit t = .ok node := by
  obtain ⟨t', blanks, hspaced, hblanks, rfl⟩ := (respaced_dump_iff h).1 ht
  exact parse_spaced h (by rw [nestingLimit]; omega) hspaced hblanks hl

/-- A key with a quote in it, a negative number, and blanks of every sort. -/
theorem parse_of_respaced_of_object :
    Respaced .outside none (Node.object [(['"'], .array [.scalar (.integer (-7)), .scalar .null])]).dump
        (" \x7b\"\\\"\"\t:[-7\r\n, null]\x7d\n" : Text) ∧
      parse 100 (" \x7b\"\\\"\"\t:[-7\r\n, null]\x7d\n" : Text) =
        .ok (Node.object [(['"'], .array [.scalar (.integer (-7)), .scalar .null])]) := by
  have hsmall : Scalar.IsPlain (.integer (-7)) :=
    Nat.lt_of_lt_of_le (by decide) (Nat.pow_le_pow_right (by decide) (by decide : 2 ≤ 4300))
  have hplain : (Node.object [(['"'], .array [.scalar (.integer (-7)), .scalar .null])]).IsPlain := by
    refine .object ?_
    rintro _ (_ | ⟨_, ⟨⟩⟩)
    refine .array ?_
    rintro _ (_ | ⟨_, _ | ⟨_, ⟨⟩⟩⟩)
    · exact .scalar hsmall
    · exact .scalar trivial
  have hrespaced : Respaced .outside none
      (Node.object [(['"'], .array [.scalar (.integer (-7)), .scalar .null])]).dump
      (" \x7b\"\\\"\"\t:[-7\r\n, null]\x7d\n" : Text) := by
    have hdump :
        (Node.object [(['"'], .array [.scalar (.integer (-7)), .scalar .null])]).dump =
          (['{', '"', '\\', '"', '"', ':', '[', '-', '7', ',', 'n', 'u', 'l', 'l', ']', '}'] :
            Text) := by cbv
    have htext : (" \x7b\"\\\"\"\t:[-7\r\n, null]\x7d\n" : Text) =
        ([' ', '{', '"', '\\', '"', '"', '\t', ':', '[', '-', '7', '\r', '\n', ',', ' ', 'n',
          'u', 'l', 'l', ']', '}', '\n'] : Text) := by cbv
    rw [hdump, htext]
    repeat first
      | exact Respaced.nil
      | refine Respaced.keep ?_
      | refine Respaced.insert (by decide) (by decide) ?_
  exact ⟨hrespaced, parse_of_respaced hplain (by simp) hrespaced (by decide)⟩

end Redaction.Json
