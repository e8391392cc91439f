/-
  Which texts are redacted as documents.

  * `Accepts limits t node`: the text `t` is a document within the limits, which is the tree `node`;
  * `value_redactDecoded_of_accepts` and `value_redactDecoded_of_not_accepts`: what becomes of a text
    that is accepted, and of one that is not;
  * `redact_some_iff_accepts`: both together, with the texts that are blank.
-/
import Redaction.Proofs.Json.Shape

namespace Redaction.Json

variable {limits : Limits} {t : Text} {node : Node}

/-- A text is a document within the limits. It is read under a limit that lets all of it through. -/
structure Accepts (limits : Limits) (t : Text) (node : Node) : Prop where
  not_blank : t.all CodePoint.isBlank = false
  length_le : (t.length : Int) ≤ limits.length
  read : parse t.length t = .ok node
  depth_le : (node.depth : Int) ≤ limits.depth

/-- A limit that lets all of a text through has no part in how it is read. -/
theorem parse_of_length_le {limit : Int} (h : (t.length : Int) ≤ limit) :
    parse limit t = parse t.length t := by
  rw [parse, parse, if_neg (by omega), if_neg (by omega)]

theorem length_le_of_parse {limit : Int} (h : parse limit t = .ok node) : (t.length : Int) ≤ limit := by
  by_contra hlong
  rw [parse, if_pos (by omega)] at h
  cases h

theorem value_redactDecoded_of_accepts (h : Accepts limits t node) :
    (redactDecoded limits t).value = some node.redact.dump := by
  have hread : parse limits.length t = .ok node := (parse_of_length_le h.length_le).trans h.read
  rw [redactDecoded_of_parse hread (.inr h.depth_le)]
  rfl

/-- A text that is read within its limit is a document that is nested too deep if it is not
    accepted. -/
theorem redactWithin_of_not_accepts (hdepth : 1 ≤ limits.depth)
    (hblank : t.all CodePoint.isBlank = false) (h : ¬ ∃ node, Accepts limits t node)
    (hread : parse limits.length t = .ok node) : node.redactWithin limits.depth = none := by
  have hlength := length_le_of_parse hread
  have hdeep : ¬ (node.depth : Int) ≤ limits.depth := by
    intro hle
    exact h ⟨node, hblank, hlength, (parse_of_length_le hlength).symm.trans hread, hle⟩
  rw [Node.redactWithin_eq]
  refine if_neg ?_
  rintro (hscalar | hle)
  · omega
  · exact hdeep hle

theorem value_redactDecoded_of_not_accepts (hdepth : 1 ≤ limits.depth)
    (hblank : t.all CodePoint.isBlank = false) (h : ¬ ∃ node, Accepts limits t node) :
    (redactDecoded limits t).value =
      if limits.keepInvalid then some (upTo limits.length t) else none := by
  have hfailed : ∃ failure, redactText limits t = .error failure := by
    unfold redactText
    cases hread : parse limits.length t with
    | error failure => exact ⟨failure, rfl⟩
    | ok node =>
      have hdeep := redactWithin_of_not_accepts hdepth hblank h hread
      exact ⟨.tooDeep limits.depth, by simp only [hdeep]⟩
  obtain ⟨failure, hfailed⟩ := hfailed
  rw [redactDecoded, hblank, hfailed]
  rfl

/-- The limits, where bodies that cannot be redacted are kept or not. -/
def Limits.keeping (limits : Limits) (keep : Bool) : Limits := { limits with keepInvalid := keep }

theorem accepts_keeping_iff {keep : Bool} :
    Accepts (limits.keeping keep) t node ↔ Accepts limits t node :=
  ⟨fun h => ⟨h.not_blank, h.length_le, h.read, h.depth_le⟩,
    fun h => ⟨h.not_blank, h.length_le, h.read, h.depth_le⟩⟩

/-- **Just the documents within the limits are redacted.** A text is redacted if, without the byte order
    mark before it, it is not blank, no longer than the limit, and read as a tree that is nested no
    deeper than the limit; this gives the print of the redacted tree. Another text is dropped, or cut
    at the limit if it is to be kept, and a blank one is always dropped. -/
theorem redact_some_iff_accepts [Encoding.Codecs] (hdepth : 1 ≤ limits.depth)
    (hlength : 1 ≤ limits.length) (encoding t : Text) :
    ((∃ r, (redact (limits.keeping false) encoding (some (.text t))).map Logged.value =
        .ok (some r)) ↔ ∃ node, Accepts limits (Body.dropMark t) node) ∧
      (∀ node, Accepts limits (Body.dropMark t) node → ∀ keep,
        (redact (limits.keeping keep) encoding (some (.text t))).map Logged.value =
          .ok (some node.redact.dump)) ∧
      ((¬ ∃ node, Accepts limits (Body.dropMark t) node) →
        (Body.dropMark t).all CodePoint.isBlank = false → ∀ keep,
          (redact (limits.keeping keep) encoding (some (.text t))).map Logged.value =
            .ok (if keep then some ((Body.dropMark t).take limits.length.toNat) else none)) ∧
      ((Body.dropMark t).all CodePoint.isBlank → ∀ keep,
        (redact (limits.keeping keep) encoding (some (.text t))).map Logged.value = .ok none) := by
  simp only [redact_text]
  obtain ⟨u, hu⟩ : ∃ u, Body.dropMark t = u := ⟨_, rfl⟩
  rw [hu]
  have haccepted : ∀ node, Accepts limits u node → ∀ keep,
      (redactDecoded (limits.keeping keep) u).value = some node.redact.dump :=
    fun node h keep => value_redactDecoded_of_accepts (accepts_keeping_iff.2 h)
  have hrejected : (¬ ∃ node, Accepts limits u node) → u.all CodePoint.isBlank = false → ∀ keep,
      (redactDecoded (limits.keeping keep) u).value =
        if keep then some (u.take limits.length.toNat) else none := by
    intro h hblank keep
    have hkeeping : 1 ≤ (limits.keeping keep).depth := hdepth
    have hnone : ¬ ∃ node, Accepts (limits.keeping keep) u node := by
      simpa only [accepts_keeping_iff]
    have hcut : upTo limits.length u = u.take limits.length.toNat := if_neg (by omega)
    rw [value_redactDecoded_of_not_accepts hkeeping hblank hnone, ← hcut]
    rfl
  have hblank : u.all CodePoint.isBlank → ∀ keep,
      (redactDecoded (limits.keeping keep) u).value = none := by
    intro hblank keep
    rw [redactDecoded, if_pos hblank]
    rfl
  refine ⟨⟨?_, ?_⟩, ?_, ?_, ?_⟩
  · rintro ⟨r, hr⟩
    have hr := Except.ok.inj hr
    by_contra hnone
    cases hall : u.all CodePoint.isBlank with
    | true => rw [hblank hall] at hr; cases hr
    | false => rw [hrejected hnone hall] at hr; cases hr
  · rintro ⟨node, h⟩
    exact ⟨_, congrArg Except.ok (haccepted node h false)⟩
  · exact fun node h keep => congrArg Except.ok (haccepted node h keep)
  · exact fun h hall keep => congrArg Except.ok (hrejected h hall keep)
  · exact fun hall keep => congrArg Except.ok (hblank hall keep)

/-- A marked document of depth two: it is redacted within that limit, and cut below it. -/
theorem redact_some_iff_accepts_of_marked :
    (redact {} [] (some (.text (CodePoint.byteOrderMark :: ("[[], 5]" : Text))))).map
        Logged.value = .ok (some ("[[],\"?\"]" : Text)) ∧
      (redact { depth := 1, length := 7, keepInvalid := true } []
        (some (.text (CodePoint.byteOrderMark :: ("[[], 5]" : Text))))).map Logged.value =
          .ok (some ("[[], 5]" : Text)) := by
  have hread : parse (("[[], 5]" : Text).length) ("[[], 5]" : Text) =
      .ok (.array [.array [], .scalar (.integer 5)]) := by cbv
  have haccepts : Accepts {} ("[[], 5]" : Text) (.array [.array [], .scalar (.integer 5)]) :=
    ⟨by decide, by decide, hread, by simp⟩
  have hdeep : ¬ ∃ node, Accepts { depth := 1, length := 7 } ("[[], 5]" : Text) node := by
    rintro ⟨node, h⟩
    have hnode := Except.ok.inj (h.read.symm.trans hread)
    have hdepth := h.depth_le
    simp [hnode] at hdepth
  have hwithin := @redact_some_iff_accepts {} _ (by decide) (by decide) []
    (CodePoint.byteOrderMark :: ("[[], 5]" : Text))
  have hbelow := @redact_some_iff_accepts { depth := 1, length := 7 } _ (by decide) (by decide) []
    (CodePoint.byteOrderMark :: ("[[], 5]" : Text))
  refine ⟨(hwithin.2.1 _ haccepts false).trans ?_, hbelow.2.2.1 hdeep (by decide) true⟩
  simp [Node.dump]
  rfl

end Redaction.Json
