/-
  Documents in requests.

  A document in a request is decoded twice, and loses a byte order mark each time.

  * `ContentType.read?_documentHeader`: the type of documents is read as such;
  * `Request.value_redactBody_ofDocument` and `Request.sanitized_ofDocument`: what becomes of a document
    in a request, and what is captured of it;
  * `Request.CapturesAlike`: it is what the document becomes on its own;
  * `Json.redacted_behind_mark_iff`: when a text behind a byte order mark becomes what it becomes
    without it;
  * `documents_captured_alike_iff`: so documents are captured alike unless a second mark stands
    before them.
-/
import Redaction.Proofs.Encoding
import Redaction.Proofs.Json.Accepted
import Redaction.Proofs.Json.Printed

namespace Redaction

/-! ## The type of documents -/

namespace ContentType

theorem encodeEach_flatMap_keptBytes {t : Text} (h : ∀ c ∈ t, c.isSurrogate = false) :
    Encoding.encodeEach Encoding.utf8Bytes t = some (t.flatMap keptBytes) := by
  induction t with
  | nil => rfl
  | cons c t ih =>
    rw [List.forall_mem_cons] at h
    have hkept : Encoding.keptByte? c = none := by
      have hc := h.1
      simp only [CodePoint.isSurrogate, Bool.and_eq_false_iff, decide_eq_false_iff_not] at hc
      exact if_neg (by omega)
    obtain ⟨bytes, hbytes⟩ := Encoding.exists_utf8Bytes h.1
    refine Encoding.encodeEach_cons_eq_some_iff.2 ⟨bytes, _, hbytes, ih h.2, ?_⟩
    rw [List.flatMap_cons, keptBytes, hkept, hbytes]
    rfl

/-- A text without surrogates keeps no bytes that could be restored. -/
theorem restoreBytes_eq {t : Text} (h : ∀ c ∈ t, c.isSurrogate = false) : restoreBytes t = t := by
  have hwritten : (Encoding.utf8 false).encode? t = some (t.flatMap keptBytes) :=
    encodeEach_flatMap_keptBytes h
  have hread := Encoding.decodeTreating_encode? hwritten Encoding.replacing
  rw [restoreBytes, hread]
  rfl

/-- The header of documents. -/
def documentHeader : Text := ("application/json" : Text)

/-- The type that it names. -/
def documentType : MediaType := ⟨("application" : Text), ("json" : Text)⟩

theorem read?_documentHeader [Encoding.Codecs] : read? (some documentHeader) = .ok (some ⟨documentType, none⟩) := by
  have htype : readMediaType documentHeader = .ok (documentType, []) := rfl
  have hrestored : restoreType documentType = documentType := by
    rw [restoreType, restoreBytes_eq (by decide), restoreBytes_eq (by decide)]
  have hread : read documentHeader = .ok ⟨restoreType documentType, none⟩ := by
    rw [read, htype]
    rfl
  rw [hrestored] at hread
  have hfilled : documentHeader ≠ [] := by decide
  rw [read?, hread]
  · rfl
  · exact hfilled

end ContentType

theorem BodyFormat.ofType?_documentType (endpoint : Text) :
    ofType? ContentType.documentType endpoint = some (ofEndpoint endpoint) := by
  have hmain : ContentType.documentType.main = mainType := rfl
  have hbatch : ContentType.documentType.formats.contains batchName = false := by cbv
  have hdocument : ContentType.documentType.formats.contains documentName = true := by cbv
  rw [ofType?, if_neg (not_not.2 hmain), hbatch, hdocument]
  rfl

/-! ## What is captured -/

/-- The same options with another limit on captured statements. -/
def Options.withMaxLength (options : Options) (limit : Nat) (hlimit : 0 < limit) : Options :=
  { options with maxLength := limit, maxLength_pos := hlimit }

namespace Request

variable {options : Options} {method endpoint body : Text}

/-- A request that sends a text as a document. -/
def ofDocument (method endpoint body : Text) : Request :=
  ⟨method, endpoint, some (.text body), some ContentType.documentHeader⟩

/-- A document is redacted without the two byte order marks that may stand before it: the request drops
    one, and redaction another. -/
theorem value_redactBody_ofDocument [Encoding.Codecs] (hbatch : Endpoint.takesBatch endpoint = false) :
    ((ofDocument method endpoint body).redactBody options).value =
      .ok (Json.redactDecoded options.limits (Body.dropMark (Body.dropMark body))).value := by
  have hformat : BodyFormat.ofEndpoint endpoint = .document := by
    rw [BodyFormat.ofEndpoint, hbatch]
    rfl
  cases body with
  | nil => rfl
  | cons c rest =>
    simp only [redactBody, redactPayload, ofDocument, Payload.isEmpty, List.isEmpty_cons,
      Bool.false_eq_true, if_false, ContentType.read?_documentHeader, Body.decode, Option.map_some,
      BodyFormat.detect?, BodyFormat.ofType?_documentType, hformat, redactText, Json.redactLine,
      Logged.value_bind, Logged.value_pure]

theorem sanitized_ofDocument [Encoding.Codecs] (hcapture : options.captureStatement.isTruthy = true)
    (hbatch : Endpoint.takesBatch endpoint = false) :
    (captureRequest options (ofDocument method endpoint body)).value.map Statement.sanitized =
      .ok (some (.text (abridge cutMarker options.maxLength
        ((ofDocument method endpoint body).shown
          (Json.redactDecoded options.limits (Body.dropMark (Body.dropMark body))).value)))) := by
  simp only [captureRequest, if_pos hcapture, Logged.value_bind, value_redactBody_ofDocument hbatch,
    Logged.value_pure]
  rfl

/-- A document in a request is captured as it is redacted on its own: made fit for the limit, and with
    verb and path for it where nothing comes of it. -/
def CapturesAlike [Encoding.Codecs] (options : Options) (encoding method endpoint body : Text) : Prop :=
  ∃ redacted, (Json.redact options.limits encoding (some (.text body))).map Logged.value =
      .ok redacted ∧
    (captureRequest options (ofDocument method endpoint body)).value.map Statement.sanitized =
      .ok (some (.text (abridge cutMarker options.maxLength
        ((ofDocument method endpoint body).shown redacted))))

theorem capturesAlike_iff [Encoding.Codecs] (hcapture : options.captureStatement.isTruthy = true)
    (hbatch : Endpoint.takesBatch endpoint = false) (encoding : Text) :
    CapturesAlike options encoding method endpoint body ↔
      abridge cutMarker options.maxLength ((ofDocument method endpoint body).shown
          (Json.redactDecoded options.limits (Body.dropMark (Body.dropMark body))).value) =
        abridge cutMarker options.maxLength ((ofDocument method endpoint body).shown
          (Json.redactDecoded options.limits (Body.dropMark body)).value) := by
  rw [CapturesAlike, Json.redact_text, sanitized_ofDocument hcapture hbatch]
  simp

end Request

/-! ## Texts behind a byte order mark -/

namespace Json

variable {limits : Limits} {rest : Text}

theorem take_succ_eq_cons_iff {α : Type} {x : α} {n : Nat} {xs : List α} :
    xs.take (n + 1) = x :: xs.take n ↔ List.replicate (n + 1) x <+: xs := by
  induction n generalizing xs with
  | zero =>
    cases xs with
    | nil => simp
    | cons y ys => simp [eq_comm]
  | succ n ih =>
    cases xs with
    | nil => simp
    | cons y ys =>
      rw [List.take_succ_cons, List.take_succ_cons, List.cons.injEq, List.replicate_succ,
        List.cons_prefix_cons]
      constructor
      · rintro ⟨rfl, hrest⟩
        exact ⟨rfl, ih.1 hrest⟩
      · rintro ⟨rfl, hrest⟩
        exact ⟨rfl, ih.2 hrest⟩

/-- A text behind a byte order mark is no document. -/
theorem not_accepts_mark (rest : Text) :
    ¬ ∃ node, Accepts limits (CodePoint.byteOrderMark :: rest) node := by
  rintro ⟨node, h⟩
  have hmark : rest = CodePoint.byteOrderMark :: rest := (dropMark_and_not_blank_of_parse h.read).1
  exact List.cons_ne_self _ _ hmark.symm

/-- A text behind a byte order mark that is kept is cut with it. -/
theorem value_redactDecoded_mark (hdepth : 1 ≤ limits.depth) (rest : Text) :
    (redactDecoded limits (CodePoint.byteOrderMark :: rest)).value =
      if limits.keepInvalid then some (upTo limits.length (CodePoint.byteOrderMark :: rest))
      else none := by
  have hblank : (CodePoint.byteOrderMark :: rest).all CodePoint.isBlank = false := by
    rw [List.all_cons]
    rfl
  exact value_redactDecoded_of_not_accepts hdepth hblank (not_accepts_mark rest)

/-- A redacted tree is printed as a text that is not empty and has no byte order mark before it. -/
theorem head?_dump_redact (node : Node) :
    ∃ c, node.redact.dump.head? = some c ∧ c ≠ CodePoint.byteOrderMark := by
  obtain ⟨c, cs, hdump, hstart, -⟩ := node.isPlain_redact.dump_eq_cons
  refine ⟨c, by rw [hdump]; rfl, ?_⟩
  rintro rfl
  exact absurd hstart (by decide)

theorem value_redactDecoded_of_blank (h : rest.all CodePoint.isBlank = true) :
    (redactDecoded limits rest).value = none := by
  rw [redactDecoded, if_pos h]
  rfl

/-- Where nothing is kept, nothing comes of a text just if it is not accepted. -/
theorem redacted_eq_nil_iff (hdepth : 1 ≤ limits.depth) (hkeep : limits.keepInvalid = false) :
    (redactDecoded limits rest).value.getD [] = [] ↔ ¬ ∃ node, Accepts limits rest node := by
  by_cases haccepts : ∃ node, Accepts limits rest node
  · obtain ⟨node, hnode⟩ := haccepts
    obtain ⟨c, hhead, -⟩ := head?_dump_redact node
    rw [value_redactDecoded_of_accepts hnode, Option.getD_some]
    refine ⟨fun hdump => ?_, fun h => absurd ⟨node, hnode⟩ h⟩
    rw [hdump] at hhead
    cases hhead
  · refine ⟨fun _ => haccepts, fun _ => ?_⟩
    cases hblank : rest.all CodePoint.isBlank with
    | true => rw [value_redactDecoded_of_blank hblank, Option.getD_none]
    | false =>
      rw [value_redactDecoded_of_not_accepts hdepth hblank haccepts, hkeep]
      rfl

/-- Where texts are kept, one becomes its beginning behind a byte order mark just if there are only byte
    order marks before the cut. -/
theorem redacted_eq_mark_cons_iff (hdepth : 1 ≤ limits.depth) (hkeep : limits.keepInvalid = true)
    {n : Nat} (hlength : limits.length = n + 1) :
    (redactDecoded limits rest).value.getD [] = CodePoint.byteOrderMark :: rest.take n ↔
      List.replicate (n + 1) CodePoint.byteOrderMark <+: rest := by
  by_cases haccepts : ∃ node, Accepts limits rest node
  · obtain ⟨node, hnode⟩ := haccepts
    obtain ⟨c, hhead, hc⟩ := head?_dump_redact node
    rw [value_redactDecoded_of_accepts hnode, Option.getD_some]
    constructor
    · intro hdump
      rw [hdump] at hhead
      exact absurd (Option.some.inj hhead).symm hc
    · rintro ⟨behind, rfl⟩
      exact absurd ⟨node, hnode⟩ (not_accepts_mark _)
  cases hblank : rest.all CodePoint.isBlank with
  | true =>
    rw [value_redactDecoded_of_blank hblank, Option.getD_none]
    refine ⟨nofun, ?_⟩
    rintro ⟨behind, rfl⟩
    cases hblank
  | false =>
    have hcut : upTo limits.length rest = rest.take (n + 1) := by
      rw [hlength]
      exact upTo_natCast (n + 1) rest
    rw [value_redactDecoded_of_not_accepts hdepth hblank haccepts, hkeep, if_pos rfl,
      Option.getD_some, hcut]
    exact take_succ_eq_cons_iff

/-- **When a byte order mark makes no difference.** A text behind one becomes what it becomes without
    it, where nothing counts as the empty text, just if texts are kept and this one is cut among
    further byte order marks, or they are not kept and this one is not accepted. -/
theorem redacted_behind_mark_iff (hdepth : 1 ≤ limits.depth) (hlength : 1 ≤ limits.length)
    (rest : Text) :
    (redactDecoded limits rest).value.getD [] =
        (redactDecoded limits (CodePoint.byteOrderMark :: rest)).value.getD [] ↔
      if limits.keepInvalid then
        List.replicate limits.length.toNat CodePoint.byteOrderMark <+: rest
      else ¬ ∃ node, Accepts limits rest node := by
  obtain ⟨n, hn⟩ : ∃ n : Nat, limits.length = n + 1 := ⟨limits.length.toNat - 1, by omega⟩
  rw [value_redactDecoded_mark hdepth]
  cases hkeep : limits.keepInvalid with
  | false => exact redacted_eq_nil_iff hdepth hkeep
  | true =>
    have hcut : upTo limits.length (CodePoint.byteOrderMark :: rest) =
        CodePoint.byteOrderMark :: rest.take n := by
      rw [hn]
      exact upTo_natCast (n + 1) _
    have hlimit : limits.length.toNat = n + 1 := by omega
    rw [if_pos rfl, if_pos rfl, Option.getD_some, hcut, hlimit]
    exact redacted_eq_mark_cons_iff hdepth hkeep hn

end Json

/-! ## Documents that are captured alike -/

theorem Body.dropMark_dropMark {body : Text}
    (h : ∀ rest, body ≠ CodePoint.byteOrderMark :: CodePoint.byteOrderMark :: rest) :
    dropMark (dropMark body) = dropMark body := by
  by_cases hfirst : body.head? = some CodePoint.byteOrderMark
  · obtain ⟨rest, rfl⟩ := List.head?_eq_some_iff.1 hfirst
    refine if_neg fun hsecond => ?_
    obtain ⟨behind, hrest⟩ := List.head?_eq_some_iff.1 hsecond
    exact h behind (congrArg (CodePoint.byteOrderMark :: ·) hrest)
  · have hunmarked : dropMark body = body := if_neg hfirst
    rw [hunmarked, hunmarked]

namespace Request

theorem shown_congr {a b : Option Text} (h : a.getD [] = b.getD []) (request : Request) :
    request.shown a = request.shown b := by
  have hshown (redacted : Option Text) :
      request.shown redacted = request.shown (some (redacted.getD [])) := by
    cases redacted with
    | none => rfl
    | some t => rfl
  rw [hshown a, h, ← hshown b]

/-- A request without verb and path shows nothing but its body. -/
theorem shown_unnamed (redacted : Option Text) (body : Text) :
    (ofDocument [] [] body).shown redacted = redacted.getD [] := by
  match redacted with
  | none | some [] => rfl
  | some (c :: t) => rfl

variable {options : Options} {body : Text}

/-- Whatever stands for a request without a body, and however much is captured: what counts is what
    becomes of the body with one byte order mark less and with two. -/
theorem forall_capturesAlike_iff [Encoding.Codecs] (hcapture : options.captureStatement.isTruthy = true)
    (encoding : Text) :
    (∀ (limit : Nat) (hlimit : 0 < limit) (method endpoint : Text),
        Endpoint.takesBatch endpoint = false →
          CapturesAlike (options.withMaxLength limit hlimit) encoding method endpoint body) ↔
      (Json.redactDecoded options.limits (Body.dropMark (Body.dropMark body))).value.getD [] =
        (Json.redactDecoded options.limits (Body.dropMark body)).value.getD [] := by
  have hcaptures {limit : Nat} (hlimit : 0 < limit) :
      (options.withMaxLength limit hlimit).captureStatement.isTruthy = true := hcapture
  constructor
  · intro h
    obtain ⟨twice, htwice⟩ : ∃ twice, twice =
      (Json.redactDecoded options.limits (Body.dropMark (Body.dropMark body))).value := ⟨_, rfl⟩
    obtain ⟨once, honce⟩ : ∃ once, once =
      (Json.redactDecoded options.limits (Body.dropMark body)).value := ⟨_, rfl⟩
    obtain ⟨limit, hlimit⟩ : ∃ limit, limit = (twice.getD []).length + (once.getD []).length + 1 :=
      ⟨_, rfl⟩
    have hpos : 0 < limit := by omega
    have hbatch : Endpoint.takesBatch [] = false := by decide
    have halike : abridge cutMarker limit ((ofDocument [] [] body).shown twice) =
        abridge cutMarker limit ((ofDocument [] [] body).shown once) := by
      rw [htwice, honce]
      exact (capturesAlike_iff (hcaptures hpos) hbatch encoding).1 (h limit hpos [] [] hbatch)
    rw [shown_unnamed, shown_unnamed, abridge_of_le (by omega), abridge_of_le (by omega)] at halike
    rwa [← htwice, ← honce]
  · intro h limit hpos method endpoint hbatch
    refine (capturesAlike_iff (hcaptures hpos) hbatch encoding).2 ?_
    exact congrArg _ (shown_congr h _)

end Request

/-- **Documents in requests are captured as they are redacted on their own**, whatever verb, path and
    limit on captured statements are, just if no second byte order mark stands behind a first one, or
    the text behind the second becomes the same with it and without it: if texts are kept, it is cut
    among further byte order marks, and if not, it is no document within the limits. In any case a
    document is captured as it is redacted on its own without its first mark. -/
theorem documents_captured_alike_iff [Encoding.Codecs] {options : Options}
    (hcapture : options.captureStatement.isTruthy = true) (encoding body : Text) :
    ((∀ (limit : Nat) (hlimit : 0 < limit) (method endpoint : Text),
        Endpoint.takesBatch endpoint = false →
          Request.CapturesAlike (options.withMaxLength limit hlimit) encoding method endpoint body) ↔
      ∀ rest, body = CodePoint.byteOrderMark :: CodePoint.byteOrderMark :: rest →
        if options.keepInvalidJson.isTruthy then
          List.replicate options.maxInputLength CodePoint.byteOrderMark <+: rest
        else ¬ ∃ node, Json.Accepts options.limits rest node) ∧
      ∀ method endpoint : Text, Endpoint.takesBatch endpoint = false → ∃ redacted,
        (Json.redact options.limits encoding (some (.text (Body.dropMark body)))).map Logged.value =
            .ok redacted ∧
          (captureRequest options (.ofDocument method endpoint body)).value.map Statement.sanitized =
            .ok (some (.text (abridge cutMarker options.maxLength
              ((Request.ofDocument method endpoint body).shown redacted)))) := by
  have hdepth : 1 ≤ options.limits.depth := Int.ofNat_le.2 options.maxDepth_pos
  have hlength : 1 ≤ options.limits.length := Int.ofNat_le.2 options.maxInputLength_pos
  constructor
  · rw [Request.forall_capturesAlike_iff hcapture]
    by_cases hmarked : ∃ rest, body = CodePoint.byteOrderMark :: CodePoint.byteOrderMark :: rest
    · obtain ⟨rest, rfl⟩ := hmarked
      have hbehind := Json.redacted_behind_mark_iff hdepth hlength rest
      refine hbehind.trans ⟨?_, fun h => h rest rfl⟩
      rintro h _ ⟨⟩
      exact h
    · have hnone : ∀ rest, body ≠ CodePoint.byteOrderMark :: CodePoint.byteOrderMark :: rest :=
        fun rest h => hmarked ⟨rest, h⟩
      rw [Body.dropMark_dropMark hnone]
      exact ⟨fun _ rest h => absurd h (hnone rest), fun _ => rfl⟩
  · intro method endpoint hbatch
    exact ⟨_, Json.redact_text .., Request.sanitized_ofDocument hcapture hbatch⟩

/-- Two byte order marks before what is no document. -/
theorem documents_captured_alike_of_unclosed :
    Request.CapturesAlike Options.default [] ("post" : Text) ("logs/_search?q=1" : Text)
      (CodePoint.byteOrderMark :: CodePoint.byteOrderMark :: ("[1" : Text)) := by
  have hunclosed : ¬ ∃ node, Json.Accepts Options.default.limits ("[1" : Text) node := by
    rintro ⟨node, h⟩
    have hread : Json.parse ("[1" : Text).length ("[1" : Text) =
        .error (.malformed .expectedComma ⟨1, 3, 2⟩) := by cbv
    cases hread.symm.trans h.read
  have halike := (@documents_captured_alike_iff _ Options.default rfl []
    (CodePoint.byteOrderMark :: CodePoint.byteOrderMark :: ("[1" : Text))).1.2
  refine halike ?_ 4096 (by decide) ("post" : Text) ("logs/_search?q=1" : Text) (by decide)
  rintro rest ⟨⟩
  exact hunclosed

/-- Two byte order marks before a document: on its own it is none, and in a request it is redacted. -/
theorem captured_otherwise_behind_second_mark :
    Options.default.captureStatement.isTruthy = true ∧
      Endpoint.takesBatch ("i/_search" : Text) = false ∧
        ¬ Request.CapturesAlike Options.default [] ("POST" : Text) ("i/_search" : Text)
          (CodePoint.byteOrderMark :: CodePoint.byteOrderMark :: ("[1]" : Text)) := by
  refine ⟨rfl, by decide, ?_⟩
  rw [Request.capturesAlike_iff rfl (by decide)]
  have hcaptured : abridge cutMarker 4096
      ((Request.ofDocument ("POST" : Text) ("i/_search" : Text)
        (CodePoint.byteOrderMark :: CodePoint.byteOrderMark :: ("[1]" : Text))).shown
          (Json.redactDecoded Options.default.limits ("[1]" : Text)).value) =
      ("[\"?\"]" : Text) := by cbv
  have halone : abridge cutMarker 4096
      ((Request.ofDocument ("POST" : Text) ("i/_search" : Text)
        (CodePoint.byteOrderMark :: CodePoint.byteOrderMark :: ("[1]" : Text))).shown
          (Json.redactDecoded Options.default.limits
            (CodePoint.byteOrderMark :: ("[1]" : Text))).value) =
      ("POST i/_search" : Text) := by cbv
  intro h
  have htexts : ("[\"?\"]" : Text) = ("POST i/_search" : Text) :=
    hcaptured.symm.trans (h.trans halone)
  exact absurd htexts (by decide)

end Redaction
