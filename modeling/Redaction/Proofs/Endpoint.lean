/-
  Endpoints with a query or a fragment.

  * `Endpoint.path_append`: a path ends before the first sign of either;
  * `captureRequest_congr`: what is captured of a request depends on the path of its endpoint alone;
  * `captureRequest_append`: so a query or a fragment behind an endpoint makes no difference.
-/
import Redaction.Statement
import Mathlib.Data.List.TakeWhile

namespace Redaction

/-! ## Paths -/

namespace Endpoint

variable {c : CodePoint} {endpoint other : Text}

/-- A sign behind which a query or a fragment stands. -/
def EndsPath (c : CodePoint) : Prop := c = '?' ∨ c = '#'

theorem not_endsPath_of_mem_path (h : c ∈ path endpoint) : ¬ EndsPath c := by
  have hc := List.mem_takeWhile_imp h
  rw [decide_eq_true_iff] at hc
  rintro (rfl | rfl)
  · exact hc.1 rfl
  · exact hc.2 rfl

/-- **A path ends before the first query or fragment.** -/
theorem path_append (hc : EndsPath c) (endpoint behind : Text) :
    path (endpoint ++ c :: behind) = path endpoint := by
  induction endpoint with
  | nil =>
    refine List.takeWhile_cons_of_neg ?_
    rw [decide_eq_true_iff, not_and_or, not_not, not_not]
    exact hc
  | cons d endpoint ih =>
    rw [path] at ih
    rw [path, path, List.cons_append, List.takeWhile_cons, List.takeWhile_cons, ih]
    rfl

/-- Nothing is left to cut off a path. -/
theorem path_path (endpoint : Text) : path (path endpoint) = path endpoint := by
  refine List.takeWhile_eq_self_iff.2 fun c hc => ?_
  exact decide_eq_true (not_or.1 (not_endsPath_of_mem_path hc))

theorem takesBatch_congr (h : path endpoint = path other) :
    takesBatch endpoint = takesBatch other := by
  rw [takesBatch, takesBatch, api, api, h]

theorem index?_congr (h : path endpoint = path other) : index? endpoint = index? other := by
  rw [index?, index?, h]

end Endpoint

/-! ## Requests -/

section Requests

variable {endpoint other : Text}

theorem BodyFormat.detect?_congr (h : Endpoint.path endpoint = Endpoint.path other)
    (type : Option MediaType) (body : Text) :
    detect? type endpoint body = detect? type other body := by
  have hbatch := Endpoint.takesBatch_congr h
  cases type with
  | none => rw [detect?, detect?, hbatch]
  | some type => rw [detect?, detect?, ofType?, ofType?, ofEndpoint, ofEndpoint, hbatch]

theorem Request.redactBody_congr [Encoding.Codecs] (h : Endpoint.path endpoint = Endpoint.path other)
    (options : Options) (method : Text) (body : Option Payload) (contentType : Option Text) :
    redactBody options ⟨method, endpoint, body, contentType⟩ =
      redactBody options ⟨method, other, body, contentType⟩ := by
  have hpayload (body : Payload) :
      redactPayload options ⟨method, endpoint, some body, contentType⟩ body =
        redactPayload options ⟨method, other, some body, contentType⟩ body := by
    simp only [redactPayload, BodyFormat.detect?_congr h]
  cases body with
  | none => rfl
  | some body => simp only [redactBody, hpayload]

/-- **What is captured of a request depends on the path of its endpoint**, and on nothing else of it. -/
theorem captureRequest_congr [Encoding.Codecs] (h : Endpoint.path endpoint = Endpoint.path other) (options : Options)
    (method : Text) (body : Option Payload) (contentType : Option Text) :
    captureRequest options ⟨method, endpoint, body, contentType⟩ =
      captureRequest options ⟨method, other, body, contentType⟩ := by
  have hdatabase : Request.database endpoint = Request.database other := by
    rw [Request.database, Request.database, Endpoint.index?_congr h]
  have hshown (redacted : Option Text) :
      Request.shown ⟨method, endpoint, body, contentType⟩ redacted =
        Request.shown ⟨method, other, body, contentType⟩ redacted := by
    simp only [Request.shown, Request.fallback, h]
  simp only [captureRequest, hdatabase, hshown, Request.redactBody_congr h]

end Requests

/-- **A query or a fragment makes no difference.** With either of them behind its endpoint a request is
    captured as without: with the same error, or with a statement that tells the same, and with the
    same events. What the endpoint and what stands behind it hold does not matter, as the request is
    captured like one to the path alone, in which there is neither sign. -/
theorem captureRequest_append [Encoding.Codecs] (options : Options) (method endpoint behind : Text)
    (body : Option Payload) (contentType : Option Text) :
    captureRequest options ⟨method, endpoint ++ ("?" : Text) ++ behind, body, contentType⟩ =
        captureRequest options ⟨method, endpoint, body, contentType⟩ ∧
      captureRequest options ⟨method, endpoint ++ ("#" : Text) ++ behind, body, contentType⟩ =
        captureRequest options ⟨method, endpoint, body, contentType⟩ ∧
      captureRequest options ⟨method, Endpoint.path endpoint, body, contentType⟩ =
        captureRequest options ⟨method, endpoint, body, contentType⟩ ∧
      CodePoint.ofChar '?' ∉ Endpoint.path endpoint ∧
      CodePoint.ofChar '#' ∉ Endpoint.path endpoint := by
  have hquery : Endpoint.path (endpoint ++ ("?" : Text) ++ behind) = Endpoint.path endpoint := by
    rw [List.append_assoc]
    exact Endpoint.path_append (.inl rfl) endpoint behind
  have hfragment : Endpoint.path (endpoint ++ ("#" : Text) ++ behind) = Endpoint.path endpoint := by
    rw [List.append_assoc]
    exact Endpoint.path_append (.inr rfl) endpoint behind
  refine ⟨captureRequest_congr hquery .., captureRequest_congr hfragment ..,
    captureRequest_congr (Endpoint.path_path endpoint) .., fun hmem => ?_, fun hmem => ?_⟩
  · exact Endpoint.not_endsPath_of_mem_path hmem (.inl rfl)
  · exact Endpoint.not_endsPath_of_mem_path hmem (.inr rfl)

end Redaction
