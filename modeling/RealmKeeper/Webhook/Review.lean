import RealmKeeper.Admission.Review
import RealmKeeper.Admission.Validator

/-!
# Answering reviews

* `WebhookError`: why a review has no answer;
* `configOf`: the realm configuration of a reviewed object;
* `answerReview`: the dialogue that ends with the answer to a review.
-/

namespace RealmKeeper.Webhook

open RealmKeeper.Admission RealmKeeper.Json

/-- **Why a review has no answer.** -/
inductive WebhookError where
  | missingRequest
deriving DecidableEq, Repr

/-- The wording of an error. -/
def WebhookError.message : WebhookError → String
  | .missingRequest => "error-registrar-webhook-1 AdmissionReview has no request"

/-- The code of a denial by the validator. -/
def deniedCode : UInt16 := 403

/-- The code of a denial of something that is no realm configuration. -/
def badObjectCode : UInt16 := 400

/-- **The realm configuration of an object.** -/
def configOf : Option Json → Except AdmissionError RealmConfig
  | none => .error (.invalidObject "request has no object")
  | some object =>
    (RealmConfig.read object).mapError fun refusal => .invalidObject refusal.cause.message

/-- The configuration of an object, or the one that says nothing. -/
def configOrBlank (object : Option Json) : RealmConfig :=
  match configOf object with
  | .ok config => config
  | .error _ => .blank

/-- The answer that an outcome of the validator stands for. -/
def verdict (uid : String) : Except AdmissionError (List String) → ReviewResponse
  | .ok warnings => .allow uid warnings
  | .error e => .deny uid deniedCode e.message

/-- The answer to a question. Only what is created is looked at. -/
def respond (denied : List String) (request : ReviewRequest) : Dialog Answer ReviewResponse :=
  match request.operation with
  | .create =>
    match configOf request.object with
    | .ok config => (validateCreate denied config).bind fun outcome =>
        .done (verdict request.uid outcome)
    | .error e => .done (.deny request.uid badObjectCode e.message)
  | .update =>
    (validateUpdate (configOrBlank request.oldObject) (configOrBlank request.object)).bind
      fun outcome => .done (verdict request.uid outcome)
  | .delete =>
    (validateDelete (configOrBlank request.oldObject)).bind fun outcome =>
      .done (verdict request.uid outcome)
  | .connect => .done (.allow request.uid [])

/-- **The answer to a review**, which has the identifier of its question. -/
def answerReview (denied : List String) (review : Review) :
    Dialog Answer (Except WebhookError Review) :=
  match review.request with
  | none => .done (.error .missingRequest)
  | some request => (respond denied request).bind fun response => .done (.ok (.ofResponse response))

end RealmKeeper.Webhook
