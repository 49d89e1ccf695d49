import RealmKeeper.Json.Text
import RealmKeeper.Webhook.MediaType
import RealmKeeper.Webhook.Review

/-!
# Requests to the webhook

* `Inquiry` and `WebReply`: what is received, and what is sent back;
* `handle`: the dialogue about one request. `POST` to the validation path is answered with a review,
  `GET` and `HEAD` to the health path with a short text.
-/

namespace RealmKeeper.Webhook

open RealmKeeper.Admission RealmKeeper.Http RealmKeeper.Json

/-- **What the webhook receives.** -/
structure Inquiry where
  method : String
  /-- The path, and what may follow it behind a question mark. -/
  target : String
  contentType : Option HeaderValue
  body : List UInt8
deriving DecidableEq

/-- The body of a reply. -/
inductive ReplyBody where
  | empty
  | text (s : String)
  | document (v : Json)

/-- **What the webhook sends back.** -/
structure WebReply where
  status : Nat
  contentType : Option String
  /-- The methods that are allowed instead. -/
  allow : Option String
  body : ReplyBody

namespace WebReply

/-- A reply without a body. -/
def bare (status : Nat) : WebReply := ⟨status, none, none, .empty⟩

/-- A reply with a text. -/
def plain (status : Nat) (s : String) : WebReply :=
  ⟨status, some "text/plain; charset=utf-8", none, .text s⟩

/-- A reply with a document. -/
def ofDocument (status : Nat) (v : Json) : WebReply :=
  ⟨status, some "application/json", none, .document v⟩

/-- The reply to a method that is not allowed. -/
def methodNotAllowed (allow : String) : WebReply := { bare 405 with allow := some allow }

/-- The same reply without its body. -/
def withoutBody (r : WebReply) : WebReply := { r with body := .empty }

end WebReply

/-! ### Reviews -/

/-- The greatest number of octets that are taken as a body. -/
def bodyLimit : Nat := 2097152

/-- The reply about a body that is no review. -/
def refusalReply (refusal : Refusal) : WebReply :=
  match refusal.cause with
  | .malformed =>
    .plain 400 ("Failed to parse the request body as JSON: " ++ DecodeError.malformed.message)
  | cause =>
    let place := if refusal.path.isEmpty then "" else pathText refusal.path ++ ": "
    .plain 422
      ("Failed to deserialize the JSON body into the target type: " ++ place ++ cause.message)

/-- **The review of an inquiry**, or the reply if it has none: first its type is looked at, then its
size, then the document. -/
def reviewOf (inquiry : Inquiry) : Except WebReply Review :=
  if !((inquiry.contentType.bind MediaType.ofValue?).any MediaType.isJson) then
    .error (.plain 415 "Expected request with \x60Content-Type: application/json\x60")
  else if bodyLimit < inquiry.body.length then
    .error (.plain 413 "Failed to buffer the request body: length limit exceeded")
  else (readBytes Review.read inquiry.body).mapError refusalReply

/-- The reply about a review that has no answer. -/
def errorReply (e : WebhookError) : WebReply :=
  .ofDocument 400 (.object [("error", .string "invalid_request"),
    ("error_description", .string e.message)])

/-- The reply with the answer to a review. -/
def reviewReply : Except WebhookError Review → WebReply
  | .ok review => .ofDocument 200 review.toJson
  | .error e => errorReply e

/-- The dialogue about a review. -/
def handleReview (denied : List String) (inquiry : Inquiry) : Dialog Answer WebReply :=
  match reviewOf inquiry with
  | .error reply => .done reply
  | .ok review => (answerReview denied review).bind fun outcome => .done (reviewReply outcome)

/-! ### Routes -/

/-- Where reviews are sent to. -/
def validationPath : String := "/validate/realmconfigs"

/-- Where the health of the webhook is looked up. -/
def healthPath : String := "/healthz"

/-- The path of a target. -/
def pathOf (target : String) : String :=
  String.ofList (target.toList.takeWhile (· ≠ '?'))

/-- The reply about the health. -/
def healthReply : WebReply := .plain 200 "ok"

/-- **The dialogue about an inquiry.** -/
def handle (denied : List String) (inquiry : Inquiry) : Dialog Answer WebReply :=
  let path := pathOf inquiry.target
  if path = validationPath then
    if inquiry.method = "POST" then handleReview denied inquiry
    else .done (.methodNotAllowed "POST")
  else if path = healthPath then
    if inquiry.method = "GET" then .done healthReply
    else if inquiry.method = "HEAD" then .done healthReply.withoutBody
    else .done (.methodNotAllowed "GET,HEAD")
  else .done (.bare 404)

end RealmKeeper.Webhook
