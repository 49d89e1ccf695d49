import RealmKeeper.Client.Information
import RealmKeeper.Context
import RealmKeeper.Dialog
import RealmKeeper.Json.Text
import RealmKeeper.Registration.Error
import RealmKeeper.Url.Parse

/-!
# Registering clients

The four operations on the registration of a client. Each is a dialogue: what can be checked is
checked before anything is asked, and after the answer nothing else is.

* `Question`: an initial access token from a source, or the execution of a request;
* `register`, `read`, `update`, `delete`.
-/

namespace RealmKeeper.Registration

open RealmKeeper.Http RealmKeeper.Client RealmKeeper.Admin RealmKeeper.Json

/-! ### What is asked -/

/-- What the operations ask for; `S` are the sources of tokens. -/
inductive Question (S : Type) where
  /-- A token that is good for one registration. -/
  | initialToken (source : S) (context : Context)
  /-- The response to a request. -/
  | execute (context : Context) (request : Request)

/-- What is answered. -/
abbrev Answer {S : Type} : Question S → Type
  | .initialToken _ _ => Except AdminError String
  | .execute _ _ => Except TransportError Response

/-- What an operation gives: a dialogue that ends with a value or an error. -/
abbrev Operating (S α : Type) : Type := Dialog (Answer (S := S)) (Except RegistrationError α)

variable {S : Type}

/-! ### Requests -/

/-- The URL of a text. -/
def parseEndpoint (operation : Operation) (text : String) : Except RegistrationError Url :=
  (Url.ofString text).mapError fun cause => .invalidEndpoint operation text cause

/-- The URL of a registration, which must be given. -/
def registrationUrl (operation : Operation) (text : String) : Except RegistrationError Url :=
  if Text.isAllBlank text.toList then .error (.missingRegistrationUri operation)
  else parseEndpoint operation text

/-- The method that performs an operation. -/
def methodOf : Operation → String
  | .register => "POST"
  | .read => "GET"
  | .update => "PUT"
  | .delete => "DELETE"

/-- The status of success of an operation. -/
def successOf : Operation → Nat
  | .register => 201
  | .read => 200
  | .update => 200
  | .delete => 204

/-- **The request of an operation**: it presents the token and may carry a document. -/
def buildRequest (operation : Operation) (url : Url) (token : String) (document : Option Json) :
    Except RegistrationError Request :=
  match bearer? token with
  | none => .error (.invalidToken operation)
  | some credential =>
    let fields := [("authorization", credential), ("accept", HeaderValue.json)]
    .ok <| match document with
      | none => ⟨methodOf operation, url, fields, .none⟩
      | some d =>
        ⟨methodOf operation, url, fields ++ [("content-type", HeaderValue.json)], .octets (bytes d)⟩

/-! ### Responses -/

/-- The response, if its status is the one of success. -/
def judge (operation : Operation) : Except TransportError Response →
    Except RegistrationError Response
  | .error cause => .error (.transport operation cause)
  | .ok response =>
    if response.status = successOf operation then .ok response
    else .error (.http (StatusError.ofResponse operation response))

/-- The information in the body of a response. -/
def informationOf (operation : Operation) (response : Response) :
    Except RegistrationError ClientInformation :=
  match response.body.whole? with
  | none => .error (.transport operation (.body .reading))
  | some bs =>
    (readBytes ClientInformation.read bs).mapError fun refusal => .decode operation refusal.cause

/-- Executes a request that is answered with information. -/
def executeForInformation (context : Context) (operation : Operation) (request : Request) :
    Operating S ClientInformation :=
  .ask (.execute context request) fun outcome =>
    .done ((judge operation outcome).bind (informationOf operation))

/-! ### Operations -/

/-- **Registers a client.** The token comes from a source, if there is one; nothing is done under
the identity of a client. -/
def register (source : Option S) (context : Context) (endpoint : String)
    (metadata : ClientMetadata) : Operating S ClientInformation :=
  match source with
  | none => .done (.error .noCredentialSource)
  | some source =>
    match parseEndpoint .register endpoint with
    | .error e => .done (.error e)
    | .ok url =>
      .ask (.initialToken source context.anonymous) fun
        | .error cause => .done (.error (.initialAccessToken cause))
        | .ok token =>
          match buildRequest .register url token (some metadata.toJson) with
          | .error e => .done (.error e)
          | .ok request => executeForInformation context.anonymous .register request

/-- The request of an operation on a registration, after its local checks. -/
def registrationRequest (operation : Operation) (registrationUri token : String)
    (document : Option Json) : Except RegistrationError Request :=
  (registrationUrl operation registrationUri).bind fun url =>
    buildRequest operation url token document

/-- **Reads the registration of a client.** -/
def read (context : Context) (clientId registrationUri token : String) :
    Operating S ClientInformation :=
  match registrationRequest .read registrationUri token none with
  | .error e => .done (.error e)
  | .ok request => executeForInformation (context.forClient clientId) .read request

/-- **Replaces the metadata of a client.** -/
def update (context : Context) (clientId registrationUri token : String)
    (metadata : ClientMetadata) : Operating S ClientInformation :=
  match registrationRequest .update registrationUri token
      (some (metadata.updateDocument clientId)) with
  | .error e => .done (.error e)
  | .ok request => executeForInformation (context.forClient clientId) .update request

/-- **Deletes the registration of a client**; the body of the answer is not looked at. -/
def delete (context : Context) (clientId registrationUri token : String) : Operating S Unit :=
  match registrationRequest .delete registrationUri token none with
  | .error e => .done (.error e)
  | .ok request =>
    .ask (.execute (context.forClient clientId) request) fun outcome =>
      .done ((judge .delete outcome).map fun _ => ())

end RealmKeeper.Registration
