import RealmKeeper.Client.WireName
import RealmKeeper.Http.Message

/-!
# What can go wrong with a request

* `NetworkError`: the request could not be made, sent or answered;
* `TransportError`: a request of a registration was not executed;
* `StatusError`: it was answered with another status than the expected one.
-/

namespace RealmKeeper.Http

open RealmKeeper.Client

/-- **Why a request has no usable answer.** -/
inductive NetworkError where
  /-- It could not be sent, or was not answered. -/
  | sending (url : Url)
  /-- The body of its answer broke off or is not what it should be. -/
  | reading
  /-- Its scheme is not one of HTTP; the URL is given where the request was finished before. -/
  | scheme (url : Option Url)
  /-- It could not be put together. -/
  | building (cause : String)
deriving DecidableEq

/-- The wording of what is wrong with a header value. -/
def badHeaderValue : String := "failed to parse header value"

/-- The wording of an error. -/
def NetworkError.message : NetworkError → String
  | .sending url => "error sending request for url (" ++ url.text ++ ")"
  | .reading => "error decoding response body"
  | .scheme (some url) => "builder error for url (" ++ url.text ++ ")"
  | .scheme none => "builder error"
  | .building _ => "builder error"

/-- The wording of what lies behind an error. -/
def NetworkError.cause? : NetworkError → Option String
  | .sending _ | .reading => none
  | .scheme _ => some "URL scheme is not allowed"
  | .building cause => some cause

/-- **Why a request of a registration was not executed.** -/
inductive TransportError where
  | request (cause : NetworkError)
  | cancelled
  | bodyNotReplayable
  | invalidCredential
  | body (cause : NetworkError)
deriving DecidableEq

/-- The wording of an error. -/
def TransportError.message : TransportError → String
  | .request cause => "error-registrar-transport-1 Request failed: " ++ cause.message
  | .cancelled => "error-registrar-transport-2 Request cancelled"
  | .bodyNotReplayable =>
    "error-registrar-transport-3 Request body cannot be replayed after credential refresh"
  | .invalidCredential =>
    "error-registrar-transport-4 Refreshed credential is not a valid header value: " ++
      badHeaderValue
  | .body cause => "error-registrar-transport-5 Failed to read response body: " ++ cause.message

/-- The text of a status. -/
def statusText (status : Nat) : String :=
  Json.natString status

/-- **An answer with another status than the expected one**, and what is kept of its body. -/
structure StatusError where
  operation : Operation
  status : Nat
  body : String
deriving DecidableEq, Repr

/-- The error of a response. -/
def StatusError.ofResponse (operation : Operation) (response : Response) : StatusError :=
  ⟨operation, response.status, response.body.excerpt⟩

/-- The wording of an error. -/
def StatusError.message (e : StatusError) : String :=
  "error-registrar-http-1 " ++ e.operation.name ++ " failed: HTTP " ++ statusText e.status ++
    ": " ++ e.body

/-- Two errors are alike when status and operation are; the body is for diagnostics only. -/
def StatusError.alike (a b : StatusError) : Bool :=
  a.status = b.status && a.operation = b.operation

end RealmKeeper.Http
