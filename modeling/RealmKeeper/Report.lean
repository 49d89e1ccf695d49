import RealmKeeper.Registration.Error
import RealmKeeper.Settings.Error
import RealmKeeper.Webhook.Review

/-!
# Reports of failures

A failure of any kind, the failures behind it, and the contexts it was reported through.

* `Failure`: the failures of all families;
* `Failure.sources`: what lies behind a failure, from the nearest to the farthest;
* `Report`: a failure wrapped in contexts, and `Report.chain`, its text in one line;
* `Report.statusError?`: the status error that a report is about.
-/

namespace RealmKeeper

open Http Client Admin Registration Admission Settings Webhook

/-- **A failure of any family.** -/
inductive Failure where
  | status (e : StatusError)
  | registration (e : RegistrationError)
  | transport (e : TransportError)
  | admin (e : AdminError)
  | admission (e : AdmissionError)
  | settings (e : SettingsError)
  | webhook (e : WebhookError)
  | decoding (e : Json.DecodeError)
  | network (e : NetworkError)
  | url (e : Url.UrlError)
  /-- A failure of which only the wording is known. -/
  | other (text : String)
deriving DecidableEq

namespace Failure

/-- The wording of a failure. -/
def message : Failure → String
  | .status e => e.message
  | .registration e => e.message
  | .transport e => e.message
  | .admin e => e.message
  | .admission e => e.message
  | .settings e => e.message
  | .webhook e => e.message
  | .decoding e => e.message
  | .network e => e.message
  | .url e => e.message
  | .other text => text

/-! ### What lies behind a failure -/

/-- A network error and what lies behind it. -/
def networkChain (e : NetworkError) : List Failure :=
  .network e :: (e.cause?.map Failure.other).toList

/-- What lies behind an administrative error. -/
def adminSources : AdminError → List Failure
  | .request _ cause | .decode _ cause => networkChain cause
  | _ => []

/-- What lies behind a transport error. -/
def transportSources : TransportError → List Failure
  | .request cause | .body cause => networkChain cause
  | .invalidCredential => [.other badHeaderValue]
  | _ => []

/-- What lies behind a registration error. A status error stands for itself. -/
def registrationSources : RegistrationError → List Failure
  | .invalidEndpoint _ _ cause => [.url cause]
  | .initialAccessToken cause => .admin cause :: adminSources cause
  | .encode _ cause | .decode _ cause => [.decoding cause]
  | .transport _ cause => .transport cause :: transportSources cause
  | _ => []

/-- **What lies behind a failure**, from the nearest to the farthest. -/
def sources : Failure → List Failure
  | .registration e => registrationSources e
  | .transport e => transportSources e
  | .admin e => adminSources e
  | .admission (.checkFailed _ cause) => .admin cause :: adminSources cause
  | .network e => (e.cause?.map Failure.other).toList
  | _ => []

/-- The status error that a failure itself is. -/
def ownStatusError? : Failure → Option StatusError
  | .status e => some e
  | .registration (.http e) => some e
  | _ => none

end Failure

/-- **A failure wrapped in contexts**, the innermost first. -/
structure Report where
  contexts : List String
  cause : Failure
deriving DecidableEq

namespace Report

/-- A report without contexts. -/
def ofFailure (cause : Failure) : Report := ⟨[], cause⟩

/-- The report in one more context. -/
def within (r : Report) (context : String) : Report :=
  { r with contexts := r.contexts ++ [context] }

/-- All failures of a report, the outermost first. -/
def failures (r : Report) : List Failure :=
  r.contexts.reverse.map .other ++ r.cause :: r.cause.sources

/-- The wording of the outermost failure. -/
def outermost (r : Report) : String :=
  (r.failures.head?.map Failure.message).getD ""

/-- **The wording of all failures in one line.** -/
def chain (r : Report) : String :=
  ": ".intercalate (r.failures.map Failure.message)

/-- **The status error that a report is about**, wherever it stands. -/
def statusError? (r : Report) : Option StatusError :=
  r.failures.findSome? Failure.ownStatusError?

/-- A request was answered with an unexpected status. -/
def isStatusError (r : Report) : Bool :=
  r.statusError?.isSome

/-- A request was not authorised. -/
def isUnauthorized (r : Report) : Bool :=
  r.statusError?.any (·.status = 401)

/-- What was requested is not there. -/
def isNotFound (r : Report) : Bool :=
  r.statusError?.any (·.status = 404)

/-- A text whose lines after the first are indented. -/
def indented (columns : Nat) (text : String) : String :=
  String.ofList (text.toList.flatMap fun c =>
    if c = '\n' then '\n' :: List.replicate columns ' ' else [c])

/-- A failure below another one; where there are several they are numbered. -/
def causeText (numbered : Bool) (index : Nat) (f : Failure) : String :=
  if numbered then
    let number := Json.natString index
    String.ofList (List.replicate (5 - number.length) ' ') ++ number ++ ": " ++
      indented 7 f.message
  else "    " ++ indented 4 f.message

/-- **The wording of all failures in a paragraph each**: the outermost, and below it what caused
it. -/
def paragraphs (r : Report) : String :=
  match r.failures with
  | [] => ""
  | [f] => f.message
  | f :: rest =>
    f.message ++ "\n\nCaused by:\n" ++
      "\n".intercalate (rest.mapIdx fun i g => causeText (2 ≤ rest.length) i g)

end Report

end RealmKeeper
