import RealmKeeper.Admission.Validator
import RealmKeeper.Provider.World
import RealmKeeper.Registration.Operations
import RealmKeeper.Registration.Renewal

/-!
# The layers over the provider

The questions of the outer layers, answered by dialogues with the provider.

* `registering`: a registration operation. Requests are sent, once more with a renewed token where
  they are not authorised, and the administrative client gives the tokens.
* `admitting`: a validation, for which the administrative client looks realms up.
-/

namespace RealmKeeper.Provider

open RealmKeeper.Http RealmKeeper.Admin RealmKeeper.Registration

/-- A finished request, which can only be sent over HTTP. -/
def finished (request : Request) : AdminClient.Prepared :=
  if request.url.isHttp then .ok request else .error (.scheme (some request.url))

/-- Sends a finished request. -/
def executeOnce (request : Request) : Dialog Admin.Answer (Except TransportError Response) :=
  .ask (.send (finished request)) fun
    | .answered response => .done (.ok response)
    | .failed cause => .done (.error (.request cause))
    | .cancelled => .done (.error .cancelled)

/-- The answers about one request: it is sent, and the administrative client renews tokens. -/
def renewalAnswer :
    (q : Renewal.Question AdminClient) → Dialog Admin.Answer (Renewal.Answer q)
  | .execute request => executeOnce request
  | .refresh refresher clientId =>
    (refresher.refreshToken .everywhere clientId).bind fun outcome => .done (some outcome)

/-- **The answers to a registration operation.** -/
def registrationAnswer (refresher : Option AdminClient) :
    (q : Registration.Question AdminClient) → Dialog Admin.Answer (Registration.Answer q)
  | .initialToken source _ => source.tokenForRegistration .atRequests
  | .execute context request => (Renewal.execute refresher context request).through renewalAnswer

/-- **A registration operation with the provider.** -/
def registering {α : Type} (refresher : Option AdminClient) (d : Operating AdminClient α) :
    Dialog Admin.Answer (Except RegistrationError α) :=
  d.through (registrationAnswer refresher)

/-- The answers to a validation: the administrative client looks realms up. -/
def admissionAnswer (c : AdminClient) :
    (q : Admission.Question) → Dialog Admin.Answer (Admission.Answer q)
  | .realmExists realm => c.realmExists .atRequests realm

/-- **A validation with the provider.** -/
def admitting {α : Type} (c : AdminClient) (d : Dialog Admission.Answer α) :
    Dialog Admin.Answer α :=
  d.through (admissionAnswer c)

end RealmKeeper.Provider
