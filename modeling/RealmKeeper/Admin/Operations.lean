import RealmKeeper.Admin.Client
import RealmKeeper.Admin.Token
import RealmKeeper.Dialog

/-!
# Administrative operations

What the administrative client does, as dialogues. Every operation first has an admin token: the
one that is kept, or a new one. Only one operation at a time looks for its token, so that those
who wait find what the one before them has kept.

* `Question`: the turn to look for a token, the kept token, the time, and the reply to a request;
* `AdminClient.accessToken`;
* `AdminClient.realmExists`, `AdminClient.tokenForRegistration`, `AdminClient.findClient`,
  `AdminClient.refreshToken`.
-/

namespace RealmKeeper.Admin

open RealmKeeper.Http RealmKeeper.Json

/-! ### What is asked -/

/-- Where an operation takes notice that its context is cancelled: at its requests and at the bodies
that it decodes, or, where its caller watches too, at every wait. -/
inductive Watch where
  | atRequests
  | everywhere
deriving DecidableEq, Repr

/-- How a request comes back. -/
inductive Reply where
  | answered (response : Response)
  | failed (cause : NetworkError)
  /-- The context is cancelled before the answer comes. -/
  | cancelled

/-- What the operations ask for. -/
inductive Question where
  /-- The turn to look for a token; it is not given to one that is cancelled everywhere. -/
  | turn (watch : Watch)
  /-- Gives the turn back. -/
  | endTurn
  /-- The token that is kept. -/
  | stored
  /-- Keeps a token. -/
  | keep (token : StoredToken)
  /-- The time. -/
  | now
  /-- The reply to a request. -/
  | send (request : AdminClient.Prepared)

/-- What is answered. -/
abbrev Answer : Question → Type
  | .turn _ => Bool
  | .endTurn => Unit
  | .stored => Option StoredToken
  | .keep _ => Unit
  | .now => Instant
  | .send _ => Reply

/-- What an operation gives: a dialogue that ends with a value or an error. -/
abbrev Operating (α : Type) : Type := Dialog Answer (Except AdminError α)

/-- Goes on with the value of an operation. -/
def Operating.andThen {α β : Type} (first : Operating α) (next : α → Operating β) : Operating β :=
  Dialog.bind first fun
    | .ok a => next a
    | .error e => .done (.error e)

/-! ### Responses -/

/-- The error of a response whose status is not the expected one. -/
def unexpected (watch : Watch) (operation : String) (response : Response) : AdminError :=
  match watch with
  | .atRequests => .unexpectedStatus operation response.status response.body.excerpt
  | .everywhere =>
    match response.body.guardedExcerpt with
    | some text => .unexpectedStatus operation response.status text
    | none => .cancelled operation

/-- The response, if its status says that the request succeeded. -/
def succeeded (watch : Watch) (operation : String) (response : Response) :
    Except AdminError Response :=
  if response.isSuccess then .ok response else .error (unexpected watch operation response)

/-- The document in the body of a response. -/
def document {α : Type} (read : ValueTree Fault → Decoded α) (operation : String)
    (response : Response) : Except AdminError α :=
  match response.body.guarded with
  | .cancelled => .error (.cancelled operation)
  | .broken => .error (.decode operation .reading)
  | .read bs => (readBytes read bs).mapError fun _ => .decode operation .reading

/-- The document in the body of a response that says success. -/
def successDocument {α : Type} (watch : Watch) (read : ValueTree Fault → Decoded α)
    (operation : String) (response : Response) : Except AdminError α :=
  (succeeded watch operation response).bind (document read operation)

/-- Sends a request and takes what it needs from the response. -/
def exchange {α : Type} (operation : String) (request : AdminClient.Prepared)
    (take : Response → Except AdminError α) : Operating α :=
  .ask (.send request) fun
    | .answered response => .done (take response)
    | .failed cause => .done (.error (.request operation cause))
    | .cancelled => .done (.error (.cancelled operation))

namespace AdminClient

variable (c : AdminClient) (watch : Watch)

/-! ### The admin token -/

/-- The name of the operation that gets an admin token. -/
def tokenOperation : String := "admin token"

/-- Asks the provider for a token and keeps it. -/
def fetchToken : Operating String :=
  (exchange tokenOperation c.tokenRequest
    (successDocument watch IssuedToken.read tokenOperation)).andThen fun issued =>
      .ask .now fun now =>
        .ask (.keep ⟨issued.token, tokenExpiry now issued.expiresIn⟩) fun _ =>
          .done (.ok issued.token)

/-- The kept token while it is usable, or else a new one. -/
def currentToken : Operating String :=
  .ask .stored fun
    | none => c.fetchToken watch
    | some (token : StoredToken) =>
      .ask .now fun (now : Instant) =>
        if token.isUsableAt now then .done (.ok token.value) else c.fetchToken watch

/-- **An admin token.** The turn is given back however the search ends. -/
def accessToken : Operating String :=
  .ask (.turn watch) fun (given : Bool) =>
    if given then
      (c.currentToken watch).bind fun outcome => .ask .endTurn fun _ => .done outcome
    else .done (.error (.cancelled tokenOperation))

/-- **A request that presents an admin token**, and what is taken from its response. -/
def authorizedExchange {α : Type} (operation : String) (request : String → Prepared)
    (take : Response → Except AdminError α) : Operating α :=
  (c.accessToken watch).andThen fun token => exchange operation (request token) take

/-! ### Operations -/

/-- The name of the operation that looks a realm up. -/
def lookupOperation : String := "realm lookup"

/-- What the response to the lookup of a realm says. -/
def existenceOf (response : Response) : Except AdminError Bool :=
  if response.status = 200 then .ok true
  else if response.status = 404 then .ok false
  else .error (unexpected watch lookupOperation response)

/-- **Whether a realm exists.** -/
def realmExists (realm : String) : Operating Bool :=
  c.authorizedExchange watch lookupOperation (c.realmRequest realm) (existenceOf watch)

/-- The name of the operation that gets an initial access token. -/
def initialTokenOperation : String := "initial access token"

/-- **A token that is good for one registration.** -/
def tokenForRegistration : Operating String :=
  c.authorizedExchange watch initialTokenOperation c.initialTokenRequest
    (successDocument watch readInitialToken initialTokenOperation)

/-- The name of the operation that looks a client up. -/
def clientOperation : String := "client lookup"

/-- The first listed client with exactly the identifier. -/
def selectClient (clientId : String) (clients : List ClientEntry) : Except AdminError ClientEntry :=
  match clients.find? fun entry => entry.clientId = clientId with
  | some entry => .ok entry
  | none => .error (.clientNotFound clientId)

/-- **The client with an identifier.** -/
def findClient (clientId : String) : Operating ClientEntry :=
  c.authorizedExchange watch clientOperation (c.clientsRequest clientId) fun response =>
    (successDocument watch readClients clientOperation response).bind (selectClient clientId)

/-- The name of the operation that renews a registration token. -/
def renewalOperation : String := "registration access token"

/-- **A new registration token for a client.** -/
def refreshToken (clientId : String) : Operating String :=
  (c.findClient watch clientId).andThen fun entry =>
    c.authorizedExchange watch renewalOperation (c.renewalRequest entry.id)
      (successDocument watch readRegistrationToken renewalOperation)

end AdminClient

end RealmKeeper.Admin
