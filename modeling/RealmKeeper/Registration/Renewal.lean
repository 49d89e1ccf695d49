import RealmKeeper.Admin.Error
import RealmKeeper.Context
import RealmKeeper.Dialog

/-!
# Renewing a token

A request for a client that is not authorised is sent once more with a renewed token.

* `Question`: the execution of a request, or a new token for a client;
* `execute`: the dialogue about one request;
* `Parties`: those who answer, and may cancel the context while they do.
-/

namespace RealmKeeper.Registration.Renewal

open RealmKeeper.Http RealmKeeper.Admin

/-- What is asked about a request; `R` are those who renew tokens. -/
inductive Question (R : Type) where
  /-- The response to a request. -/
  | execute (request : Request)
  /-- A new token for a client. -/
  | refresh (refresher : R) (clientId : String)

/-- What is answered; there is no answer about a token when the context is cancelled before it
comes. -/
abbrev Answer {R : Type} : Question R → Type
  | .execute _ => Except TransportError Response
  | .refresh _ _ => Option (Except AdminError String)

/-- What the dialogue ends with. -/
abbrev Outcome : Type := Except TransportError Response

/-- The status of a request that is not authorised. -/
def unauthorized : Nat := 401

variable {R : Type}

/-- Sends a request once more, with a new token. -/
def repeatWith (request : Request) (token : String) : Dialog (Answer (R := R)) Outcome :=
  if request.replayable then
    match bearer? token with
    | none => .done (.error .invalidCredential)
    | some credential => .ask (.execute (request.withField "authorization" credential)) .done
  else .done (.error .bodyNotReplayable)

/-- Goes on after the response to the first request, with what was answered about a new token. A
refresh that fails leaves the first response as it is. -/
def afterRefresh (request : Request) (first : Response) :
    Option (Except AdminError String) → Dialog (Answer (R := R)) Outcome
  | none => .done (.error .cancelled)
  | some (.error e) => .done (if e.isCancelled then .error .cancelled else .ok first)
  | some (.ok token) => repeatWith request token

/-- **Executes a request**, and once more with a new token if it was not authorised. Without
somebody to ask for a token, or without a client, it is only executed. -/
def execute (refresher : Option R) (context : Context) (request : Request) :
    Dialog (Answer (R := R)) Outcome :=
  match refresher, context.clientId? with
  | some refresher, some clientId =>
    .ask (.execute request) fun
      | .error e => .done (.error e)
      | .ok first =>
        if first.status = unauthorized then
          .ask (.refresh refresher clientId) (afterRefresh request first)
        else .done (.ok first)
  | _, _ => .ask (.execute request) .done

/-! ### Those who answer -/

/-- **The parties of a renewal.** What they do may depend on all that happened before, which is
their state. Executing a request may cancel domains; a refresh runs until it has a result or is
cancelled, if ever. -/
structure Parties (R σ : Type) where
  execute : Request → σ → (Except TransportError Response × List Domain) × σ
  refresh : R → String → σ → List (Context.Poll (Except AdminError String)) × σ

/-- The state of the parties, and what has been cancelled. -/
abbrev Parties.Run (σ α : Type) : Type := StateM (σ × Cancellations) α

/-- **The answers of the parties** under a context. A refresh is not begun under a cancelled
context, and one that stays pending for ever is never answered. -/
def Parties.answer {σ : Type} (parties : Parties R σ) (context : Context) :
    (q : Question R) → Parties.Run σ (Option (Answer q))
  | .execute request => fun (state, cancellations) =>
    let ((outcome, cancels), state) := parties.execute request state
    (some outcome, state, cancels.foldl .add cancellations)
  | .refresh refresher clientId => fun (state, cancellations) =>
    if cancellations.covers context.domain then (some none, state, cancellations)
    else
      let (polls, state) := parties.refresh refresher clientId state
      match context.run polls cancellations with
      | (.finished result, cancellations) => (some (some result), state, cancellations)
      | (.cancelled, cancellations) => (some none, state, cancellations)
      | (.waiting, cancellations) => (none, state, cancellations)

/-- **Executes a request** with the parties under a context; there is no outcome if a refresh stays
pending for ever. -/
def Parties.perform {σ : Type} (parties : Parties R σ) (refresher : Option R) (context : Context)
    (request : Request) : Parties.Run σ (Option Outcome) :=
  (Renewal.execute refresher context request).orNothing.run (parties.answer context)

end RealmKeeper.Registration.Renewal
