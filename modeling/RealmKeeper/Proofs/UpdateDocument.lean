import RealmKeeper.Proofs.PostedDocument
import RealmKeeper.Proofs.SingleRetry

/-!
# The document of an update

An update replaces all that is registered about a client by one document. What this document says of
each name, and that it is sent as it is, also when the request is repeated with a new token.

* `ClientMetadata.declaredValue?`: the value of each declared member, and
  `ClientMetadata.lookup_declaredMembers`: the one that is written;
* `ClientMetadata.updateValue?`: what an update says of a name;
* `Parties.sent`: the requests that are executed in a run of an operation, with the repeated ones;
* `update_sends_one_document`: an update sends the document with these values, and no other.
-/

namespace RealmKeeper.Client.ClientMetadata

open RealmKeeper.Json

/-! ### What the document says -/

/-- The value of a list, unless it is empty. -/
def listValue? : List Json → Option Json
  | [] => none
  | items => some (.array items)

/-- **The value of a declared member**; `none` where it is absent or empty, and for any other
name. -/
def declaredValue? (m : ClientMetadata) : String → Option Json
  | "client_name" => m.clientName.map .string
  | "redirect_uris" => listValue? (m.redirectUris.map .string)
  | "grant_types" => listValue? (m.grantTypes.map OpenName.toJson)
  | "response_types" => listValue? (m.responseTypes.map OpenName.toJson)
  | "token_endpoint_auth_method" => m.authMethod.map OpenName.toJson
  | "scope" => m.scope.map .string
  | "contacts" => listValue? (m.contacts.map .string)
  | "client_uri" => m.clientUri.map .string
  | "logo_uri" => m.logoUri.map .string
  | "policy_uri" => m.policyUri.map .string
  | "tos_uri" => m.tosUri.map .string
  | "jwks_uri" => m.jwksUri.map .string
  | "software_id" => m.softwareId.map .string
  | "software_version" => m.softwareVersion.map .string
  | _ => none

/-- **What an update says of a name**: the identifier is the one of the client, whatever else the
metadata says; an undeclared member comes before a declared one. -/
def updateValue? (m : ClientMetadata) (clientId name : String) : Option Json :=
  if name = "client_id" then some (.string clientId)
  else (m.extra.get? name).or (m.declaredValue? name)

theorem lookup_member? (name other : String) (value : Option Json) :
    lookup name (member? other value) = if name = other then value else none := by
  cases value <;> simp [member?, lookup]

theorem listMember_eq (name : String) (items : List Json) :
    listMember name items = member? name (listValue? items) := by
  cases items <;> rfl

/-- **The declared members that are written** have their values. -/
theorem lookup_declaredMembers (m : ClientMetadata) (name : String) :
    lookup name m.declaredMembers = m.declaredValue? name := by
  simp only [declaredMembers, textMember?, listMember_eq, lookup_append, lookup_member?]
  fun_cases declaredValue? m name
  case case15 => simp_all -- the name of no declared member
  all_goals simp

theorem valuesOf_declaredMembers (m : ClientMetadata) (name : String) :
    valuesOf name m.declaredMembers = (m.declaredValue? name).toList ∧
      ∀ value ∈ m.declaredValue? name, canonical value = value := by
  rw [← lookup_declaredMembers, lookup_eq_head?, declaredMembers_eq]
  by_cases hn : name ∈ layout.names
  · obtain ⟨s, hs, rfl⟩ := List.mem_map.mp hn
    rw [Layout.valuesOf_written hs, Option.head?_toList]
    exact ⟨rfl, fun _ => s.canonical_written⟩
  · rw [Layout.valuesOf_written_of_not_mem hn]
    exact ⟨rfl, nofun⟩

/-- **The document of an update** says of every name what it should. -/
theorem lookup_toDict_insert (m : ClientMetadata) (clientId name : String) :
    lookup name (m.toDict.insert "client_id" (.string clientId)).members =
      m.updateValue? clientId name := by
  obtain ⟨declared, canonical⟩ := m.valuesOf_declaredMembers name
  rw [lookup_eq_head?, valuesOf_toDict_insert, updateValue?]
  by_cases h : name = "client_id"
  · rw [if_pos h, if_pos h]
    rfl
  -- an undeclared member is written after the declared one, and the last one stands
  rw [if_neg h, if_neg h, Option.head?_toList, members, valuesOf_append, declared,
    Dict.valuesOf_members]
  cases extra : m.extra.get? name with
  | some value => simp [Dict.canonical_get? extra]
  | none => simpa using last_toList canonical

end RealmKeeper.Client.ClientMetadata

namespace RealmKeeper.Registration

open RealmKeeper.Http RealmKeeper.Client RealmKeeper.Json RealmKeeper.Admin

variable {S R σ α : Type}

/-! ### What is sent -/

namespace Renewal.Parties

variable (parties : Parties R σ) (refresher : Option R)
  (tokens : S → Context → Run σ (Option (Except AdminError String)))

/-- The answers to an operation whose requests are executed by the parties, once more where a token
is renewed. -/
def answers : (q : Registration.Question S) → Run σ (Option (Registration.Answer q))
  | .initialToken source context => tokens source context
  | .execute context request => parties.perform refresher context request

/-- **The requests that are executed in a run** of an operation, in order, with those that are
repeated. -/
def sent (d : Registration.Operating S α) (start : σ × Cancellations) : List Request :=
  (d.orNothing.history (parties.answers refresher tokens) start).flatMap fun moment =>
    match moment.1 with
    | .initialToken _ _ => []
    | .execute context request => parties.executed refresher context request moment.2

theorem sent_executeForInformation (context : Context) (operation : Operation)
    (request : Request) (start : σ × Cancellations) :
    parties.sent refresher tokens (executeForInformation context operation request) start =
      parties.executed refresher context request start := by
  unfold sent executeForInformation
  rcases answered : parties.answers refresher tokens (.execute context request) start with
    ⟨answer, finish⟩
  cases answer with
  | none => rw [Dialog.history_orNothing_of_none _ answered, List.flatMap_singleton]
  | some outcome =>
    rw [Dialog.history_orNothing_of_some _ answered, Dialog.orNothing_done, Dialog.history_done,
      List.flatMap_singleton]

/-- **A request is executed once or twice**, and its body is the same. -/
theorem bodies_executed (context : Context) (request : Request) (start : σ × Cancellations) :
    (parties.executed refresher context request start).map Request.body = [request.body] ∨
      (parties.executed refresher context request start).map Request.body =
        [request.body, request.body] := by
  rcases exists_shows parties refresher context request start with
    ⟨outcome, finish, rules⟩ | ⟨_, _, executed, -⟩
  · generalize parties.executed refresher context request start = executed,
      parties.renewed refresher context request start = renewed at rules
    cases rules with
    | repeated => exact .inr rfl
    | _ => exact .inl rfl
  · rw [executed]
    exact .inl rfl

end Renewal.Parties

/-- **An update sends one document**, whoever executes its request and renews its token: every name
has one value in it, that of the rule, and where the request is repeated it carries the same
document. If the update does not pass its checks, nothing is sent. -/
theorem update_sends_one_document (metadata : ClientMetadata) (clientId : String) :
    ∃ members : List (String × Json), (members.map Prod.fst).Nodup ∧
      (∀ name, lookup name members = metadata.updateValue? clientId name) ∧
      ∀ {S R σ : Type} (parties : Renewal.Parties R σ) (refresher : Option R)
        (tokens : S → Context → Renewal.Parties.Run σ (Option (Except AdminError String)))
        (context : Context) (registrationUri token : String) (start : σ × Cancellations),
        let sent := parties.sent refresher tokens
          (update context clientId registrationUri token metadata) start
        let document := RequestBody.octets (bytes (.object members))
        IsAddressed .update registrationUri token ∧
            (sent.map Request.body = [document] ∨ sent.map Request.body = [document, document]) ∨
          ¬ IsAddressed .update registrationUri token ∧ sent = [] := by
  have once := (metadata.toDict.insert "client_id" (.string clientId)).nodup_names
  refine ⟨_, once, metadata.lookup_toDict_insert clientId, ?_⟩
  intro S R σ parties refresher tokens context registrationUri token start
  rcases update_cases S context clientId registrationUri token metadata with
    ⟨addressed, request, body, executes⟩ | ⟨fails, e, ends⟩
  · have executed := parties.bodies_executed refresher (context.forClient clientId) request start
    rw [body] at executed
    rw [executes, parties.sent_executeForInformation]
    exact .inl ⟨addressed, executed⟩
  · rw [ends]
    exact .inr ⟨fails, rfl⟩

end RealmKeeper.Registration
