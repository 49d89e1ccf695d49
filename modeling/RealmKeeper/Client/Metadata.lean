import RealmKeeper.Client.WireName
import RealmKeeper.Json.Encode

/-!
# Client metadata

What is registered about a client, as it is sent to and echoed by the provider.

* `ClientMetadata`: fourteen declared members and a dictionary of all others;
* `ClientMetadata.read`: reading it from an object;
* `ClientMetadata.members`: the members it is written with, the declared ones first.
-/

namespace RealmKeeper.Client

open RealmKeeper.Json

/-- **The metadata of a client.** -/
structure ClientMetadata where
  clientName : Option String
  redirectUris : List String
  grantTypes : List GrantType
  responseTypes : List ResponseType
  authMethod : Option AuthMethod
  /-- Scope values, separated by spaces. -/
  scope : Option String
  contacts : List String
  clientUri : Option String
  logoUri : Option String
  policyUri : Option String
  tosUri : Option String
  jwksUri : Option String
  softwareId : Option String
  softwareVersion : Option String
  /-- Members that are not declared above. -/
  extra : Dict

namespace ClientMetadata

/-- Metadata that says nothing. -/
def blank : ClientMetadata where
  clientName := none
  redirectUris := []
  grantTypes := []
  responseTypes := []
  authMethod := none
  scope := none
  contacts := []
  clientUri := none
  logoUri := none
  policyUri := none
  tosUri := none
  jwksUri := none
  softwareId := none
  softwareVersion := none
  extra := Dict.empty

instance : Inhabited ClientMetadata := ⟨blank⟩

/-! ### Reading -/

section Reading

variable {φ : Type} [Medium φ]

/-- The declared members, in order. -/
def shape : Shape φ ClientMetadata where
  name := "ClientMetadata"
  fields := [
    .of "client_name" false (readOption readString) fun v m => { m with clientName := v },
    .of "redirect_uris" false (readList readString) fun v m => { m with redirectUris := v },
    .of "grant_types" false (readList OpenName.read) fun v m => { m with grantTypes := v },
    .of "response_types" false (readList OpenName.read) fun v m => { m with responseTypes := v },
    .of "token_endpoint_auth_method" false (readOption OpenName.read) fun v m =>
      { m with authMethod := v },
    .of "scope" false (readOption readString) fun v m => { m with scope := v },
    .of "contacts" false (readList readString) fun v m => { m with contacts := v },
    .of "client_uri" false (readOption readString) fun v m => { m with clientUri := v },
    .of "logo_uri" false (readOption readString) fun v m => { m with logoUri := v },
    .of "policy_uri" false (readOption readString) fun v m => { m with policyUri := v },
    .of "tos_uri" false (readOption readString) fun v m => { m with tosUri := v },
    .of "jwks_uri" false (readOption readString) fun v m => { m with jwksUri := v },
    .of "software_id" false (readOption readString) fun v m => { m with softwareId := v },
    .of "software_version" false (readOption readString) fun v m => { m with softwareVersion := v }]

/-- Keeps a member that is not declared. -/
def keepExtra (name : String) (t : ValueTree φ) (m : ClientMetadata) : Decoded ClientMetadata :=
  (readWritten t).map fun v => { m with extra := m.extra.insert name v }

/-- **Reads metadata** from an object. -/
def read : ValueTree φ → Decoded ClientMetadata :=
  shape.readOpen keepExtra blank

end Reading

/-! ### Writing -/

/-- The declared members that say something, in order. -/
def declaredMembers (m : ClientMetadata) : List (String × Json) :=
  textMember? "client_name" m.clientName ++
  listMember "redirect_uris" (m.redirectUris.map .string) ++
  listMember "grant_types" (m.grantTypes.map OpenName.toJson) ++
  listMember "response_types" (m.responseTypes.map OpenName.toJson) ++
  member? "token_endpoint_auth_method" (m.authMethod.map OpenName.toJson) ++
  textMember? "scope" m.scope ++
  listMember "contacts" (m.contacts.map .string) ++
  textMember? "client_uri" m.clientUri ++
  textMember? "logo_uri" m.logoUri ++
  textMember? "policy_uri" m.policyUri ++
  textMember? "tos_uri" m.tosUri ++
  textMember? "jwks_uri" m.jwksUri ++
  textMember? "software_id" m.softwareId ++
  textMember? "software_version" m.softwareVersion

/-- The members that metadata is written with: the declared ones, then the others by name. -/
def members (m : ClientMetadata) : List (String × Json) :=
  m.declaredMembers ++ m.extra.members

/-- **Metadata as it is written.** -/
def toJson (m : ClientMetadata) : Json :=
  .object m.members

/-- Metadata as a dictionary; where a name is given twice, the undeclared member stands. -/
def toDict (m : ClientMetadata) : Dict :=
  Dict.ofMembers m.members

/-- **The document that replaces a registration**: the metadata and the identifier of the
client. -/
def updateDocument (m : ClientMetadata) (clientId : String) : Json :=
  (m.toDict.insert "client_id" (.string clientId)).toJson

end ClientMetadata

end RealmKeeper.Client
