import RealmKeeper.Client.Metadata

/-!
# Client information

What the provider answers about a registered client: the registration itself and the metadata.

* `ClientInformation`: the six members of the registration and the metadata;
* `ClientInformation.read`: reading it from an object;
* `ClientInformation.members`: the members it is written with.
-/

namespace RealmKeeper.Client

open RealmKeeper.Json

/-- **A registered client**, as the provider describes it. -/
structure ClientInformation where
  clientId : String
  clientSecret : Option String
  /-- Seconds since the epoch; zero when not given. -/
  issuedAt : Int64
  /-- Seconds since the epoch; zero when not given or when the secret does not expire. -/
  secretExpiresAt : Int64
  /-- The token that authorises access to the registration; empty when not given. -/
  registrationToken : String
  /-- Where the registration is read, updated and deleted; empty when not given. -/
  registrationUri : String
  metadata : ClientMetadata

namespace ClientInformation

/-- Information that says nothing. -/
def blank : ClientInformation :=
  ⟨"", none, 0, 0, "", "", ClientMetadata.blank⟩

instance : Inhabited ClientInformation := ⟨blank⟩

/-! ### Reading -/

/-- Information whose metadata has not been read yet, with the members that are left for it in
reverse. -/
structure Draft where
  information : ClientInformation
  others : List (String × Json)

section Reading

variable {φ : Type} [Medium φ]

/-- A member of the registration itself. -/
def ownField {α : Type} (name : String) (required : Bool) (read : ValueTree φ → Decoded α)
    (put : α → ClientInformation → ClientInformation) : Field φ Draft :=
  .of name required read fun v d => { d with information := put v d.information }

/-- The members of the registration itself, in order. -/
def shape : Shape φ Draft where
  name := "ClientInformation"
  fields := [
    ownField "client_id" true readString fun v i => { i with clientId := v },
    ownField "client_secret" false (readOption readString) fun v i => { i with clientSecret := v },
    ownField "client_id_issued_at" false readInt64 fun v i => { i with issuedAt := v },
    ownField "client_secret_expires_at" false readInt64 fun v i => { i with secretExpiresAt := v },
    ownField "registration_access_token" false readString fun v i =>
      { i with registrationToken := v },
    ownField "registration_client_uri" false readString fun v i => { i with registrationUri := v }]

/-- Keeps a member for the metadata. -/
def keepOther (name : String) (t : ValueTree φ) (d : Draft) : Decoded Draft :=
  (readWritten t).map fun v => { d with others := (name, v) :: d.others }

/-- **Reads information** from an object: first the members of the registration itself, then the
metadata from all the others. -/
def read (t : ValueTree φ) : Decoded ClientInformation :=
  match shape.readOpen keepOther ⟨blank, []⟩ t with
  | .error r => .error r
  | .ok draft =>
    (ClientMetadata.read (.object draft.others.reverse : Json)).map fun metadata =>
      { draft.information with metadata }

end Reading

/-! ### Writing -/

/-- The members of the registration itself that say something, in order. -/
def ownMembers (i : ClientInformation) : List (String × Json) :=
  [("client_id", .string i.clientId)] ++
  textMember? "client_secret" i.clientSecret ++
  nonZeroMember "client_id_issued_at" i.issuedAt ++
  nonZeroMember "client_secret_expires_at" i.secretExpiresAt ++
  nonEmptyMember "registration_access_token" i.registrationToken ++
  nonEmptyMember "registration_client_uri" i.registrationUri

/-- The members that information is written with: its own, then those of the metadata. -/
def members (i : ClientInformation) : List (String × Json) :=
  i.ownMembers ++ i.metadata.members

/-- **Information as it is written.** -/
def toJson (i : ClientInformation) : Json :=
  .object i.members

end ClientInformation

end RealmKeeper.Client
