import RealmKeeper.Duration
import RealmKeeper.Instant
import RealmKeeper.Json.Decode
import RealmKeeper.Json.Encode

/-!
# Documents of the administrative interface
-/

namespace RealmKeeper.Admin

open RealmKeeper.Json

/-- **A client**, as the administrative interface lists it. -/
structure ClientEntry where
  /-- The name of the client inside the provider. -/
  id : String
  clientId : String
  name : Option String
  secret : Option String
deriving DecidableEq, Repr

/-- A token and its lifetime in seconds. -/
structure IssuedToken where
  token : String
  expiresIn : Option Int64
deriving DecidableEq

section Reading

variable {φ : Type} [Medium φ]

/-- The members of a listed client, in order. -/
def ClientEntry.shape : Shape φ ClientEntry where
  name := "ClientRepresentation"
  fields := [
    .of "id" true readString fun v c => { c with id := v },
    .of "clientId" true readString fun v c => { c with clientId := v },
    .of "name" false (readOption readString) fun v c => { c with name := v },
    .of "secret" false (readOption readString) fun v c => { c with secret := v }]

/-- Reads a list of clients. -/
def readClients : ValueTree φ → Decoded (List ClientEntry) :=
  readList (ClientEntry.shape.read ⟨"", "", none, none⟩)

/-- The members of an issued admin token, in order. -/
def IssuedToken.shape : Shape φ IssuedToken where
  name := "AdminTokenResponse"
  fields := [
    .of "access_token" true readString fun v t => { t with token := v },
    .of "expires_in" false (readOption readInt64) fun v t => { t with expiresIn := v }]

/-- Reads an issued admin token. -/
def IssuedToken.read : ValueTree φ → Decoded IssuedToken :=
  IssuedToken.shape.read ⟨"", none⟩

/-- Reads a document whose only member is a token. -/
def readTokenMember (record name : String) : ValueTree φ → Decoded String :=
  (Shape.mk record [.of name true readString fun v _ => v]).read ""

/-- Reads an initial access token. -/
def readInitialToken : ValueTree φ → Decoded String :=
  readTokenMember "InitialAccessResponse" "token"

/-- Reads a registration access token. -/
def readRegistrationToken : ValueTree φ → Decoded String :=
  readTokenMember "RegistrationAccessTokenResponse" "registrationAccessToken"

end Reading

/-- The greatest number of seconds that can be asked for. -/
def greatestExpiration : Nat := 9223372036854775807

/-- **The document that asks for an initial access token**: good for one registration, for so many
seconds. -/
def initialTokenDocument (expiration : Duration) : Json :=
  .object [("count", ofInt 1),
    ("expiration", .number (.integer (min expiration.seconds greatestExpiration : Nat) (by
      have h := Nat.min_le_right expiration.seconds greatestExpiration
      unfold greatestExpiration at h
      unfold Exact greatestExpiration
      omega)))]

end RealmKeeper.Admin
