import RealmKeeper.Json.Decode

/-!
# Names on the wire

The enumerated values of client registration, and the names they are written with.

* `Named`: an enumeration whose names tell its values apart;
* `OpenName`: a value of such an enumeration or any other name;
* `Operation`, and the open names `GrantType`, `ResponseType` and `AuthMethod`.
-/

namespace RealmKeeper.Client

open RealmKeeper.Json

/-- An enumeration with a name for each value. -/
class Named (κ : Type) where
  /-- The name of the enumeration itself. -/
  title : String
  all : List κ
  name : κ → String
  mem_all : ∀ k, k ∈ all
  name_injective : ∀ a b, name a = name b → a = b

/-- The value of a name. -/
def Named.find? (κ : Type) [Named κ] (name : String) : Option κ :=
  (Named.all (κ := κ)).find? fun k => Named.name k = name

/-- **A value of an enumeration, or any other name.** -/
inductive OpenName (κ : Type) where
  | known (value : κ)
  | other (name : String)
deriving DecidableEq, Repr

namespace OpenName

variable {κ : Type} [Named κ]

/-- **Every text is a name**; those of the enumeration stand for its values. -/
def ofName (name : String) : OpenName κ :=
  match Named.find? κ name with
  | some k => .known k
  | none => .other name

/-- The name of a value. -/
def name : OpenName κ → String
  | .known k => Named.name k
  | .other name => name

/-- Reads a name from a document. -/
def read {φ : Type} [Medium φ] : ValueTree φ → Decoded (OpenName κ) :=
  readOpenName (Named.title κ) (fun name => (Named.find? κ name).isSome) ofName

/-- A name as it is written. -/
def toJson (n : OpenName κ) : Json :=
  .string n.name

end OpenName

/-- Reads a value of a closed enumeration. -/
def Named.read {κ : Type} [Named κ] {φ : Type} [Medium φ] : ValueTree φ → Decoded κ :=
  readVariant ((Named.all (κ := κ)).map fun k => (Named.name k, k))

/-! ### Operations -/

/-- **What is done with a registration.** -/
inductive Operation where
  | register
  | read
  | update
  | delete
deriving DecidableEq, Repr

/-- The name of an operation. -/
def Operation.name : Operation → String
  | .register => "register"
  | .read => "read"
  | .update => "update"
  | .delete => "delete"

instance : Named Operation where
  title := "Operation"
  all := [.register, .read, .update, .delete]
  name := Operation.name
  mem_all := fun k => by cases k <;> decide
  name_injective := fun a b => by cases a <;> cases b <;> decide

/-! ### Grant types -/

/-- The grant types that have a name of their own. -/
inductive KnownGrant where
  | authorizationCode
  | clientCredentials
  | refreshToken
  | implicit
  | password
  | deviceCode
deriving DecidableEq, Repr

/-- The name of a grant type. -/
def KnownGrant.name : KnownGrant → String
  | .authorizationCode => "authorization_code"
  | .clientCredentials => "client_credentials"
  | .refreshToken => "refresh_token"
  | .implicit => "implicit"
  | .password => "password"
  | .deviceCode => "urn:ietf:params:oauth:grant-type:device_code"

instance : Named KnownGrant where
  title := "GrantType"
  all := [.authorizationCode, .clientCredentials, .refreshToken, .implicit, .password, .deviceCode]
  name := KnownGrant.name
  mem_all := fun k => by cases k <;> decide
  name_injective := fun a b => by cases a <;> cases b <;> decide

/-- A grant type of OAuth. -/
abbrev GrantType : Type := OpenName KnownGrant

/-! ### Response types -/

/-- The response types that have a name of their own. -/
inductive KnownResponse where
  | code
  | token
  | idToken
deriving DecidableEq, Repr

/-- The name of a response type. -/
def KnownResponse.name : KnownResponse → String
  | .code => "code"
  | .token => "token"
  | .idToken => "id_token"

instance : Named KnownResponse where
  title := "ResponseType"
  all := [.code, .token, .idToken]
  name := KnownResponse.name
  mem_all := fun k => by cases k <;> decide
  name_injective := fun a b => by cases a <;> cases b <;> decide

/-- A response type of OAuth. -/
abbrev ResponseType : Type := OpenName KnownResponse

/-! ### Authentication methods -/

/-- The ways of a client to authenticate that have a name of their own. -/
inductive KnownAuthMethod where
  | clientSecretBasic
  | clientSecretPost
  | clientSecretJwt
  | privateKeyJwt
  | tlsClientAuth
  | none
deriving DecidableEq, Repr

/-- The name of a way to authenticate. -/
def KnownAuthMethod.name : KnownAuthMethod → String
  | .clientSecretBasic => "client_secret_basic"
  | .clientSecretPost => "client_secret_post"
  | .clientSecretJwt => "client_secret_jwt"
  | .privateKeyJwt => "private_key_jwt"
  | .tlsClientAuth => "tls_client_auth"
  | .none => "none"

instance : Named KnownAuthMethod where
  title := "ClientAuthMethod"
  all := [.clientSecretBasic, .clientSecretPost, .clientSecretJwt, .privateKeyJwt, .tlsClientAuth,
    .none]
  name := KnownAuthMethod.name
  mem_all := fun k => by cases k <;> decide
  name_injective := fun a b => by cases a <;> cases b <;> decide

/-- How a client authenticates at the token endpoint. -/
abbrev AuthMethod : Type := OpenName KnownAuthMethod

end RealmKeeper.Client
