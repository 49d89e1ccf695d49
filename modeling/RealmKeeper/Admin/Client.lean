import RealmKeeper.Admin.Documents
import RealmKeeper.Admin.Error
import RealmKeeper.Http.Base64
import RealmKeeper.Json.Text
import RealmKeeper.Url.Path

/-!
# The administrative client

Who talks to the administrative interface, the URLs it uses and the requests it makes.

* `AdminClient`, and `AdminClient.ofUrl`, which refuses a base URL that has no path;
* `AdminClient.endpoint`: the base URL with segments added, and the endpoints in use;
* `tokenRequest`, `realmRequest`, `initialTokenRequest`, `clientsRequest`, `renewalRequest`.
-/

namespace RealmKeeper.Admin

open RealmKeeper.Http RealmKeeper.Json

/-- Who the administrative client is. -/
structure AdminCredentials where
  /-- The realm that holds the administrative client. -/
  realm : String
  clientId : String
  clientSecret : String
deriving DecidableEq, Repr

/-- What diagnostics show in the place of a secret. -/
def redacted : String := "[REDACTED]"

/-- The credentials as diagnostics show them. -/
def AdminCredentials.describe (c : AdminCredentials) : String :=
  "AdminCredentials \x7b realm: " ++ Text.quotedString c.realm ++ ", client_id: " ++
    Text.quotedString c.clientId ++ ", client_secret: " ++ Text.quotedString redacted ++ " \x7d"

/-- The lifetime that is asked for initial access tokens unless another one is set. -/
def defaultInitialExpiration : Duration := .ofSeconds 300

/-- **The administrative client** of a realm. -/
structure AdminClient where
  baseUrl : Url
  hierarchical : baseUrl.isHierarchical = true
  realm : String
  credentials : AdminCredentials
  initialExpiration : Duration

/-- The administrative client with the given base URL. -/
def AdminClient.ofUrl (baseUrl : Url) (realm : String) (credentials : AdminCredentials)
    (initialExpiration : Duration) : Except AdminError AdminClient :=
  if h : baseUrl.isHierarchical = true then
    .ok ⟨baseUrl, h, realm, credentials, initialExpiration⟩
  else .error (.invalidBaseUrl baseUrl.text)

namespace AdminClient

/-! ### Endpoints -/

/-- **The base URL with texts added to its path**, each as one segment. -/
def endpoint (c : AdminClient) (texts : List String) : Url :=
  (c.baseUrl.extendPath (texts.map String.toList)).get (Url.isSome_extendPath c.hierarchical _)

/-- Where clients are registered. -/
def registrationEndpoint (c : AdminClient) : Url :=
  c.endpoint ["realms", c.realm, "clients-registrations", "openid-connect"]

/-- Where admin tokens are issued. -/
def tokenEndpoint (c : AdminClient) : Url :=
  c.endpoint ["realms", c.credentials.realm, "protocol", "openid-connect", "token"]

/-- Where a realm is looked up. -/
def realmEndpoint (c : AdminClient) (realm : String) : Url :=
  c.endpoint ["admin", "realms", realm]

/-- Where initial access tokens are issued. -/
def initialTokenEndpoint (c : AdminClient) : Url :=
  c.endpoint ["admin", "realms", c.realm, "clients-initial-access"]

/-- Where the clients with an identifier are listed. -/
def clientsEndpoint (c : AdminClient) (clientId : String) : Url :=
  (c.endpoint ["admin", "realms", c.realm, "clients"]).addQueryPair
    ("clientId".toList, clientId.toList)

/-- Where the registration token of a client is renewed. -/
def renewalEndpoint (c : AdminClient) (id : String) : Url :=
  c.endpoint ["admin", "realms", c.realm, "clients", id, "registration-access-token"]

/-! ### Requests -/

/-- A request, or why it cannot be made. -/
abbrev Prepared : Type := Except NetworkError Request

/-- User name and password of a URL as a credential. -/
def basicField (url : Url) : List (String × HeaderValue) :=
  if url.username.isEmpty && url.password.isNone then []
  else
    [("authorization", basicCredential (Url.unescape url.username)
      (Url.unescape (url.password.getD [])))]

/-- **A request to the provider.** User name and password leave its URL for a field. -/
def prepare (method : String) (url : Url) (fields : List (String × HeaderValue))
    (body : RequestBody) : Prepared :=
  if url.isHttp then
    .ok ⟨method, { url with username := [], password := none }, basicField url ++ fields, body⟩
  else .error (.scheme none)

/-- A request that presents an admin token. -/
def authorized (token method : String) (url : Url) (fields : List (String × HeaderValue))
    (body : RequestBody) : Prepared :=
  match prepare method url fields body with
  | .error e => .error e
  | .ok request =>
    match bearer? token with
    | none => .error (.building badHeaderValue)
    | some credential =>
      .ok { request with fields := request.fields ++
        [("authorization", credential), ("accept", HeaderValue.json)] }

/-- The form that asks for an admin token. -/
def tokenForm (c : AdminClient) : List Char :=
  Url.formText [("grant_type".toList, "client_credentials".toList),
    ("client_id".toList, c.credentials.clientId.toList),
    ("client_secret".toList, c.credentials.clientSecret.toList)]

/-- **Asks for an admin token.** -/
def tokenRequest (c : AdminClient) : Prepared :=
  prepare "POST" c.tokenEndpoint [("content-type", HeaderValue.form)]
    (.octets (Text.Utf8.encode c.tokenForm))

/-- **Looks a realm up.** -/
def realmRequest (c : AdminClient) (realm token : String) : Prepared :=
  authorized token "GET" (c.realmEndpoint realm) [] .none

/-- **Asks for an initial access token.** -/
def initialTokenRequest (c : AdminClient) (token : String) : Prepared :=
  authorized token "POST" c.initialTokenEndpoint [("content-type", HeaderValue.json)]
    (.octets (bytes (initialTokenDocument c.initialExpiration)))

/-- **Lists the clients with an identifier.** -/
def clientsRequest (c : AdminClient) (clientId token : String) : Prepared :=
  authorized token "GET" (c.clientsEndpoint clientId) [] .none

/-- **Renews the registration token of a client.** -/
def renewalRequest (c : AdminClient) (id token : String) : Prepared :=
  authorized token "POST" (c.renewalEndpoint id) [] .none

end AdminClient

end RealmKeeper.Admin
