import RealmKeeper.Admin.Client
import RealmKeeper.Settings.Error
import RealmKeeper.Text.Separated
import RealmKeeper.Text.Utf8
import RealmKeeper.Url.Parse

/-!
# Settings

What the review server is told by its environment.

* `Environment`: the variables that are set, and the octets they are set to;
* `Settings`, and `Settings.ofEnvironment`, which looks at the variables in a fixed order and stops
  at the first one that cannot be used;
* the readers of the single values: `port`, `timeout`, `expiration`, `baseUrl`, `denyList`,
  `certificateBundles`.
-/

namespace RealmKeeper

/-- **The variables that are set.** -/
abbrev Environment : Type := String → Option (List UInt8)

/-- The text of a variable; one that is not UTF-8 has none. -/
def Environment.text? (environment : Environment) (name : String) : Option String :=
  (environment name).bind Text.Utf8.string?

/-- **The settings of the review server.** -/
structure Settings where
  /-- The files with certificates to trust. -/
  certificateBundles : List String
  requestTimeout : Duration
  port : UInt16
  userAgent : String
  baseUrl : Url
  realm : String
  adminRealm : String
  adminClientId : String
  adminClientSecret : String
  /-- The realms that are never admitted. -/
  denyList : List String
  initialExpiration : Duration
deriving DecidableEq

namespace Settings

/-- The version of the programs. -/
def version : String := "0.1.0"

/-- How the programs name themselves to the provider. -/
def defaultUserAgent : String := "realm-registrar/" ++ version

/-! ### Single values -/

/-- Reads digits as a number of 16 bits, after those that gave `n`. -/
def portDigits : Nat → List Char → Except PortFault UInt16
  | n, [] => .ok (UInt16.ofNat n)
  | n, c :: rest =>
    if !c.isDigit then .error .invalidDigit
    else
      let n := 10 * n + (c.toNat - 0x30)
      if 65535 < n then .error .tooLarge else portDigits n rest

/-- Reads a number of 16 bits; a plus sign may stand before it. -/
def portNumber : List Char → Except PortFault UInt16
  | [] => .error .empty
  | ['+'] => .error .invalidDigit
  | '+' :: digits => portDigits 0 digits
  | digits => portDigits 0 digits

/-- The port when none is given. -/
def defaultPort : UInt16 := 8443

/-- **The port**; an empty text stands for the default. -/
def readPort (text : String) : Except SettingsError UInt16 :=
  if text.isEmpty then .ok defaultPort
  else (portNumber text.toList).mapError .port

/-- A length of time. -/
def readDuration (text : String) : Except SettingsError Duration :=
  match Duration.parse? text.toList with
  | some d => .ok d
  | none => .error (.duration text)

/-- **The time that a request may take**; an empty text stands for ten seconds. -/
def readTimeout (text : String) : Except SettingsError Duration :=
  if text.isEmpty then .ok (.ofSeconds 10) else readDuration text

/-- **The lifetime of initial access tokens.** -/
def readExpiration (text : String) : Except SettingsError Duration :=
  readDuration text

/-- **The URL of the provider.** -/
def readBaseUrl (text : String) : Except SettingsError Url :=
  (Url.ofString text).mapError (.url text)

/-- **The realms that are never admitted**, between commas. -/
def readDenyList (text : Option String) : List String :=
  Text.entryStrings ',' (text.getD "")

/-- **The files with certificates**, between semicolons. -/
def readCertificateBundles (text : Option String) : List String :=
  Text.entryStrings ';' (text.getD "")

/-! ### All settings -/

/-- The value of a variable that must not be missing or empty. -/
def required (environment : Environment) (name : String) : Except SettingsError String :=
  match (environment.text? name).filter fun text => !text.isEmpty with
  | some text => .ok text
  | none => .error (.required name)

/-- The value of a variable, or the default. -/
def valueOr (environment : Environment) (name default : String) : String :=
  (environment.text? name).getD default

/-- **The settings in an environment.** -/
def ofEnvironment (environment : Environment) : Except SettingsError Settings := do
  let requestTimeout ← readTimeout (valueOr environment "HTTP_CLIENT_TIMEOUT" "10s")
  let port ← readPort (valueOr environment "HTTP_PORT" "8443")
  let baseUrl ← readBaseUrl (← required environment "IDP_BASE_URL")
  let adminClientId ← required environment "IDP_ADMIN_CLIENT_ID"
  let adminClientSecret ← required environment "IDP_ADMIN_CLIENT_SECRET"
  let initialExpiration ←
    readExpiration (valueOr environment "INITIAL_ACCESS_TOKEN_EXPIRATION" "5m")
  return {
    certificateBundles := readCertificateBundles (environment.text? "CERTIFICATE_BUNDLES")
    requestTimeout
    port
    userAgent := valueOr environment "USER_AGENT" defaultUserAgent
    baseUrl
    realm := valueOr environment "IDP_REALM" "master"
    adminRealm := valueOr environment "IDP_ADMIN_REALM" "master"
    adminClientId
    adminClientSecret
    denyList := readDenyList (environment.text? "REALM_DENY_LIST")
    initialExpiration }

/-- Who the administrative client is. -/
def adminCredentials (s : Settings) : Admin.AdminCredentials :=
  ⟨s.adminRealm, s.adminClientId, s.adminClientSecret⟩

/-- The administrative secret as diagnostics show it. -/
def secretText : String := "AdminClientSecret(" ++ Admin.redacted ++ ")"

end Settings

end RealmKeeper
