import RealmKeeper.Client.WireName
import RealmKeeper.Command.Options
import RealmKeeper.Duration

/-!
# The command line

The command line of the client program: options for all commands, a command, and its options.

* `Invocation`: what is to be done, and how;
* `Invocation.ofWords`: the invocation that words and variables spell out.
-/

namespace RealmKeeper.Command

open RealmKeeper.Client RealmKeeper.Text

/-- How a client is printed. -/
inductive OutputFormat where
  | json
  | indented
  | table
deriving DecidableEq, Repr

/-- The format of a name. -/
def OutputFormat.ofName? : String → Option OutputFormat
  | "json" => some .json
  | "json-pretty" => some .indented
  | "table" => some .table
  | _ => none

/-- Which registration a command is about. -/
structure ClientArguments where
  clientId : String
  registrationUri : String
  registrationToken : String
deriving DecidableEq, Repr

/-- What is to be registered about a client. -/
structure MetadataArguments where
  name : Option String
  redirectUris : List String
  grantTypes : List GrantType
  responseTypes : List ResponseType
  scope : Option String
  authMethod : Option AuthMethod
  contacts : List String
  /-- The text of a JSON object with further members. -/
  further : Option String
deriving DecidableEq, Repr

/-- **A command.** -/
inductive Action where
  | register (endpoint : Option String) (metadata : MetadataArguments)
  | get (client : ClientArguments)
  | update (client : ClientArguments) (metadata : MetadataArguments)
  | delete (client : ClientArguments) (confirmed : Bool)
deriving DecidableEq, Repr

/-- **What is to be done, and how.** -/
structure Invocation where
  baseUrl : String
  realm : String
  adminRealm : String
  adminClientId : Option String
  adminClientSecret : Option String
  initialExpiration : Duration
  timeout : Duration
  verbose : Bool
  format : OutputFormat
  showSecrets : Bool
  action : Action
deriving DecidableEq, Repr

/-! ### Options -/

/-- Every text is a value. -/
def anyValue (_ : String) : Bool := true

/-- The text is a length of time. -/
def isDuration (text : String) : Bool := (Duration.parse? text.toList).isSome

/-- The text is the name of a format. -/
def isFormat (text : String) : Bool := (OutputFormat.ofName? text).isSome

/-- A flag. -/
def flag (name : String) : OptionSpec := ⟨name, none, .flag, none, anyValue⟩

/-- An option with a value. -/
def single (name : String) : OptionSpec := ⟨name, none, .single, none, anyValue⟩

/-- An option that may be given several times. -/
def repeated (name : String) : OptionSpec := ⟨name, none, .repeated, none, anyValue⟩

/-- An option with a variable. -/
def withVariable (name variableName : String) : OptionSpec :=
  ⟨name, none, .single, some variableName, anyValue⟩

/-- The options for all commands. -/
def commonOptions : List OptionSpec := [
  withVariable "idp-base-url" "IDP_BASE_URL",
  withVariable "realm" "IDP_REALM",
  withVariable "admin-realm" "IDP_ADMIN_REALM",
  withVariable "admin-client-id" "IDP_ADMIN_CLIENT_ID",
  withVariable "admin-client-secret" "IDP_ADMIN_CLIENT_SECRET",
  { withVariable "initial-access-expiration" "INITIAL_ACCESS_TOKEN_EXPIRATION" with
    accepts := isDuration },
  { withVariable "timeout" "HTTP_CLIENT_TIMEOUT" with accepts := isDuration },
  { flag "verbose" with letter := some 'v' },
  { single "format" with accepts := isFormat },
  flag "show-secrets"]

/-- The options that name a registration. -/
def clientOptions : List OptionSpec := [
  withVariable "client-id" "REGISTRAR_CLIENT_ID",
  withVariable "registration-uri" "REGISTRAR_REGISTRATION_URI",
  withVariable "registration-token" "REGISTRAR_REGISTRATION_TOKEN"]

/-- The options that describe a client. -/
def metadataOptions : List OptionSpec := [
  single "name", repeated "redirect-uri", repeated "grant-type", repeated "response-type",
  single "scope", single "auth-method", repeated "contact", single "metadata"]

/-- The options of each command. -/
def actionOptions : String → Option (List OptionSpec)
  | "register" => some (single "endpoint" :: metadataOptions)
  | "get" => some clientOptions
  | "update" => some (clientOptions ++ metadataOptions)
  | "delete" => some (clientOptions ++ [flag "yes"])
  | _ => none

/-! ### Reading -/

/-- The registration that options name. -/
def clientArguments (given : Given) : Except Halt ClientArguments := do
  return ⟨← given.required "client-id", ← given.required "registration-uri",
    ← given.required "registration-token"⟩

/-- The description of a client in options. -/
def metadataArguments (given : Given) : MetadataArguments where
  name := given.value? "name"
  redirectUris := given.values "redirect-uri"
  grantTypes := (given.values "grant-type").map OpenName.ofName
  responseTypes := (given.values "response-type").map OpenName.ofName
  scope := given.value? "scope"
  authMethod := (given.value? "auth-method").map OpenName.ofName
  contacts := given.values "contact"
  further := given.value? "metadata"

/-- A command with its options. -/
def actionOf (name : String) (given : Given) : Except Halt Action :=
  match name with
  | "register" => .ok (.register (given.value? "endpoint") (metadataArguments given))
  | "get" => (clientArguments given).map .get
  | "update" => (clientArguments given).map fun client => .update client (metadataArguments given)
  | "delete" => (clientArguments given).map fun client => .delete client (given.has "yes")
  | _ => .error .usage

/-- The length of time that an option or its default stands for. -/
def durationOf (given : Given) (name default : String) : Except Halt Duration :=
  match Duration.parse? ((given.value? name).getD default).toList with
  | some d => .ok d
  | none => .error .usage

/-- The format that an option or its default stands for. -/
def formatOf (given : Given) : Except Halt OutputFormat :=
  match OutputFormat.ofName? ((given.value? "format").getD "json") with
  | some format => .ok format
  | none => .error .usage

/-- The name of a command and the words behind it. -/
def actionWords : List (List UInt8) → Except Halt (String × List (List UInt8))
  | [] => .error .usage
  | word :: rest =>
    match Utf8.string? word with
    | some name => .ok (name, rest)
    | none => .error .usage

/-- The options of a command, which end the line. -/
def scanAction (specs : List OptionSpec) (words : List (List UInt8)) : Except Halt Given :=
  match scan specs false words [] with
  | .error h => .error h
  | .ok (given, []) => .ok given
  | .ok (_, _ :: _) => .error .usage

namespace Invocation

/-- The invocation of a command with all options. -/
def ofGiven (common : Given) (action : Action) : Except Halt Invocation := do
  return {
    baseUrl := ← common.required "idp-base-url"
    realm := (common.value? "realm").getD "master"
    adminRealm := (common.value? "admin-realm").getD "master"
    adminClientId := common.value? "admin-client-id"
    adminClientSecret := common.value? "admin-client-secret"
    initialExpiration := ← durationOf common "initial-access-expiration" "5m"
    timeout := ← durationOf common "timeout" "10s"
    verbose := common.has "verbose"
    format := ← formatOf common
    showSecrets := common.has "show-secrets"
    action }

/-- **The invocation that words and variables spell out.** The words are read first, in order; a
request for help or for the version ends the reading. -/
def ofWords (environment : Environment) (words : List (List UInt8)) : Except Halt Invocation := do
  let (common, rest) ← scan commonOptions true words []
  let (name, rest) ← actionWords rest
  match actionOptions name with
  | none => throw (if name = "help" then .help else .usage)
  | some specs =>
    let given ← scanAction specs rest
    let action ← actionOf name (← settle environment specs given)
    ofGiven (← settle environment commonOptions common) action

end Invocation

end RealmKeeper.Command
