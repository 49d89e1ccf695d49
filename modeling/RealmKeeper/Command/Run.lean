import RealmKeeper.Command.Invocation
import RealmKeeper.Command.Table
import RealmKeeper.Provider.Layers
import RealmKeeper.Report
import RealmKeeper.Settings.Basic

/-!
# Running commands

* `Transcript`: what a run leaves behind;
* `perform`: the dialogue of an invocation with the provider;
* `run`: the dialogue of a command line.
-/

namespace RealmKeeper.Command

open RealmKeeper.Admin RealmKeeper.Client RealmKeeper.Json RealmKeeper.Text

/-- **What a run leaves behind**: its exit code, its output, and the error that ended it. -/
structure Transcript where
  exitCode : Nat
  output : String
  error : Option String
deriving DecidableEq, Repr

/-- **The outcome of a command**: what it asked before it began, its output, and its failure. -/
structure Outcome where
  prompt : String
  output : String
  failure : Option Report
deriving DecidableEq

/-- The exit code of a failure: 3 for a request that was not authorised, 2 for another unexpected
status, and otherwise 1. -/
def exitCode (r : Report) : Nat :=
  if r.isUnauthorized then 3 else if r.isStatusError then 2 else 1

/-- What the outcome of a command leaves behind. -/
def Outcome.transcript (o : Outcome) : Transcript :=
  let output := o.prompt ++ o.output
  match o.failure with
  | none => ⟨0, output, none⟩
  | some r => ⟨exitCode r, output, some ("Error: " ++ r.chain)⟩

/-! ### Before anything is sent -/

/-- A failure of the command itself. -/
def failed (text : String) : Report := .ofFailure (.other text)

/-- The base URL of an invocation. -/
def baseUrlOf (invocation : Invocation) : Except Report Url :=
  let text := invocation.baseUrl
  (Url.ofString text).mapError fun e =>
    (Report.ofFailure (.url e)).within ("parsing identity provider URL '" ++ text ++ "'")

/-- **The administrative client of an invocation**, which has one only with identifier and
secret. -/
def adminOf (invocation : Invocation) : Except Report (Option AdminClient) :=
  match invocation.adminClientId, invocation.adminClientSecret with
  | some clientId, some clientSecret =>
    (baseUrlOf invocation).bind fun url =>
      ((AdminClient.ofUrl url invocation.realm ⟨invocation.adminRealm, clientId, clientSecret⟩
        invocation.initialExpiration).mapError fun e => .ofFailure (.admin e)).map some
  | _, _ => .ok none

/-- The further members of metadata. -/
def furtherMembers : Option String → Except Report Dict
  | none => .ok .empty
  | some text =>
    match readBytes readJson (Utf8.bytes text) with
    | .error refusal =>
      .error ((Report.ofFailure (.decoding refusal.cause)).within "parsing --metadata")
    | .ok (.object members) => .ok (.ofMembers members)
    | .ok _ => .error (failed "--metadata must be a JSON object")

/-- **The metadata of arguments.** -/
def metadataOf (arguments : MetadataArguments) : Except Report ClientMetadata :=
  (furtherMembers arguments.further).map fun extra =>
    { ClientMetadata.blank with
      clientName := arguments.name
      redirectUris := arguments.redirectUris
      grantTypes := arguments.grantTypes
      responseTypes := arguments.responseTypes
      authMethod := arguments.authMethod
      scope := arguments.scope
      contacts := arguments.contacts
      extra }

/-- Where a client is registered. -/
def endpointOf (endpoint : Option String) (admin : Option AdminClient) : Except Report String :=
  match endpoint, admin with
  | some endpoint, _ => .ok endpoint
  | none, some admin => .ok admin.registrationEndpoint.text
  | none, none => .error (failed "register requires --admin-client-id and --admin-client-secret")

/-! ### Confirmation -/

/-- **What is asked before a command begins**: a deletion is confirmed, unless it was on the command
line. -/
def promptOf : Action → String
  | .delete client false =>
    "Are you sure you want to delete client '" ++ client.clientId ++ "'? (y/N)\n"
  | _ => ""

/-- The first line of an input, with what ends it. -/
def firstLine (input : List UInt8) : List UInt8 :=
  input.takeWhile (· ≠ 0x0A)

/-- An answer that confirms. Only letters of ASCII have these small letters. -/
def confirms (answer : List Char) : Bool :=
  let answer := String.ofList ((trim answer).map Char.toLower)
  answer = "y" || answer = "yes"

/-- **Whether the first line of an input confirms.** -/
def confirmation (input : List UInt8) : Except Report Bool :=
  match Utf8.decode (firstLine input) with
  | some line => .ok (confirms line)
  | none => .error ((failed "stream did not contain valid UTF-8").within "reading confirmation")

/-! ### Commands -/

/-- A client as it is printed. -/
def clientText (format : OutputFormat) (showSecrets : Bool) (i : ClientInformation) : String :=
  match format with
  | .json => compact i.toJson ++ "\n"
  | .indented => pretty i.toJson ++ "\n"
  | .table => tableText (clientRows showSecrets i)

/-- The outcome that prints a result, or reports an error in a context. -/
def conclude {α : Type} (prompt context : String) (print : α → String) :
    Except Registration.RegistrationError α → Outcome
  | .ok a => ⟨prompt, print a, none⟩
  | .error e => ⟨prompt, "", some ((Report.ofFailure (.registration e)).within context)⟩

/-- A dialogue with the provider that ends with an outcome. -/
abbrev Session : Type := Dialog Admin.Answer Outcome

/-- A command that fails before it does anything. -/
def stopped (prompt : String) (r : Report) : Session := .done ⟨prompt, "", some r⟩

/-- An operation with the provider, and what is printed of it. -/
def operate {α : Type} (admin : Option AdminClient)
    (operation : Registration.Operating AdminClient α) (prompt context : String)
    (print : α → String) : Session :=
  (Provider.registering admin operation).bind fun result =>
    .done (conclude prompt context print result)

/-- The context of a command. -/
def commandContext : Context := .ofDomain ⟨[]⟩

/-- The operation of a command with an administrative client, if there is one. -/
def performAction (invocation : Invocation) (input : List UInt8) (admin : Option AdminClient) :
    Session :=
  let print := clientText invocation.format invocation.showSecrets
  let prompt := promptOf invocation.action
  match invocation.action with
  | .register endpoint arguments =>
    match endpointOf endpoint admin, metadataOf arguments with
    | .error r, _ => stopped prompt r
    | .ok _, .error r => stopped prompt r
    | .ok endpoint, .ok metadata =>
      operate admin (Registration.register admin commandContext endpoint metadata) prompt
        "registering client" print
  | .get client =>
    operate admin
      (Registration.read commandContext client.clientId client.registrationUri
        client.registrationToken)
      prompt ("reading client '" ++ client.clientId ++ "'") print
  | .update client arguments =>
    match metadataOf arguments with
    | .error r => stopped prompt r
    | .ok metadata =>
      operate admin
        (Registration.update commandContext client.clientId client.registrationUri
          client.registrationToken metadata)
        prompt ("updating client '" ++ client.clientId ++ "'") print
  | .delete client confirmed =>
    match if confirmed then .ok true else confirmation input with
    | .error r => stopped prompt r
    | .ok false => .done ⟨prompt, "Deletion cancelled.\n", none⟩
    | .ok true =>
      operate admin
        (Registration.delete commandContext client.clientId client.registrationUri
          client.registrationToken)
        prompt ("deleting client '" ++ client.clientId ++ "'")
        fun _ => "Client '" ++ client.clientId ++ "' deleted successfully.\n"

/-- **The dialogue of an invocation.** The input is looked at only where something is asked. -/
def perform (invocation : Invocation) (input : List UInt8) : Session :=
  match adminOf invocation with
  | .error r => stopped "" r
  | .ok admin => performAction invocation input admin

/-- The name of the program with its version. -/
def versionText : String := "realm-registrar-clients " ++ Settings.version ++ "\n"

/-- What a line that ends early leaves behind. -/
def haltTranscript : Halt → Transcript
  | .usage => ⟨2, "", none⟩
  | .help => ⟨0, "", none⟩
  | .version => ⟨0, versionText, none⟩

/-- **The dialogue of a command line.** -/
def run (environment : Environment) (words : List (List UInt8)) (input : List UInt8) :
    Dialog Admin.Answer Transcript :=
  match Invocation.ofWords environment words with
  | .error h => .done (haltTranscript h)
  | .ok invocation =>
    (perform invocation input).bind fun outcome => .done outcome.transcript

end RealmKeeper.Command
