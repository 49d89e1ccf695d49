import RealmKeeper.Report
import RealmKeeper.Server.Certificates
import RealmKeeper.Settings.Basic
import RealmKeeper.Webhook.Router
import RealmKeeper.Provider.Layers

/-!
# Starting the review server

* `Question`: the content of a file, and whether a port is free;
* `Service`: a server that is ready to answer;
* `start`: the dialogue from a command line to a service, or to an early end;
* `Service.handle`: the dialogue about one request, with the provider as directory of realms.
-/

namespace RealmKeeper.Server

open RealmKeeper.Admin RealmKeeper.Http RealmKeeper.Text

/-- What starting asks for. -/
inductive Question where
  /-- The content of a file. -/
  | contentOf (path : String)
  /-- Whether the server can listen at a port. -/
  | listen (port : UInt16)
deriving DecidableEq

/-- What is answered; a file that cannot be read has a reason. -/
def Answer : Question → Type
  | .contentOf _ => Except String (List UInt8)
  | .listen _ => Bool

/-- **A server that is ready to answer.** -/
structure Service where
  settings : Settings
  admin : AdminClient
  /-- How it names itself to the provider. -/
  agent : HeaderValue

/-- **How starting ends.** -/
inductive Ending where
  /-- The version was asked for. -/
  | version
  | failed (r : Report)
  /-- The port is not free; nothing is reported but the end. -/
  | occupied
  | serving (service : Service)

/-- The exit code of a program that ends so. A service ends well. -/
def Ending.exitCode : Ending → Nat
  | .failed _ => 1
  | _ => 0

/-- The output of a program that ends so. -/
def Ending.output : Ending → String
  | .version => Settings.version ++ "\n"
  | _ => ""

/-- The error of a program that ends so. -/
def Ending.error : Ending → Option String
  | .failed r => some ("Error: " ++ r.paragraphs)
  | _ => none

/-! ### Checks -/

/-- The report of a network error. -/
def buildReport (cause : String) : Report :=
  .ofFailure (.network (.building cause))

/-- A trusted file, in which all certificates have the form of one. -/
def checkFile (file : List UInt8) : Except Report Unit :=
  match certificatesIn file with
  | none => .error (buildReport "invalid certificate encoding")
  | some certificates =>
    if certificates.all hasCertificateForm then .ok ()
    else .error (buildReport "invalid peer certificate: BadEncoding")

/-- The name of the server for the provider. -/
def agentOf (settings : Settings) : Except Report HeaderValue :=
  match HeaderValue.ofString? settings.userAgent with
  | some agent => .ok agent
  | none => .error (buildReport badHeaderValue)

/-- The administrative client of settings. -/
def adminOf (settings : Settings) : Except Report AdminClient :=
  (AdminClient.ofUrl settings.baseUrl settings.realm settings.adminCredentials
    settings.initialExpiration).mapError fun e => .ofFailure (.admin e)

/-- **The service of settings** with the given trusted files. -/
def serviceOf (settings : Settings) (files : List (List UInt8)) : Except Report Service := do
  let agent ← agentOf settings
  files.forM checkFile
  let admin ← adminOf settings
  return ⟨settings, admin, agent⟩

/-! ### Starting -/

/-- Reads files in order. -/
def readFiles : List String → Dialog Answer (Except Report (List (List UInt8)))
  | [] => .done (.ok [])
  | path :: paths =>
    .ask (.contentOf path) fun
      | .error reason =>
        let report := Report.ofFailure (.other reason)
        .done (.error (report.within ("reading CA certificate " ++ path)))
      | .ok file => (readFiles paths).bind fun rest => .done (rest.map (file :: ·))

/-- Starts with settings. -/
def startWith (settings : Settings) : Dialog Answer Ending :=
  (readFiles settings.certificateBundles).bind fun files =>
    match files.bind (serviceOf settings) with
    | .error r => .done (.failed r)
    | .ok service =>
      .ask (.listen settings.port) fun (free : Bool) =>
        .done (if free then .serving service else .occupied)

/-- A word that asks for the version. -/
def isVersionWord (word : List UInt8) : Bool :=
  word = Utf8.bytes "--version"

/-- **Starts the server.** Only the request for the version is looked for among the words. -/
def start (environment : Environment) (words : List (List UInt8)) : Dialog Answer Ending :=
  if words.any isVersionWord then .done .version
  else
    match Settings.ofEnvironment environment with
    | .error e => .done (.failed (.ofFailure (.settings e)))
    | .ok settings => startWith settings

/-- **The dialogue about one request to a service.** -/
def Service.handle (service : Service) (inquiry : Webhook.Inquiry) :
    Dialog Admin.Answer Webhook.WebReply :=
  Provider.admitting service.admin (Webhook.handle service.settings.denyList inquiry)

end RealmKeeper.Server
