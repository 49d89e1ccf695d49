import RealmKeeper.Admin.Error
import RealmKeeper.Admission.Resource
import RealmKeeper.Dialog
import RealmKeeper.Text.Blank

/-!
# Which realms are admitted

* `AdmissionError`: why the creation of a realm is not admitted;
* `Question`: whether a realm exists;
* `validateCreate`: a realm may be created unless its name is empty, reserved or denied, or the
  realm exists, or nobody can say;
* `validateUpdate`, `validateDelete`: always admitted.
-/

namespace RealmKeeper.Admission

open RealmKeeper.Admin

/-- **Why the creation of a realm is not admitted.** -/
inductive AdmissionError where
  | emptyName
  | reserved (realm : String)
  | denied (realm : String)
  | taken (realm : String)
  | checkFailed (realm : String) (cause : AdminError)
  | invalidObject (reason : String)
deriving DecidableEq

/-- The wording of an error. -/
def AdmissionError.message : AdmissionError → String
  | .emptyName => "error-registrar-admission-1 realm name must not be empty"
  | .reserved realm => "error-registrar-admission-2 realm '" ++ realm ++ "' is reserved"
  | .denied realm => "error-registrar-admission-3 realm '" ++ realm ++ "' is deny-listed"
  | .taken realm => "error-registrar-admission-4 realm '" ++ realm ++ "' already exists"
  | .checkFailed realm cause =>
    "error-registrar-admission-5 unable to verify realm '" ++ realm ++ "': " ++ cause.message
  | .invalidObject reason => "error-registrar-admission-6 invalid object: " ++ reason

/-- What is asked of the directory of realms. -/
inductive Question where
  /-- Whether a realm exists. -/
  | realmExists (realm : String)
deriving DecidableEq

/-- What is answered. -/
abbrev Answer : Question → Type
  | .realmExists _ => Except AdminError Bool

/-- What a validation gives: a dialogue that ends with warnings or an error. -/
abbrev Validating : Type := Dialog Answer (Except AdmissionError (List String))

/-- The realm that is never created through a resource. -/
def reservedRealm : String := "master"

/-- A name without the blank characters at its ends. -/
def trimmed (name : String) : String :=
  String.ofList (Text.trim name.toList)

/-- What stands against a name by itself. -/
def checkName (denied : List String) (realm : String) : Except AdmissionError Unit :=
  if realm.isEmpty then .error .emptyName
  else if realm = reservedRealm then .error (.reserved realm)
  else if denied.contains realm then .error (.denied realm)
  else .ok ()

/-- What the answer of the directory means for a name. -/
def judgeExistence (realm : String) : Except AdminError Bool →
    Except AdmissionError (List String)
  | .error cause => .error (.checkFailed realm cause)
  | .ok true => .error (.taken realm)
  | .ok false => .ok []

/-- **May a realm be created?** The directory is asked only when nothing stands against the name by
itself. -/
def validateCreate (denied : List String) (config : RealmConfig) : Validating :=
  let realm := trimmed config.spec.realmName
  match checkName denied realm with
  | .error e => .done (.error e)
  | .ok () => .ask (.realmExists realm) fun existence => .done (judgeExistence realm existence)

/-- **May a configuration be changed?** Always. -/
def validateUpdate (_old _new : RealmConfig) : Validating :=
  .done (.ok [])

/-- **May a configuration be deleted?** Always. -/
def validateDelete (_config : RealmConfig) : Validating :=
  .done (.ok [])

end RealmKeeper.Admission
