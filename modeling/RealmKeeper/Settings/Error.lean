import RealmKeeper.Url.Host

/-!
# Errors of the settings
-/

namespace RealmKeeper.Settings

open RealmKeeper.Url

/-- Why a text is not a port. -/
inductive PortFault where
  | empty
  | invalidDigit
  | tooLarge
deriving DecidableEq, Repr

/-- The name of a fault. -/
def PortFault.name : PortFault → String
  | .empty => "Empty"
  | .invalidDigit => "InvalidDigit"
  | .tooLarge => "PosOverflow"

/-- **Why there are no settings.** -/
inductive SettingsError where
  | required (name : String)
  | port (fault : PortFault)
  | noVersion
  | url (text : String) (cause : UrlError)
  | duration (text : String)
deriving DecidableEq, Repr

/-- The wording of an error. -/
def SettingsError.message : SettingsError → String
  | .required name => "error-registrar-config-1 " ++ name ++ " must be set"
  | .port fault =>
    "error-registrar-config-2 Parsing HTTP_PORT into u16 failed: ParseIntError \x7b kind: " ++
      fault.name ++ " \x7d"
  | .noVersion => "error-registrar-config-3 One of GIT_HASH or CARGO_PKG_VERSION must be set"
  | .url text cause =>
    "error-registrar-config-4 Unable to parse URL '" ++ text ++ "': " ++ cause.message
  | .duration text => "error-registrar-config-5 Failed to parse duration '" ++ text ++ "'"

end RealmKeeper.Settings
