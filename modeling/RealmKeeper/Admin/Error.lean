import RealmKeeper.Http.Error

/-!
# Errors of the administrative interface
-/

namespace RealmKeeper.Admin

open RealmKeeper.Http

/-- **Why an administrative operation failed.** The operations are named in words. -/
inductive AdminError where
  | invalidBaseUrl (url : String)
  | request (operation : String) (cause : NetworkError)
  | unexpectedStatus (operation : String) (status : Nat) (body : String)
  | decode (operation : String) (cause : NetworkError)
  | clientNotFound (clientId : String)
  | cancelled (operation : String)
deriving DecidableEq

/-- The operation was cancelled. -/
def AdminError.isCancelled : AdminError → Bool
  | .cancelled _ => true
  | _ => false

/-- The wording of an error. -/
def AdminError.message : AdminError → String
  | .invalidBaseUrl url =>
    "error-registrar-admin-1 Base URL '" ++ url ++ "' cannot be used for API paths"
  | .request operation cause =>
    "error-registrar-admin-2 " ++ operation ++ " request failed: " ++ cause.message
  | .unexpectedStatus operation status body =>
    "error-registrar-admin-3 " ++ operation ++ " failed: HTTP " ++ statusText status ++ ": " ++ body
  | .decode operation cause =>
    "error-registrar-admin-4 Failed to decode " ++ operation ++ " response: " ++ cause.message
  | .clientNotFound clientId => "error-registrar-admin-5 Client not found: " ++ clientId
  | .cancelled operation => "error-registrar-admin-6 " ++ operation ++ " request cancelled"

end RealmKeeper.Admin
