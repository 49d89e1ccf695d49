import RealmKeeper.Admin.Error

/-!
# Errors of client registration
-/

namespace RealmKeeper.Registration

open RealmKeeper.Http RealmKeeper.Client RealmKeeper.Admin RealmKeeper.Url

/-- **Why a registration was not done.** -/
inductive RegistrationError where
  | noCredentialSource
  | missingRegistrationUri (operation : Operation)
  | invalidEndpoint (operation : Operation) (url : String) (cause : UrlError)
  | invalidToken (operation : Operation)
  | initialAccessToken (cause : AdminError)
  | encode (operation : Operation) (cause : Json.DecodeError)
  | decode (operation : Operation) (cause : Json.DecodeError)
  | transport (operation : Operation) (cause : TransportError)
  | http (cause : StatusError)
deriving DecidableEq

/-- The wording of an error. -/
def RegistrationError.message : RegistrationError → String
  | .noCredentialSource =>
    "error-registrar-registration-1 No credential source configured for client registration"
  | .missingRegistrationUri operation =>
    "error-registrar-registration-2 Missing registration client URI for " ++ operation.name
  | .invalidEndpoint operation url cause =>
    "error-registrar-registration-3 Invalid " ++ operation.name ++ " URL '" ++ url ++ "': " ++
      cause.message
  | .invalidToken operation =>
    "error-registrar-registration-4 Invalid bearer token for " ++ operation.name
  | .initialAccessToken cause =>
    "error-registrar-registration-5 Failed to obtain initial access token: " ++ cause.message
  | .encode operation cause =>
    "error-registrar-registration-6 Failed to encode " ++ operation.name ++ " request: " ++
      cause.message
  | .decode operation cause =>
    "error-registrar-registration-7 Failed to decode " ++ operation.name ++ " response: " ++
      cause.message
  | .transport operation cause =>
    "error-registrar-registration-8 " ++ operation.name ++ " request failed: " ++ cause.message
  | .http cause => cause.message

end RealmKeeper.Registration
