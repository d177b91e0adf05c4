import PlayerAccounts.Account.Password
import PlayerAccounts.Account.Rules
import PlayerAccounts.Store.Error
/-!
# Refusals of the service

Why the service does not grant a request: what diagnostics say, and what the client is told. A client
never learns the details of a failure within the service.
-/
namespace PlayerAccounts.Service
set_option autoImplicit false

open PlayerAccounts.Account
open PlayerAccounts.Store

/-! ## The type -/

inductive ServiceError where
  | notFound (what : String)
  | duplicate (what : String)
  | unknownUser (what : String)
  | storeFailed (detail : String)
  | invalidCredentials
  | invalidToken
  | loginTaken (login : String)
  | invalidTokenFormat
  | sealingFailed (detail : String)
  | ruleBroken (rule : String)
  | invalidInput (why : String)
  | unauthorized (why : String)
  | internal (detail : String)
deriving DecidableEq, Repr

namespace ServiceError

def message : ServiceError → String
  | notFound what => "Not found: " ++ what
  | duplicate what => "Already exists: " ++ what
  | unknownUser what => "Unknown user: " ++ what
  | storeFailed detail => "Database error: " ++ detail
  | invalidCredentials => "Invalid login or password"
  | invalidToken => "Invalid session token"
  | loginTaken login => "Login already taken: " ++ login
  | invalidTokenFormat => "Invalid token format"
  | sealingFailed detail => "Password hashing failed: " ++ detail
  | ruleBroken rule => "Validation error: " ++ rule
  | invalidInput why => "Invalid input: " ++ why
  | unauthorized why => "Unauthorized: " ++ why
  | internal detail => "Internal server error: " ++ detail

/-! ## What the client is told -/

def status : ServiceError → Nat
  | notFound _ => 404
  | duplicate _ | unknownUser _ | loginTaken _ => 409
  | invalidCredentials | invalidToken | unauthorized _ => 401
  | ruleBroken _ | invalidInput _ | invalidTokenFormat => 400
  | sealingFailed _ | storeFailed _ | internal _ => 500

/-- The word for the refusal in the response. -/
def code : ServiceError → String
  | notFound _ => "NOT_FOUND"
  | duplicate _ => "DUPLICATE_ENTRY"
  | unknownUser _ => "UNKNOWN_USER"
  | loginTaken _ => "LOGIN_TAKEN"
  | invalidCredentials => "INVALID_CREDENTIALS"
  | invalidToken => "INVALID_TOKEN"
  | unauthorized _ => "UNAUTHORIZED"
  | ruleBroken _ => "VALIDATION_ERROR"
  | invalidInput _ => "INVALID_INPUT"
  | invalidTokenFormat => "INVALID_TOKEN_FORMAT"
  | sealingFailed _ => "HASHING_ERROR"
  | storeFailed _ => "DATABASE_ERROR"
  | internal _ => "INTERNAL_ERROR"

/-- What the response says about the refusal. -/
def publicMessage : ServiceError → String
  | notFound what | duplicate what | unknownUser what => what
  | loginTaken login => "Login '" ++ login ++ "' is already taken"
  | invalidCredentials => "Invalid login or password"
  | invalidToken => "Invalid session token"
  | unauthorized why => why
  | ruleBroken rule => rule
  | invalidInput why => why
  | invalidTokenFormat => "Token format is invalid"
  | sealingFailed _ => "An error occurred while processing your request"
  | storeFailed _ => "An error occurred with the database"
  | internal _ => "An internal server error occurred"

/-- The detail of a failure within the service, which only the log may have. -/
def detail? : ServiceError → Option String
  | sealingFailed detail | storeFailed detail | internal detail => some detail
  | _ => none

/-! ## Where refusals come from -/

def ofStore : StoreError → ServiceError
  | .notFound what => notFound what
  | .duplicate what => duplicate what
  | .unknownUser what => unknownUser what
  | .unavailable why | .failed why => storeFailed why

def ofPassword (fault : PasswordFault) : ServiceError := sealingFailed fault.message

def ofRule (rule : BrokenRule) : ServiceError := ruleBroken rule.message

end ServiceError
end PlayerAccounts.Service
