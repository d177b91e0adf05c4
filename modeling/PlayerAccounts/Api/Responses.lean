import PlayerAccounts.Account.User
import PlayerAccounts.Json.Record
/-!
# Responses

What clients receive, and how it stands in a document.
-/
namespace PlayerAccounts.Api
set_option autoImplicit false

open PlayerAccounts.Account
open PlayerAccounts.Json

/-! ## Accounts -/

def user : Codec User :=
  record "UserResponse"
    [.required "user_id" text, .optional "email" text, .required "email_confirmed" flag,
      .required "timestamp_register" instant, .required "timestamp_active" instant,
      .required "crystals" int32, .optional "double_crystals" instant, .required "experience" int32,
      .optional "premium" instant] false
    (fun u => (u.id, u.email, u.emailConfirmed, u.registered, u.active, u.crystals, u.doubleCrystals,
      u.experience, u.premium, ()))
    (fun (id, email, confirmed, registered, active, crystals, double, experience, premium, ()) =>
      ⟨id, email, confirmed, registered, active, crystals, double, experience, premium⟩)

/-- The outcome of a registration or a login: the user, and a session token if one was wanted. -/
structure Session where
  user : User
  token : Option String
deriving DecidableEq, Repr

def session : Codec Session :=
  record "SessionResponse" [.required "user" user, .optionalSilent "token" text] false
    (fun s => (s.user, s.token, ())) (fun (user, token, ()) => ⟨user, token⟩)

structure Availability where
  login : String
  available : Bool
deriving DecidableEq, Repr

def availability : Codec Availability :=
  record "LoginAvailabilityResponse" [.required "login" text, .required "available" flag] false
    (fun a => (a.login, a.available, ())) (fun (login, available, ()) => ⟨login, available⟩)

/-! ## Errors -/

/-- The body of a response that refuses a request. -/
structure ErrorBody where
  code : String
  message : String
  details : Option String
deriving DecidableEq, Repr

def errorBody : Codec ErrorBody :=
  record "ErrorResponse"
    [.required "error" text, .required "message" text, .optionalSilent "details" text] false
    (fun e => (e.code, e.message, e.details, ()))
    (fun (code, message, details, ()) => ⟨code, message, details⟩)

end PlayerAccounts.Api
