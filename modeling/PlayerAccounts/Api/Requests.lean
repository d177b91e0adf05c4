import PlayerAccounts.Account.User
import PlayerAccounts.Json.Record
/-!
# Requests

What clients send, and how it stands in a document.
-/
namespace PlayerAccounts.Api
set_option autoImplicit false

open PlayerAccounts.Account
open PlayerAccounts.Json

/-! ## Edits -/

/-- The content of an edited field: `null` clears it. -/
def edit {α : Type} (codec : Codec α) : Codec (Edit α) where
  write e := (nullable codec).write (e.target?.getD none)
  read s := do
    let (content, rest) ← (nullable codec).read s
    return (Edit.ofOption content, rest)

/-- A field for an edit; without it the content is kept, and a kept content is not written. -/
def edited {α : Type} (name : String) (codec : Codec α) : Field :=
  ⟨Edit α, name, edit codec, some .keep, some .keep, fun e => e.target?.isNone⟩

/-! ## Coming in -/

structure Registration where
  login : String
  password : String
  email : Option String
  /-- Whether a session token is wanted right away. -/
  remember : Bool
deriving DecidableEq, Repr

def registration : Codec Registration :=
  record "RegisterRequest"
    [.required "login" text, .required "password" text, .omissible "email" text,
      .defaulted "remember" flag false] false
    (fun r => (r.login, r.password, r.email, r.remember, ()))
    (fun (login, password, email, remember, ()) => ⟨login, password, email, remember⟩)

structure PasswordLogin where
  login : String
  password : String
  /-- Whether a session token is wanted. -/
  remember : Bool
deriving DecidableEq, Repr

def passwordLogin : Codec PasswordLogin :=
  record "LoginRequest"
    [.required "login" text, .required "password" text, .defaulted "remember" flag false] false
    (fun r => (r.login, r.password, r.remember, ()))
    (fun (login, password, remember, ()) => ⟨login, password, remember⟩)

structure TokenLogin where
  token : String
deriving DecidableEq, Repr

def tokenLogin : Codec TokenLogin :=
  record "TokenLoginRequest" [.required "token" text] false
    (fun r => (r.token, ())) (fun (token, ()) => ⟨token⟩)

/-- The question whether a login can be had. -/
structure AvailabilityQuery where
  login : String
deriving DecidableEq, Repr

def availabilityQuery : Codec AvailabilityQuery :=
  record "LoginAvailabilityQuery" [.required "login" text] false
    (fun r => (r.login, ())) (fun (login, ()) => ⟨login⟩)

/-! ## Changing -/

structure PasswordChange where
  oldPassword : String
  newPassword : String
deriving DecidableEq, Repr

def passwordChange : Codec PasswordChange :=
  record "ChangePasswordRequest"
    [.required "old_password" text, .required "new_password" text] false
    (fun r => (r.oldPassword, r.newPassword, ()))
    (fun (oldPassword, newPassword, ()) => ⟨oldPassword, newPassword⟩)

/-- Profile edits in documents; no other name is allowed. -/
def profileEdit : Codec ProfileEdit :=
  record "UpdateProfileRequest" [edited "email" text] true
    (fun p => (p.email, ())) (fun (email, ()) => ⟨email⟩)

/-- Requests for updates in documents. -/
def changes : Codec UserUpdate :=
  record "UpdateUserRequest"
    [edited "email" text, .omissible "email_confirmed" flag, .omissible "timestamp_active" instant,
      .omissible "crystals" int32, edited "double_crystals" instant, .omissible "experience" int32,
      edited "premium" instant] false
    (fun r => (r.email, r.emailConfirmed, r.active, r.crystals, r.doubleCrystals, r.experience,
      r.premium, ()))
    (fun (email, confirmed, active, crystals, double, experience, premium, ()) =>
      ⟨email, confirmed, active, crystals, double, experience, premium⟩)

end PlayerAccounts.Api
