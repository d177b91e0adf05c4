import PlayerAccounts.Service.Sessions
/-!
# Care of accounts

Reading, updating and removing accounts, and changing passwords.
-/
namespace PlayerAccounts.Service
set_option autoImplicit false

open PlayerAccounts.Account
open PlayerAccounts.Store

/-! ## Reading and removing -/

def getUser (userId : String) : Action User := Action.demand (.findUser userId)

def deleteUser (userId : String) : Action Unit := Action.demand (.removeUser userId)

/-! ## Updating -/

/-- The rule that the email of an update breaks, if any. -/
def brokenByEdit? : Edit String → Option BrokenRule
  | .set email => brokenByEmail? email
  | _ => none

/-- The update with what follows for the confirmation of the email: a new email is not confirmed,
unless the update says so itself. -/
def withConfirmation (userId : String) (changes : Changes) : Action Changes :=
  match changes.email.target?, changes.emailConfirmed with
  | some email, none => do
    -- Only here does the confirmation depend on the email that there is.
    let user ← Action.demand (.findUser userId)
    return if user.email = email then changes else { changes with emailConfirmed := some false }
  | _, _ => pure changes

/-- Updates a user on behalf of a trusted caller. -/
def updateUser (userId : String) (request : UserUpdate) : Action User := do
  Action.require (brokenByEdit? request.email)
  Action.demand (.amendUser userId (← withConfirmation userId request))

def updateProfile (userId : String) (edit : ProfileEdit) : Action User :=
  updateUser userId edit.update

/-! ## Changing the password -/

def changePassword (sealer : Sealer) (o : Occasion) (userId : String) (r : Api.PasswordChange) :
    Action Unit := do
  Action.require (brokenByPassword? r.newPassword)
  let credential ← Action.demand (.credentialOfUser userId)
  match checkPassword r.oldPassword credential.hash credential.salt with
  | .ok true =>
    let secret ← sealNew sealer o r.newPassword
    let _ ← Action.demand (.setCredential ⟨userId, credential.login, secret.hash, secret.salt⟩)
    -- The session may have been opened with the old password.
    Action.demand (.revokeToken userId)
  | _ => throw .invalidCredentials

/-! ## Ownership -/

/-- Refuses what a user may not do with the account of another one. -/
def ensureOwner (sessionUserId userId action : String) : Except ServiceError Unit :=
  if sessionUserId = userId then .ok ()
  else .error (.unauthorized ("You can only " ++ action ++ " your own account"))

end PlayerAccounts.Service
