import PlayerAccounts.Api.Requests
import PlayerAccounts.Api.Responses
import PlayerAccounts.Service.Occasion
import PlayerAccounts.Service.Program
/-!
# Registration and sessions

Getting an account, and getting into it: with a login and a password, or with a session token. Passwords
are sealed at the cost of the service's sealer.
-/
namespace PlayerAccounts.Service
set_option autoImplicit false

open PlayerAccounts.Account
open PlayerAccounts.Store
open PlayerAccounts.Time (Instant)

/-! ## Logins that can be had -/

def isLoginFree (login : String) : Action Bool := do
  Action.require (brokenByLogin? login)
  match ← Action.ask (.credentialOfLogin login) with
  | .ok _ => return false
  | .error e => if e.isNotFound then return true else throw (ServiceError.ofStore e)

/-! ## Session tokens -/

/-- Issues a session token; it replaces the one that the user may have. -/
def issueToken (o : Occasion) (userId : String) : Action String := do
  match ← Action.ask (.issueToken userId o.token o.first) with
  | .ok _ => return o.token
  | .error (.unknownUser _) => throw (.notFound (userNamed userId))
  | .error e => throw (ServiceError.ofStore e)

def issueTokenIf (wanted : Bool) (o : Occasion) (userId : String) : Action (Option String) :=
  if wanted then some <$> issueToken o userId else pure none

/-- The user whom a session token lets in; the use is recorded. -/
def validateToken (now : Instant) (token : String) : Action String := do
  if token.utf8ByteSize = 0 ∨ tokenLength < token.utf8ByteSize then throw .invalidToken
  match ← Action.ask (.useToken token now) with
  | .ok row => return row.userId
  | .error e => if e.isNotFound then throw .invalidToken else throw (ServiceError.ofStore e)

def logout (userId : String) : Action Unit := Action.demand (.revokeToken userId)

/-! ## Registration -/

def sealNew (sealer : Sealer) (o : Occasion) (password : String) : Action SealedPassword :=
  match sealPassword sealer.cost password o.salt with
  | .ok s => pure s
  | .error fault => throw (ServiceError.ofPassword fault)

def register (sealer : Sealer) (o : Occasion) (r : Api.Registration) : Action Api.Session := do
  Action.require (brokenByLogin? r.login)
  Action.require (brokenByPassword? r.password)
  Action.require (r.email.bind brokenByEmail?)
  if !(← isLoginFree r.login) then throw (.loginTaken r.login)
  let secret ← sealNew sealer o r.password
  let user ← Action.demand (.addUser (User.fresh o.userId o.first r.email))
  match ← Action.ask (.setCredential ⟨user.id, r.login, secret.hash, secret.salt⟩) with
  | .error e =>
    -- A user without a credential could never log in.
    match ← Action.ask (.removeUser user.id) with
    | .error e => Action.note (.leftover user.id e)
    | .ok _ => pure ()
    match e with
    | .duplicate _ => throw (.loginTaken r.login)
    | e => throw (ServiceError.ofStore e)
  | .ok _ => return ⟨user, ← issueTokenIf r.remember o.later user.id⟩

/-! ## Logging in -/

def touch (now : Instant) (userId : String) : Action User :=
  Action.demand (.amendUser userId (Changes.touch now))

/-- Whether a password belongs to a credential. A credential that cannot be checked against counts as
one that does not fit, and is noted. -/
def passwordFits (password : String) (c : Credential) : Action Bool :=
  match checkPassword password c.hash c.salt with
  | .ok fits => pure fits
  | .error fault => do
    Action.note (.unusableCredential c.userId fault)
    return false

def loginWithPassword (o : Occasion) (r : Api.PasswordLogin) : Action Api.Session := do
  match ← Action.ask (.credentialOfLogin r.login) with
  | .error e => if e.isNotFound then throw .invalidCredentials else throw (ServiceError.ofStore e)
  | .ok credential =>
    if !(← passwordFits r.password credential) then throw .invalidCredentials
    let user ← touch o.first credential.userId
    return ⟨user, ← issueTokenIf r.remember o.later user.id⟩

def loginWithToken (o : Occasion) (token : String) : Action Api.Session := do
  let userId ← validateToken o.first token
  return ⟨← touch o.second userId, some token⟩

end PlayerAccounts.Service
