import PlayerAccounts.Account.Credential
import PlayerAccounts.Account.SessionToken
import PlayerAccounts.Account.User
import PlayerAccounts.Store.Error
/-!
# Calls to a store

What a store can be asked to do, and the backends that do it. A call is one unit: whatever else happens,
it happens before or after it.
-/
namespace PlayerAccounts.Store
set_option autoImplicit false

open PlayerAccounts.Account
open PlayerAccounts.Time (Instant)

/-! ## Calls -/

inductive Call where
  | addUser (user : User)
  | findUser (id : String)
  | amendUser (id : String) (changes : Changes)
  /-- Removes a user together with the credential and the session token. -/
  | removeUser (id : String)
  /-- Gives a user a credential in place of the one there may be. -/
  | setCredential (credential : Credential)
  | credentialOfLogin (login : String)
  | credentialOfUser (id : String)
  /-- Gives a user a session token in place of the one there may be. -/
  | issueToken (id token : String) (now : Instant)
  /-- Looks up a session token and records its use. -/
  | useToken (token : String) (now : Instant)
  /-- Takes away a user's session token, if there is one. -/
  | revokeToken (id : String)
deriving DecidableEq, Repr

/-- What a call yields. -/
abbrev Call.Answer : Call → Type
  | addUser _ | findUser _ | amendUser _ _ => User
  | setCredential _ | credentialOfLogin _ | credentialOfUser _ => Credential
  | issueToken _ _ _ | useToken _ _ => SessionToken
  | removeUser _ | revokeToken _ => Unit

/-! ## Backends -/

/-- The end of a task that broke down instead of answering. -/
structure Crash where
  task : String
  message : String
deriving DecidableEq, Repr

/-- Something that answers calls, with a state of type `σ`. -/
structure Backend (σ : Type) where
  answer : (call : Call) → σ → Except Crash (Except StoreError call.Answer) × σ

/-! ## Watching a backend -/

/-- The same backend, with all calls remembered in the order of their arrival. -/
def Backend.recorded {σ : Type} (b : Backend σ) : Backend (List Call × σ) where
  answer call := fun (calls, state) =>
    let (answer, state) := b.answer call state
    (answer, calls ++ [call], state)

end PlayerAccounts.Store
