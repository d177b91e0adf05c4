import PlayerAccounts.Sql.Query
import PlayerAccounts.Sql.Rows
import PlayerAccounts.Store.Call
/-!
# The store in a database

The calls to the store as queries. The use of a session token takes a transaction; every other call is one
statement. A refusal for the sake of a key or a reference is told in the words of the store where the
call can only mean one thing.
-/
namespace PlayerAccounts.Sql
set_option autoImplicit false

open PlayerAccounts.Account
open PlayerAccounts.Store
open PlayerAccounts.Time (Instant)

/-- A query that fails as a store does. -/
abbrev StoreQuery (α : Type) : Type := Attempt StoreError α

/-- The query in the terms of the store. -/
def storing {α : Type} (attempt : Attempt QueryError α) : StoreQuery α :=
  attempt.inTermsOf QueryError.storeError

/-- The query with some of its failures told in other words. -/
def reworded {α : Type} (words : StoreError → StoreError) (attempt : StoreQuery α) : StoreQuery α :=
  attempt.inTermsOf words

/-- A row that is looked for under a name. -/
def lookedUp {α : Type} (name : String) (read : Row → Except QueryError α) (statement : Statement) :
    StoreQuery α := do
  match ← storing (Attempt.first? read statement) with
  | some a => return a
  | none => throw (.notFound name)

/-! ## Users -/

def addUser (u : User) : StoreQuery User :=
  reworded (fun
    | .duplicate _ => .duplicate (keyNamed u.id)
    | e => e)
    (storing (Attempt.first readUser (.insert .user (userRow u) false)))

def findUser (id : String) : StoreQuery User :=
  lookedUp (userNamed id) readUser (.select .user keyName (.text id) false)

/-- Changes a user. An update that changes nothing only looks. -/
def amendUser (id : String) (c : Changes) : StoreQuery User :=
  if c.isEmpty then findUser id
  else lookedUp (userNamed id) readUser (.update .user (assignments c) id)

/-- Removes a user; the database removes what belongs to the user. -/
def removeUser (id : String) : StoreQuery Unit := do
  let reply ← storing (Attempt.send (.delete .user id))
  if reply.count = 0 then throw (.notFound (userNamed id))

/-! ## Credentials -/

/-- Gives a user a credential in place of the one there may be. -/
def setCredential (c : Credential) : StoreQuery Credential :=
  reworded (fun
    | .unknownUser _ => .unknownUser (userNamed c.userId)
    | .duplicate _ => .duplicate (loginNamed c.login)
    | e => e)
    (storing (Attempt.first readCredential (.insert .credential (credentialRow c) true)))

def credentialOfLogin (login : String) : StoreQuery Credential :=
  lookedUp (loginNamed login) readCredential (.select .credential "login_user" (.text login) false)

def credentialOfUser (id : String) : StoreQuery Credential :=
  lookedUp (credentialNamed id) readCredential (.select .credential keyName (.text id) false)

/-! ## Session tokens -/

/-- Gives a user a session token in place of the one there may be. -/
def issueToken (id token : String) (now : Instant) : StoreQuery SessionToken :=
  reworded (fun
    | .unknownUser _ => .unknownUser (userNamed id)
    | e => e)
    (storing (Attempt.first readToken
      (.insert .sessionToken (tokenRow (.issued id token now)) true)))

def useToken (token : String) (now : Instant) : StoreQuery SessionToken :=
  Attempt.transaction QueryError.storeError do
    -- The row stays locked, so that its last use is still the latest one when it is written.
    let current ← lookedUp tokenNamed readToken (.select .sessionToken "token" (.text token) true)
    storing (Attempt.first readToken
      (.update .sessionToken [("timestamp_last_used", .ofInstant (current.lastUsedAfter now))]
        current.userId))

def revokeToken (id : String) : StoreQuery Unit := do
  let _ ← storing (Attempt.send (.delete .sessionToken id))

/-! ## Calls -/

def carryOut : (call : Call) → StoreQuery call.Answer
  | .addUser u => addUser u
  | .findUser id => findUser id
  | .amendUser id c => amendUser id c
  | .removeUser id => removeUser id
  | .setCredential c => setCredential c
  | .credentialOfLogin login => credentialOfLogin login
  | .credentialOfUser id => credentialOfUser id
  | .issueToken id token now => issueToken id token now
  | .useToken token now => useToken token now
  | .revokeToken id => revokeToken id

end PlayerAccounts.Sql
