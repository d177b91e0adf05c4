import PlayerAccounts.Store.Call
import Std.Data.ExtTreeMap
/-!
# The store in memory

Users, credentials and session tokens in three tables, each keyed by the id of the user. Credentials and
tokens belong to a user who is there and go with that user; no two users share a login, and no two share
a token.
-/
namespace PlayerAccounts.Store
set_option autoImplicit false

open PlayerAccounts.Account
open PlayerAccounts.Time (Instant)

/-! ## Tables -/

/-- Rows by the id of the user. -/
abbrev Table (α : Type) : Type := Std.ExtTreeMap String α

structure Tables where
  users : Table User
  credentials : Table Credential
  tokens : Table SessionToken

namespace Tables

def empty : Tables := ⟨∅, ∅, ∅⟩

instance : Inhabited Tables := ⟨empty⟩

/-- The store as diagnostics show it: without its content. -/
def describe (_ : Tables) : String := "MemoryStore \x7b .. \x7d"

/-! ## Users -/

def addUser (t : Tables) (user : User) : Except StoreError User × Tables :=
  if user.id ∈ t.users then (.error (.duplicate (keyNamed user.id)), t)
  else (.ok user, { t with users := t.users.insert user.id user })

def findUser (t : Tables) (id : String) : Except StoreError User :=
  match t.users[id]? with
  | some user => .ok user
  | none => .error (.notFound (userNamed id))

def amendUser (t : Tables) (id : String) (changes : Changes) : Except StoreError User × Tables :=
  match t.users[id]? with
  | some user =>
    let user := user.apply changes
    (.ok user, { t with users := t.users.insert id user })
  | none => (.error (.notFound (userNamed id)), t)

/-- Removes a user and all that belongs to the user. -/
def removeUser (t : Tables) (id : String) : Except StoreError Unit × Tables :=
  if id ∈ t.users then
    (.ok (), ⟨t.users.erase id, t.credentials.erase id, t.tokens.erase id⟩)
  else (.error (.notFound (userNamed id)), t)

/-! ## Credentials -/

/-- Gives a user a credential, unless another user has the login. -/
def setCredential (t : Tables) (c : Credential) : Except StoreError Credential × Tables :=
  if c.userId ∉ t.users then (.error (.unknownUser (userNamed c.userId)), t)
  else if t.credentials.values.any fun other => other.login == c.login && other.userId != c.userId then
    (.error (.duplicate (loginNamed c.login)), t)
  else (.ok c, { t with credentials := t.credentials.insert c.userId c })

def credentialOfLogin (t : Tables) (login : String) : Except StoreError Credential :=
  match t.credentials.values.find? (·.login == login) with
  | some c => .ok c
  | none => .error (.notFound (loginNamed login))

def credentialOfUser (t : Tables) (id : String) : Except StoreError Credential :=
  match t.credentials[id]? with
  | some c => .ok c
  | none => .error (.notFound (credentialNamed id))

/-! ## Session tokens -/

/-- Gives a user a session token, unless another user has it. -/
def issueToken (t : Tables) (id token : String) (now : Instant) :
    Except StoreError SessionToken × Tables :=
  if id ∉ t.users then (.error (.unknownUser (userNamed id)), t)
  else if t.tokens.values.any fun other => other.token == token && other.userId != id then
    (.error (.duplicate tokenNamed), t)
  else
    let row := SessionToken.issued id token now
    (.ok row, { t with tokens := t.tokens.insert id row })

def useToken (t : Tables) (token : String) (now : Instant) : Except StoreError SessionToken × Tables :=
  match t.tokens.toList.find? (·.2.token == token) with
  | some (id, row) =>
    let row := row.used now
    (.ok row, { t with tokens := t.tokens.insert id row })
  | none => (.error (.notFound tokenNamed), t)

def revokeToken (t : Tables) (id : String) : Tables := { t with tokens := t.tokens.erase id }

/-! ## As a backend -/

/-- What a call yields, and the tables after it. -/
def answer (t : Tables) : (call : Call) → Except StoreError call.Answer × Tables
  | .addUser user => t.addUser user
  | .findUser id => (t.findUser id, t)
  | .amendUser id changes => t.amendUser id changes
  | .removeUser id => t.removeUser id
  | .setCredential credential => t.setCredential credential
  | .credentialOfLogin login => (t.credentialOfLogin login, t)
  | .credentialOfUser id => (t.credentialOfUser id, t)
  | .issueToken id token now => t.issueToken id token now
  | .useToken token now => t.useToken token now
  | .revokeToken id => (.ok (), t.revokeToken id)

def backend : Backend Tables where
  answer call t :=
    let (answer, t) := t.answer call
    (.ok answer, t)

end Tables
end PlayerAccounts.Store
