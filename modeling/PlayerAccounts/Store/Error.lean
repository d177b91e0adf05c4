/-!
# Refusals of a store

Why a store does not carry out a call. Calls that name something which is missing or taken say what it
is.
-/
namespace PlayerAccounts.Store
set_option autoImplicit false

/-! ## The type -/

inductive StoreError where
  /-- No connection can be had. -/
  | unavailable (why : String)
  /-- What was looked for is not there. -/
  | notFound (what : String)
  /-- A key or a unique value belongs to another row. -/
  | duplicate (what : String)
  /-- A row refers to a user that is not there. -/
  | unknownUser (what : String)
  /-- The database refused for another reason. -/
  | failed (why : String)
deriving DecidableEq, Repr

namespace StoreError

def message : StoreError → String
  | unavailable why => "Connection pool error: " ++ why
  | notFound what => "Not found: " ++ what
  | duplicate what => "Duplicate key: " ++ what
  | unknownUser what => "Foreign key constraint violation: " ++ what
  | failed why => "Database error: " ++ why

/-- Whether the call failed only because what it looked for is not there. -/
def isNotFound : StoreError → Bool
  | notFound _ => true
  | _ => false

end StoreError

/-! ## What is missing or taken -/

def userNamed (id : String) : String := "user " ++ id

def keyNamed (id : String) : String := "user_id " ++ id

def loginNamed (login : String) : String := "login " ++ login

def credentialNamed (id : String) : String := "credentials of " ++ id

/-- A session token, in words that do not give it away. -/
def tokenNamed : String := "session token"

end PlayerAccounts.Store
