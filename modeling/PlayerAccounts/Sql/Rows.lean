import PlayerAccounts.Account.Credential
import PlayerAccounts.Account.SessionToken
import PlayerAccounts.Account.User
import PlayerAccounts.Sql.Fault
import PlayerAccounts.Sql.Schema
/-!
# Rows of accounts

Users, credentials and session tokens as rows of their relations, and read back from such rows.
-/
namespace PlayerAccounts.Sql
set_option autoImplicit false

open PlayerAccounts.Account
open PlayerAccounts.Time (Instant)

/-! ## Reading values -/

inductive Misfit where
  /-- There is none. -/
  | missing
  /-- It is of another kind, or beyond what can be told. -/
  | unfit
deriving DecidableEq, Repr

def Misfit.error (column : String) : Misfit → QueryError
  | missing => .unreadable "Unexpected null for non-null column"
  | unfit => .unreadable ("Error deserializing field '" ++ column ++ "'")

namespace Value

def asText : Value → Except Misfit String
  | text s => .ok s
  | null => .error .missing
  | _ => .error .unfit

def asFlag : Value → Except Misfit Bool
  | flag b => .ok b
  | null => .error .missing
  | _ => .error .unfit

def asInteger : Value → Except Misfit Int32
  | integer n => .ok (Int32.ofInt n)
  | null => .error .missing
  | _ => .error .unfit

/-- The instant of a value, if it lies in the range of years. -/
def asInstant : Value → Except Misfit Instant
  | instant micros =>
    match Instant.ofMicros? micros with
    | some t => .ok t
    | none => .error .unfit
  | null => .error .missing
  | _ => .error .unfit

/-- What a value is read as, unless it is `null`. -/
def asOption {α : Type} (read : Value → Except Misfit α) : Value → Except Misfit (Option α)
  | null => .ok none
  | value => some <$> read value

def inColumn {α : Type} (column : String) (read : Value → Except Misfit α) (value : Value) :
    Except QueryError α :=
  (read value).mapError (Misfit.error column)

end Value

/-- The failure of a row with another number of values than there are columns. -/
def wrongWidth : QueryError := .unreadable "Unexpected number of values"

/-! ## Users -/

def userRow (u : User) : Row :=
  [.text u.id, .ofOption .text u.email, .flag u.emailConfirmed, .ofInstant u.registered,
    .ofInstant u.active, .integer u.crystals.toInt, .ofOption .ofInstant u.doubleCrystals,
    .integer u.experience.toInt, .ofOption .ofInstant u.premium]

def readUser : Row → Except QueryError User
  | [id, email, confirmed, registered, active, crystals, double, experience, premium] => do
    return {
      id := ← id.inColumn "user_id" Value.asText
      email := ← email.inColumn "email" (Value.asOption Value.asText)
      emailConfirmed := ← confirmed.inColumn "email_confirmed" Value.asFlag
      registered := ← registered.inColumn "timestamp_register" Value.asInstant
      active := ← active.inColumn "timestamp_active" Value.asInstant
      crystals := ← crystals.inColumn "crystals" Value.asInteger
      doubleCrystals := ← double.inColumn "double_crystals" (Value.asOption Value.asInstant)
      experience := ← experience.inColumn "experience" Value.asInteger
      premium := ← premium.inColumn "premium" (Value.asOption Value.asInstant) }
  | _ => .error wrongWidth

/-- The columns that an update changes, in their order, with their new values. -/
def assignments (c : Changes) : List (String × Value) :=
  (c.email.target?.map fun e => ("email", .ofOption .text e)).toList ++
    (c.emailConfirmed.map fun b => ("email_confirmed", .flag b)).toList ++
    (c.active.map fun t => ("timestamp_active", .ofInstant t)).toList ++
    (c.crystals.map fun n => ("crystals", .integer n.toInt)).toList ++
    (c.doubleCrystals.target?.map fun t => ("double_crystals", .ofOption .ofInstant t)).toList ++
    (c.experience.map fun n => ("experience", .integer n.toInt)).toList ++
    (c.premium.target?.map fun t => ("premium", .ofOption .ofInstant t)).toList

/-! ## Credentials -/

def credentialRow (c : Credential) : Row := [.text c.userId, .text c.login, .text c.hash, .text c.salt]

def readCredential : Row → Except QueryError Credential
  | [userId, login, hash, salt] => do
    return {
      userId := ← userId.inColumn "user_id" Value.asText
      login := ← login.inColumn "login_user" Value.asText
      hash := ← hash.inColumn "password_hash" Value.asText
      salt := ← salt.inColumn "password_salt" Value.asText }
  | _ => .error wrongWidth

/-! ## Session tokens -/

def tokenRow (t : SessionToken) : Row :=
  [.text t.userId, .ofInstant t.created, .ofInstant t.lastUsed, .text t.token]

def readToken : Row → Except QueryError SessionToken
  | [userId, created, lastUsed, token] => do
    return {
      userId := ← userId.inColumn "user_id" Value.asText
      created := ← created.inColumn "timestamp_created" Value.asInstant
      lastUsed := ← lastUsed.inColumn "timestamp_last_used" Value.asInstant
      token := ← token.inColumn "token" Value.asText }
  | _ => .error wrongWidth

end PlayerAccounts.Sql
