import PlayerAccounts.Time.Instant
/-!
# The schema of the database

Three relations: users, their credentials and their session tokens. A row holds one value for each column,
in the order of the columns.
-/
namespace PlayerAccounts.Sql
set_option autoImplicit false

/-! ## Values -/

/-- A value as the database has it. Instants are counted in microseconds from the origin of stored
timestamps. -/
inductive Value where
  | null
  | text (s : String)
  | flag (b : Bool)
  | integer (n : Int)
  | instant (micros : Int)
deriving DecidableEq, Repr

def Value.ofInstant (t : Time.Instant) : Value := .instant t.toMicros

/-- A value, or `null` in its place. -/
def Value.ofOption {α : Type} (encode : α → Value) : Option α → Value
  | some a => encode a
  | none => .null

abbrev Row : Type := List Value

/-! ## Columns -/

/-- The kinds of values that a column may have. -/
inductive ColumnKind where
  | text | flag | integer | instant
deriving DecidableEq, Repr

structure Column where
  name : String
  kind : ColumnKind
  isNullable : Bool
deriving DecidableEq, Repr

/-! ## Relations -/

inductive Relation where
  | user | credential | sessionToken
deriving DecidableEq, Repr

namespace Relation

def name : Relation → String
  | user => "user"
  | credential => "user_authentication"
  | sessionToken => "user_authentication_token"

/-- The columns of a relation; the first one is its key. -/
def columns : Relation → List Column
  | user =>
    [⟨"user_id", .text, false⟩, ⟨"email", .text, true⟩, ⟨"email_confirmed", .flag, false⟩,
      ⟨"timestamp_register", .instant, false⟩, ⟨"timestamp_active", .instant, false⟩,
      ⟨"crystals", .integer, false⟩, ⟨"double_crystals", .instant, true⟩,
      ⟨"experience", .integer, false⟩, ⟨"premium", .instant, true⟩]
  | credential =>
    [⟨"user_id", .text, false⟩, ⟨"login_user", .text, false⟩, ⟨"password_hash", .text, false⟩,
      ⟨"password_salt", .text, false⟩]
  | sessionToken =>
    [⟨"user_id", .text, false⟩, ⟨"timestamp_created", .instant, false⟩,
      ⟨"timestamp_last_used", .instant, false⟩, ⟨"token", .text, false⟩]

def columnNames (r : Relation) : List String := r.columns.map Column.name

end Relation

def keyName : String := "user_id"

end PlayerAccounts.Sql
