import PlayerAccounts.Sql.Schema
/-!
# Statements

What is sent to the database: a text, and the values of its parameters in the order of their numbers.
-/
namespace PlayerAccounts.Sql
set_option autoImplicit false

/-! ## The type -/

inductive Statement where
  | begin
  | commit
  | rollback
  /-- The row with this value in a column, kept from others until the transaction ends if it is
  locked. -/
  | select (relation : Relation) (column : String) (value : Value) (isLocked : Bool)
  /-- A new row, which may take the place of the row with its key. -/
  | insert (relation : Relation) (row : Row) (isReplacing : Bool)
  /-- Other values in some columns of the row with a key. -/
  | update (relation : Relation) (assignments : List (String × Value)) (key : String)
  | delete (relation : Relation) (key : String)
  /-- A text without parameters. -/
  | script (text : String)
  /-- The names of all migrations that were carried out, last one first. -/
  | selectVersions
  | insertVersion (version : String)
deriving DecidableEq, Repr

namespace Statement

/-! ## Names -/

def quoted (name : String) : String := "\"" ++ name ++ "\""

/-- A column together with its relation. -/
def qualified (relation column : String) : String := quoted relation ++ "." ++ quoted column

def listed (items : List String) : String := String.intercalate ", " items

/-- All columns of a relation. -/
def everything (r : Relation) : String := listed (r.columnNames.map (qualified r.name))

/-- The place of a parameter. -/
def place (n : Nat) : String := "$" ++ toString n

def whereEqual (r : Relation) (column : String) (n : Nat) : String :=
  " WHERE (" ++ qualified r.name column ++ " = " ++ place n ++ ")"

/-- The relation of the migrations that were carried out. -/
def versionsName : String := "__diesel_schema_migrations"

def versionColumn : String := "version"

/-! ## Text -/

/-- The values of a new row: parameters counted from `n` on, and the default in place of `null`. -/
def rowText : Nat → Row → List String
  | _, [] => []
  | n, .null :: row => "DEFAULT" :: rowText n row
  | n, _ :: row => place n :: rowText (n + 1) row

/-- Assignments of parameters counted from `n` on. -/
def assignmentText : Nat → List (String × Value) → List String
  | _, [] => []
  | n, (column, _) :: rest => (quoted column ++ " = " ++ place n) :: assignmentText (n + 1) rest

/-- Taking the place of the row with the same key. -/
def replacement (r : Relation) : String :=
  " ON CONFLICT (" ++ quoted keyName ++ ") DO UPDATE SET " ++
    listed ((r.columnNames.filter (· != keyName)).map fun column =>
      quoted column ++ " = excluded." ++ quoted column)

def text : Statement → String
  | begin => "BEGIN"
  | commit => "COMMIT"
  | rollback => "ROLLBACK"
  | select r column _ isLocked =>
    "SELECT " ++ everything r ++ " FROM " ++ quoted r.name ++ whereEqual r column 1 ++ " LIMIT " ++
      place 2 ++ if isLocked then " FOR UPDATE" else ""
  | insert r row isReplacing =>
    "INSERT INTO " ++ quoted r.name ++ " (" ++ listed (r.columnNames.map quoted) ++ ") VALUES (" ++
      listed (rowText 1 row) ++ ")" ++ (if isReplacing then replacement r else "") ++
      " RETURNING " ++ everything r
  | update r assignments _ =>
    "UPDATE " ++ quoted r.name ++ " SET " ++ listed (assignmentText 1 assignments) ++
      whereEqual r keyName (assignments.length + 1) ++ " RETURNING " ++ everything r
  | delete r _ => "DELETE FROM " ++ quoted r.name ++ whereEqual r keyName 1
  | script s => s
  | selectVersions =>
    "SELECT " ++ qualified versionsName versionColumn ++ " FROM " ++ quoted versionsName ++
      " ORDER BY " ++ qualified versionsName versionColumn ++ " DESC"
  | insertVersion _ =>
    "INSERT INTO " ++ quoted versionsName ++ " (" ++ quoted versionColumn ++ ") VALUES (" ++ place 1 ++
      ")"

/-! ## Parameters -/

def parameters : Statement → List Value
  | begin | commit | rollback | script _ | selectVersions => []
  | select _ _ value _ => [value, .integer 1]
  | insert _ row _ => row.filter (· != .null)
  | update _ assignments key => assignments.map Prod.snd ++ [.text key]
  | delete _ key => [.text key]
  | insertVersion version => [.text version]

/-- Whether the statement only begins or ends a transaction. -/
def isControl : Statement → Bool
  | begin | commit | rollback => true
  | _ => false

end Statement
end PlayerAccounts.Sql
