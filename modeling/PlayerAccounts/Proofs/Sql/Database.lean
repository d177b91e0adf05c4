import Mathlib.Logic.Function.Basic
import PlayerAccounts.Sql.Query
import PlayerAccounts.Store.Tables
/-!
# What statements mean

A database with the relations of the schema. A relation has one row at most for a key. Credentials and
session tokens refer to users and go with them, logins and tokens are unique, and no session token was
used before it was issued. A statement that would leave a row which breaks a constraint has no effect.

The meaning of a statement is a relation: how the database words a refusal, and which constraint it names
where several are broken, is up to the database.
-/
namespace PlayerAccounts.Sql
set_option autoImplicit false

open PlayerAccounts.Store (Table)

/-! ## Columns -/

/-- How many characters a text in a column may have. -/
def Column.width (column : Column) : Nat :=
  match column.name with
  | "email" => 255
  | "password_hash" | "token" => 64
  | "password_salt" => 16
  | _ => 32

/-- The value of a column that is not given. -/
def Column.defaultValue (column : Column) : Value :=
  match column.name with
  | "email_confirmed" => .flag false
  | "crystals" | "experience" => .integer 0
  | _ => .null

/-- Whether a text can be sent and has at most so many characters. -/
def textFits (width : Nat) (s : String) : Bool := s.length ≤ width && !s.toList.contains '\x00'

/-- Whether a stored timestamp can have so many microseconds: not before the day that Julian days are counted
from, the 24th of November of -4713, and not after the year 294276. -/
def microsFit (micros : Int) : Bool := -211813488000000000 ≤ micros && micros < 9223371331200000000

/-- Whether a column can have a value, apart from constraints. -/
def Value.fits (column : Column) : Value → Bool
  | null => true
  | text s => column.kind == .text && textFits column.width s
  | flag _ => column.kind == .flag
  | integer n => column.kind == .integer && (-2147483648 ≤ n && n < 2147483648)
  | instant micros => column.kind == .instant && microsFit micros

namespace Relation

def column? (r : Relation) (name : String) : Option Column := r.columns.find? (·.name == name)

/-- The column besides the key in which no two rows have the same value. -/
def uniqueColumn? : Relation → Option String
  | user => none
  | credential => some "login_user"
  | sessionToken => some "token"

/-- The value that a row has in a column. -/
def valueIn (r : Relation) (row : Row) (column : String) : Value :=
  ((r.columnNames.zip row).lookup column).getD .null

/-- A new row with the defaults for what is not given. -/
def filled (r : Relation) (row : Row) : Row :=
  List.zipWith (fun column value => if value = .null then column.defaultValue else value) r.columns row

/-- A row with other values in some columns. -/
def assigned (r : Relation) (assignments : List (String × Value)) (row : Row) : Row :=
  List.zipWith (fun name value => (assignments.lookup name).getD value) r.columnNames row

end Relation

/-- The key of a row. -/
def keyOf : Row → String
  | .text key :: _ => key
  | _ => ""

/-! ## Constraints -/

/-- The rows of all relations under their keys. -/
abbrev Contents : Type := Relation → Table Row

/-- What a row can break. -/
inductive Constraint where
  /-- The key belongs to another row. -/
  | key
  /-- A unique value belongs to another row. -/
  | unique
  /-- The row refers to a user who is not there. -/
  | reference
  /-- A session token was used before it was issued. -/
  | check
  | notNull (column : String)
deriving DecidableEq, Repr

/-- How a refusal for the sake of a constraint is marked. -/
def Constraint.violation : Constraint → Violation
  | key | unique => .unique
  | reference => .foreignKey
  | check => .check
  | notNull _ => .notNull

namespace Contents

/-- Whether a row under another key has the unique value of this row. -/
def isTaken (rows : Contents) (r : Relation) (row : Row) : Bool :=
  r.uniqueColumn?.any fun column =>
    (rows r).toList.any fun (key, other) =>
      key != keyOf row && r.valueIn other column == r.valueIn row column

/-- Whether a row refers to a user who is not there. -/
def isOrphan (rows : Contents) (r : Relation) (row : Row) : Bool :=
  r != .user && !(rows .user).contains (keyOf row)

/-- The constraints that a row breaks, whether it is new or takes the place of the row with its key. -/
def brokenBy (rows : Contents) (r : Relation) (row : Row) : List Constraint :=
  (if rows.isTaken r row then [.unique] else []) ++
    (if rows.isOrphan r row then [.reference] else []) ++
    (match r.valueIn row "timestamp_created", r.valueIn row "timestamp_last_used" with
      | .instant created, .instant lastUsed => if lastUsed < created then [.check] else []
      | _, _ => []) ++
    ((r.columns.filter fun column => !column.isNullable && r.valueIn row column.name == .null).map
      fun column => .notNull column.name)

/-- The rows with another one, in place of the one with the same key. -/
def put (rows : Contents) (r : Relation) (row : Row) : Contents :=
  Function.update rows r ((rows r).insert (keyOf row) row)

/-- The rows without the one with a key. What refers to a user goes with the user. -/
def without (rows : Contents) (r : Relation) (key : String) : Contents := fun other =>
  if other = r ∨ r = .user then (rows other).erase key else rows other

end Contents

/-! ## Statements -/

namespace Statement

/-- The row that a statement leaves, and its relation. -/
def newRow? (rows : Contents) : Statement → Option (Relation × Row)
  | insert r row _ => some (r, r.filled row)
  | update r assignments key => (rows r)[key]?.map fun row => (r, r.assigned assignments row)
  | _ => none

/-- The constraints that stand against a statement. -/
def violated (rows : Contents) (statement : Statement) : List Constraint :=
  (match statement with
    | insert r row false => if (rows r).contains (keyOf (r.filled row)) then [.key] else []
    | _ => []) ++
    (match statement.newRow? rows with
      | some (r, row) => rows.brokenBy r row
      | none => [])

/-- The rows after a statement that no constraint stands against. -/
def written (rows : Contents) (statement : Statement) : Contents :=
  match statement, statement.newRow? rows with
  | delete r key, _ => rows.without r key
  | _, some (r, row) => rows.put r row
  | _, none => rows

/-- The rows that a selection is about. -/
def selected (rows : Contents) (r : Relation) (column : String) (value : Value) : List Row :=
  (rows r).values.filter fun row => r.valueIn row column == value

/-- What the database may reply to a statement that it carries out. A selection yields any one of the rows
that it is about. -/
def Answers (rows : Contents) (statement : Statement) (reply : Reply) : Prop :=
  match statement with
  | select r column value _ =>
    (selected rows r column value = [] ∧ reply = .rows []) ∨
      ∃ row ∈ selected rows r column value, reply = .rows [row]
  | delete r key => reply = .affected (if (rows r).contains key then 1 else 0)
  | _ => reply = .rows ((statement.newRow? rows).map Prod.snd).toList

/-- Whether the text of a statement makes no sense: an update needs something to set. -/
def isMalformed : Statement → Bool
  | update _ [] _ => true
  | _ => false

/-- Whether the values of a statement fit their columns. -/
def fits : Statement → Bool
  | begin | commit | rollback => true
  | select r column value _ => value != .null && (r.column? column).any value.fits
  | insert r row _ =>
    row.length == r.columns.length && (r.columns.zip row).all fun (column, value) => value.fits column
  | update r assignments key =>
    textFits 32 key && decide (assignments.map Prod.fst).Nodup &&
      assignments.all fun (name, value) => name != keyName && (r.column? name).any value.fits
  | delete _ key => textFits 32 key
  | _ => false

end Statement

/-! ## Databases -/

structure Database where
  rows : Contents
  /-- The rows at the begin of the transaction, if there is one. -/
  saved : Option Contents
  /-- Whether a statement of the transaction failed, so that it can only end. -/
  isFailed : Bool

namespace Database

def empty : Database := ⟨fun _ => ∅, none, false⟩

/-- Within a transaction. -/
def begun (db : Database) : Database := { db with saved := db.saved.or (some db.rows) }

/-- After a transaction that comes to nothing. -/
def rolledBack (db : Database) : Database := ⟨db.saved.getD db.rows, none, false⟩

/-- After a transaction that is kept, unless it failed. -/
def committed (db : Database) : Database :=
  if db.isFailed then db.rolledBack else { db with saved := none }

/-- After a statement that was refused. -/
def failing (db : Database) : Database := { db with isFailed := db.saved.isSome }

end Database

/-- What becomes of a statement: the reply of the database, and the database after it. -/
inductive Meaning : Statement → Database → Except Refusal Reply → Database → Prop where
  | begun (db : Database) : Meaning .begin db (.ok (.affected 0)) db.begun
  | committed (db : Database) : Meaning .commit db (.ok (.affected 0)) db.committed
  | rolledBack (db : Database) : Meaning .rollback db (.ok (.affected 0)) db.rolledBack
  | carriedOut {statement : Statement} {db : Database} {reply : Reply} :
    statement.isControl = false → db.isFailed = false → statement.isMalformed = false →
    statement.violated db.rows = [] → statement.Answers db.rows reply →
    Meaning statement db (.ok reply) { db with rows := statement.written db.rows }
  | refused {statement : Statement} {db : Database} {constraint : Constraint} (text : String) :
    statement.isControl = false → db.isFailed = false → statement.isMalformed = false →
    constraint ∈ statement.violated db.rows →
    Meaning statement db (.error ⟨constraint.violation, text⟩) db.failing
  | malformed {statement : Statement} {db : Database} (text : String) :
    statement.isMalformed = true → Meaning statement db (.error ⟨.unknown, text⟩) db.failing
  | ignored {statement : Statement} {db : Database} (text : String) :
    statement.isControl = false → db.isFailed = true → Meaning statement db (.error ⟨.unknown, text⟩) db

namespace Meaning

variable {statement : Statement} {db after : Database} {reply : Except Refusal Reply}

theorem of_begin (h : Meaning .begin db reply after) : reply = .ok (.affected 0) ∧ after = db.begun := by
  cases h with
  | begun => exact ⟨rfl, rfl⟩
  | carriedOut hordinary | refused _ hordinary | ignored _ hordinary => cases hordinary
  | malformed _ hmalformed => cases hmalformed

theorem of_commit (h : Meaning .commit db reply after) :
    reply = .ok (.affected 0) ∧ after = db.committed := by
  cases h with
  | committed => exact ⟨rfl, rfl⟩
  | carriedOut hordinary | refused _ hordinary | ignored _ hordinary => cases hordinary
  | malformed _ hmalformed => cases hmalformed

theorem of_rollback (h : Meaning .rollback db reply after) :
    reply = .ok (.affected 0) ∧ after = db.rolledBack := by
  cases h with
  | rolledBack => exact ⟨rfl, rfl⟩
  | carriedOut hordinary | refused _ hordinary | ignored _ hordinary => cases hordinary
  | malformed _ hmalformed => cases hmalformed

/-- A statement that no constraint stands against is carried out. -/
theorem of_allowed (h : Meaning statement db reply after) (hordinary : statement.isControl = false)
    (hsound : db.isFailed = false) (hformed : statement.isMalformed = false)
    (hallowed : statement.violated db.rows = []) :
    ∃ answer, reply = .ok answer ∧ statement.Answers db.rows answer ∧
      after = { db with rows := statement.written db.rows } := by
  cases h with
  | begun | committed | rolledBack => cases hordinary
  | carriedOut _ _ _ _ hanswer => exact ⟨_, rfl, hanswer, rfl⟩
  | refused _ _ _ _ hmem =>
    rw [hallowed] at hmem
    cases hmem
  | malformed _ hmalformed => rw [hformed] at hmalformed; cases hmalformed
  | ignored _ _ hfailed => rw [hsound] at hfailed; cases hfailed

/-- A statement that no constraint stands against puts the row that it leaves into its relation. -/
theorem of_newRow {r : Relation} {row : Row} (h : Meaning statement db reply after)
    (hnew : statement.newRow? db.rows = some (r, row)) (hsound : db.isFailed = false)
    (hformed : statement.isMalformed = false) (hallowed : statement.violated db.rows = []) :
    reply = .ok (.rows [row]) ∧ after = { db with rows := db.rows.put r row } := by
  have hordinary : statement.isControl = false := by
    cases statement with
    | begin | commit | rollback => cases hnew
    | _ => rfl
  obtain ⟨answer, rfl, hanswer, rfl⟩ := h.of_allowed hordinary hsound hformed hallowed
  cases statement with
  | insert | update =>
    unfold Statement.Answers at hanswer
    unfold Statement.written
    rw [hnew] at hanswer ⊢
    exact ⟨congrArg Except.ok hanswer, rfl⟩
  | _ => cases hnew

/-- An update of a row that is not there changes nothing. -/
theorem of_missing {r : Relation} {assignments : List (String × Value)} {key : String}
    (h : Meaning (.update r assignments key) db reply after) (hmissing : (db.rows r)[key]? = none)
    (hsound : db.isFailed = false) (hformed : (Statement.update r assignments key).isMalformed = false) :
    reply = .ok (.rows []) ∧ after = db := by
  have hnew : (Statement.update r assignments key).newRow? db.rows = none := by
    rw [Statement.newRow?, hmissing]
    rfl
  have hallowed : (Statement.update r assignments key).violated db.rows = [] := by
    unfold Statement.violated
    rw [hnew]
    rfl
  obtain ⟨answer, rfl, hanswer, rfl⟩ := h.of_allowed rfl hsound hformed hallowed
  unfold Statement.Answers at hanswer
  unfold Statement.written
  rw [hnew] at hanswer ⊢
  exact ⟨congrArg Except.ok hanswer, rfl⟩

/-- A statement that one constraint stands against is refused for its sake. -/
theorem of_forbidden {constraint : Constraint} (h : Meaning statement db reply after)
    (hordinary : statement.isControl = false) (hsound : db.isFailed = false)
    (hformed : statement.isMalformed = false) (hviolated : statement.violated db.rows = [constraint]) :
    ∃ text, reply = .error ⟨constraint.violation, text⟩ ∧ after = db.failing := by
  cases h with
  | begun | committed | rolledBack => cases hordinary
  | carriedOut _ _ _ hallowed _ =>
    rw [hviolated] at hallowed
    cases hallowed
  | refused text _ _ _ hmem =>
    rw [hviolated] at hmem
    rw [List.mem_singleton.mp hmem]
    exact ⟨text, rfl, rfl⟩
  | malformed _ hmalformed => rw [hformed] at hmalformed; cases hmalformed
  | ignored _ _ hfailed => rw [hsound] at hfailed; cases hfailed

end Meaning

/-- The connection reaches a database that gives every statement its meaning, if the values fit. -/
def Connection.IsRelational {σ : Type} (c : Connection σ) (view : σ → Database) : Prop :=
  ∀ state statement, statement.fits = true →
    Meaning statement (view state) (c.execute statement state).1 (view (c.execute statement state).2)

theorem Connection.IsRelational.step {σ : Type} {c : Connection σ} {view : σ → Database}
    (h : c.IsRelational view) (statement : Statement) (hfits : statement.fits = true) (state : σ) :
    ∃ reply after, c.execute statement state = (reply, after) ∧
      Meaning statement (view state) reply (view after) := ⟨_, _, rfl, h state statement hfits⟩

/-! ## A database at work -/

namespace Database

/-- What this database replies to a statement that it carries out. -/
def replyTo (db : Database) : Statement → Reply
  | .select r column value _ => .rows (Statement.selected db.rows r column value).head?.toList
  | .delete r key => .affected (if (db.rows r).contains key then 1 else 0)
  | statement => .rows ((statement.newRow? db.rows).map Prod.snd).toList

/-- Carries out a statement, or refuses it because its values do not fit or for the sake of the first
constraint that is broken. -/
def execute (statement : Statement) (db : Database) : Except Refusal Reply × Database :=
  match statement with
  | .begin => (.ok (.affected 0), db.begun)
  | .commit => (.ok (.affected 0), db.committed)
  | .rollback => (.ok (.affected 0), db.rolledBack)
  | statement =>
    if db.isFailed then (.error ⟨.unknown, "the transaction failed"⟩, db)
    else if statement.isMalformed then (.error ⟨.unknown, "nothing to set"⟩, db.failing)
    else if !statement.fits then (.error ⟨.unknown, "a value is out of range"⟩, db.failing)
    else match statement.violated db.rows with
      | constraint :: _ => (.error ⟨constraint.violation, "a constraint is violated"⟩, db.failing)
      | [] => (.ok (db.replyTo statement), { db with rows := statement.written db.rows })

def connection : Connection Database := ⟨execute⟩

theorem answers_replyTo (db : Database) (statement : Statement) :
    statement.Answers db.rows (db.replyTo statement) := by
  cases statement with
  | select r column value isLocked =>
    cases hfound : Statement.selected db.rows r column value with
    | nil =>
      refine .inl ⟨hfound, ?_⟩
      rw [replyTo, hfound]
      rfl
    | cons row rest =>
      refine .inr ⟨row, hfound ▸ List.mem_cons_self, ?_⟩
      rw [replyTo, hfound]
      rfl
  | _ => rfl

theorem execute_of_not_control {statement : Statement} (hs : statement.isControl = false) (db : Database) :
    db.execute statement =
      if db.isFailed then (.error ⟨.unknown, "the transaction failed"⟩, db)
      else if statement.isMalformed then (.error ⟨.unknown, "nothing to set"⟩, db.failing)
      else if !statement.fits then (.error ⟨.unknown, "a value is out of range"⟩, db.failing)
      else match statement.violated db.rows with
        | constraint :: _ => (.error ⟨constraint.violation, "a constraint is violated"⟩, db.failing)
        | [] => (.ok (db.replyTo statement), { db with rows := statement.written db.rows }) := by
  cases statement with
  | begin | commit | rollback => cases hs
  | _ => rfl

theorem connection_isRelational : connection.IsRelational id := by
  intro db statement hfits
  change Meaning statement db (db.execute statement).1 (db.execute statement).2
  cases hs : statement.isControl with
  | true =>
    cases statement with
    | begin => exact .begun db
    | commit => exact .committed db
    | rollback => exact .rolledBack db
    | _ => cases hs
  | false =>
    rw [execute_of_not_control hs]
    by_cases hfailed : db.isFailed = true
    · rw [if_pos hfailed]
      exact .ignored _ hs hfailed
    rw [if_neg hfailed]
    by_cases hmalformed : statement.isMalformed = true
    · rw [if_pos hmalformed]
      exact .malformed _ hmalformed
    have hwithin : ¬ (!statement.fits) = true := by
      rw [hfits]
      decide
    rw [if_neg hmalformed, if_neg hwithin]
    have hsound : db.isFailed = false := Bool.eq_false_iff.mpr hfailed
    have hformed : statement.isMalformed = false := Bool.eq_false_iff.mpr hmalformed
    cases hv : statement.violated db.rows with
    | nil => exact .carriedOut hs hsound hformed hv (answers_replyTo db statement)
    | cons constraint rest => exact .refused _ hs hsound hformed (hv ▸ List.mem_cons_self)

end Database
end PlayerAccounts.Sql
