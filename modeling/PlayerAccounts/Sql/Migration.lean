import PlayerAccounts.Sql.Pool
/-!
# Migrations

Bringing the schema of a database up to date: every migration that was not carried out yet is, in a
transaction of its own, and is remembered by its version.
-/
namespace PlayerAccounts.Sql
set_option autoImplicit false

/-! ## Texts -/

/-- Lines, each with its end. -/
def lines (all : List String) : String := String.join (all.map (· ++ "\n"))

/-- The relation that remembers which migrations were carried out. -/
def versionsTable : String :=
  lines [
    "CREATE TABLE IF NOT EXISTS __diesel_schema_migrations (",
    "       version VARCHAR(50) PRIMARY KEY NOT NULL,",
    "       run_on TIMESTAMP NOT NULL DEFAULT CURRENT_TIMESTAMP",
    ");"]

/-- A step of the schema from one state to the next. -/
structure Migration where
  version : String
  name : String
  text : String
deriving DecidableEq, Repr

def createAccounts : Migration where
  version := "20240101000000"
  name := "2024-01-01-000000_create_accounts"
  text := lines [
    "CREATE TABLE \"user\" (",
    "    user_id            VARCHAR(32)  PRIMARY KEY,",
    "    email              VARCHAR(255),",
    "    email_confirmed    BOOLEAN      NOT NULL DEFAULT FALSE,",
    "    timestamp_register TIMESTAMPTZ  NOT NULL,",
    "    timestamp_active   TIMESTAMPTZ  NOT NULL,",
    "    crystals           INTEGER      NOT NULL DEFAULT 0,",
    "    double_crystals    TIMESTAMPTZ,",
    "    experience         INTEGER      NOT NULL DEFAULT 0,",
    "    premium            TIMESTAMPTZ",
    ");",
    "",
    "CREATE TABLE user_authentication (",
    "    user_id       VARCHAR(32) PRIMARY KEY REFERENCES \"user\" (user_id) ON DELETE CASCADE,",
    "    login_user    VARCHAR(32) NOT NULL UNIQUE,",
    "    password_hash VARCHAR(64) NOT NULL,",
    "    password_salt VARCHAR(16) NOT NULL",
    ");",
    "",
    "CREATE TABLE user_authentication_token (",
    "    user_id             VARCHAR(32) PRIMARY KEY REFERENCES \"user\" (user_id) ON DELETE CASCADE,",
    "    timestamp_created   TIMESTAMPTZ NOT NULL,",
    "    timestamp_last_used TIMESTAMPTZ NOT NULL,",
    "    token               VARCHAR(64) NOT NULL UNIQUE,",
    "    CONSTRAINT token_last_used_after_created CHECK (timestamp_last_used >= timestamp_created)",
    ");"]

def migrations : List Migration := [createAccounts]

/-! ## Carrying out -/

def readVersions (rows : List Row) : Except QueryError (List String) :=
  rows.mapM fun row =>
    match row with
    | [version] => version.inColumn Statement.versionColumn Value.asText
    | _ => .error wrongWidth

/-- Sends a statement; a failure is told in the words of the database. -/
def sending (statement : Statement) : Attempt String Reply :=
  (Attempt.send statement).inTermsOf QueryError.message

/-- The versions of the migrations that were carried out. -/
def carriedOutVersions : Attempt String (List String) := do
  let _ ← sending (.script versionsTable)
  let reply ← sending .selectVersions
  match readVersions reply.toRows with
  | .ok versions => return versions
  | .error e => throw e.message

/-- Carries out a migration and remembers it. -/
def Migration.apply (m : Migration) : Attempt String Unit :=
  Attempt.transaction QueryError.message do
    let _ ← (sending (.script m.text)).inTermsOf fun why =>
      "Failed to run " ++ m.name ++ " with: " ++ why
    let _ ← sending (.insertVersion m.version)

/-- Carries out migrations in order; the result is their versions. -/
def applyAll : List Migration → Attempt String (List String)
  | [] => pure []
  | m :: rest => do
    m.apply
    return m.version :: (← applyAll rest)

/-- Carries out all migrations that were not carried out yet. -/
def applyPending : Attempt String (List String) := do
  let versions ← carriedOutVersions
  applyAll (migrations.filter fun m => !versions.contains m.version)

/-- Brings the schema of the database of a pool up to date; the result is the versions of the
migrations that it took. -/
def Pool.migrate (p : Pool) : Attempt String (List String) :=
  match p.takeConnection with
  | .error why => throw why
  | .ok () => applyPending.inTermsOf ("Failed to run migrations: " ++ ·)

end PlayerAccounts.Sql
