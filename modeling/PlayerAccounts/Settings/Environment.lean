/-!
# The environment

Named texts from outside, and what they say about the stage the service runs for, the kind of store and
the database. A kind of store that is not known is refused; so are, in production, a store in memory and
a database without an address.
-/
namespace PlayerAccounts.Settings
set_option autoImplicit false

/-- Named texts. -/
abbrev Environment : Type := String → Option String

/-! ## Stages -/

inductive Stage where
  | development | production
deriving DecidableEq, Repr

def Stage.name : Stage → String
  | development => "development"
  | production => "production"

/-- The stage: production on the platform that names its function, or if it is asked for. -/
def Stage.detect (env : Environment) : Stage :=
  if (env "AWS_LAMBDA_FUNCTION_NAME").isSome then production
  else match env "APP_ENV" with
    | some "production" | some "prod" => production
    | _ => development

/-! ## Stores -/

inductive StoreKind where
  | database | memory
deriving DecidableEq, Repr

def StoreKind.name : StoreKind → String
  | database => "Postgres"
  | memory => "Memory"

inductive SettingsFault where
  | unknownStore (name : String)
  | memoryInProduction
  | databaseUnset
deriving DecidableEq, Repr

def SettingsFault.message : SettingsFault → String
  | unknownStore name =>
    "Unknown STORE_BACKEND '" ++ name ++ "' (expected postgres or memory)"
  | memoryInProduction => "STORE_BACKEND=memory is not allowed in production"
  | databaseUnset =>
    "DATABASE_URL must be set in production! Configure it in Lambda environment variables."

def StoreKind.read (env : Environment) : Except SettingsFault StoreKind :=
  match (env "STORE_BACKEND").map String.toLower with
  | none | some "postgres" | some "pg" => .ok database
  | some "memory" => .ok memory
  | some other => .error (.unknownStore other)

/-! ## The database -/

/-- The address of the database on the machine of a developer. -/
def localDatabase (env : Environment) : String :=
  let part (name default : String) := (env name).getD default
  "postgres://" ++ part "POSTGRES_USER" "postgres" ++ ":" ++ part "POSTGRES_PASSWORD" "postgres" ++
    "@" ++ part "DB_HOST" "localhost" ++ ":" ++ part "DB_PORT" "5432" ++ "/" ++
    part "POSTGRES_DB" "accounts"

def databaseUrlOf (stage : Stage) (env : Environment) : Except SettingsFault String :=
  match env "DATABASE_URL", stage with
  | some url, _ => .ok url
  | none, .production => .error .databaseUnset
  | none, .development => .ok (localDatabase env)

end PlayerAccounts.Settings
