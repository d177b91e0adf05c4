import PlayerAccounts.Account.Password
import PlayerAccounts.Log.Entry
import PlayerAccounts.Settings.Environment
import PlayerAccounts.Settings.Masked
import PlayerAccounts.Text.Blank
import PlayerAccounts.Text.Unsigned
/-!
# Reading the settings

All settings out of an environment, and what the log says about them. A number that is missing or makes
no sense gets a default. The log shows the address of the database masked.
-/
namespace PlayerAccounts
set_option autoImplicit false

open PlayerAccounts.Log
open PlayerAccounts.Text

/-! ## The type -/

structure Settings where
  stage : Settings.Stage
  store : Settings.StoreKind
  databaseUrl : String
  poolSize : Nat
  migrates : Bool
  sealingCost : Nat
  host : String
  port : Nat
deriving DecidableEq, Repr

namespace Settings

def address (s : Settings) : String := s.host ++ ":" ++ toString s.port

/-! ## Single settings -/

/-- The number in an environment, if there is one and it is small enough. -/
def number? (env : Environment) (name : String) (bound : Nat) : Option Nat :=
  (env name).bind fun s => readUnsigned? bound s.toList

/-- How many connections the pool has: at least one. -/
def poolSizeOf (env : Environment) : Nat :=
  ((number? env "DB_POOL_SIZE" maxWord32).filter (0 < ·)).getD 5

/-- Whether a text says yes; all but a few texts do. -/
def saysYes (s : String) : Bool :=
  !(["0", "false", "no", "off"].contains (String.ofList (trim s.toList)).toLower)

def migratesOf (env : Environment) : Bool := ((env "RUN_MIGRATIONS").map saysYes).getD true

/-- The cost at which passwords are sealed, moved into the range of costs. -/
def sealingCostOf (env : Environment) : Nat :=
  ((number? env "BCRYPT_COST" maxWord32).map fun cost =>
    max Bcrypt.minCost (min cost Bcrypt.maxCost)).getD Account.defaultCost

def portOf (env : Environment) : Nat := (number? env "SERVER_PORT" maxWord16).getD 3000

/-! ## All settings -/

def read (env : Environment) : Except SettingsFault Settings := do
  let stage := Stage.detect env
  let store ← StoreKind.read env
  if store = .memory ∧ stage = .production then throw .memoryInProduction
  return {
    stage := stage
    store := store
    databaseUrl := ← databaseUrlOf stage env
    poolSize := poolSizeOf env
    migrates := migratesOf env
    sealingCost := sealingCostOf env
    host := (env "SERVER_HOST").getD "0.0.0.0"
    port := portOf env }

/-! ## In the log -/

/-- An entry without particulars. -/
def remark (level : Level) (message : String) : Entry := ⟨level, message, []⟩

/-- What the log says about usable settings. -/
def entries (s : Settings) : List Entry :=
  [remark .info "✅ Configuration loaded successfully",
    remark .debug ("   Store: " ++ s.store.name),
    remark .debug ("   Database: " ++ masked s.databaseUrl),
    remark .debug ("   Pool size: " ++ toString s.poolSize),
    remark .debug ("   Server: " ++ s.address)]

def log (env : Environment) : List Entry :=
  remark .info ("🌍 Environment detected: " ++ (Stage.detect env).name.toUpper) ::
    match read env with
    | .ok s => s.entries
    | .error _ => []

end Settings
end PlayerAccounts
