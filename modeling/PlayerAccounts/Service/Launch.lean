import PlayerAccounts.Service.Program
import PlayerAccounts.Settings.Basic
import PlayerAccounts.Sql.Migration
import PlayerAccounts.Store.Tables
/-!
# Starting the service

From the settings to a service: a sealer for passwords and a store, which is empty in memory or a database
whose schema is up to date.
-/
namespace PlayerAccounts.Service
set_option autoImplicit false

open PlayerAccounts.Account
open PlayerAccounts.Log
open PlayerAccounts.Sql
open PlayerAccounts.Store

/-! ## Services -/

/-- Where a service keeps accounts. -/
inductive Storage where
  | memory
  | database (pool : Pool)
deriving DecidableEq, Repr

/-- A service that has been started. -/
structure Started where
  sealer : Sealer
  storage : Storage
deriving DecidableEq, Repr

/-- The store of a service over tables in memory and a connection to a database; the storage says which
of the two is used. -/
def Storage.backend {σ : Type} (s : Storage) (c : Connection σ) : Backend (Tables × σ) where
  answer call := fun (tables, state) =>
    match s with
    | memory => let (answer, tables) := Tables.backend.answer call tables; (answer, tables, state)
    | database pool => let (answer, state) := (pool.backend c).answer call state; (answer, tables, state)

/-! ## Starting -/

/-- What the log says about the migrations that were carried out. -/
def migrationEntries (versions : List String) : List Entry :=
  versions.map (fun version => ⟨.info, "Applied migration", [("version", version)]⟩) ++
    [⟨.info, "Database schema is up to date", [("applied", toString versions.length)]⟩]

/-- What the log says about a store in memory. -/
def memoryEntry : Entry :=
  ⟨.warning, "⚠️  Using the in-memory store, accounts are lost on exit", []⟩

/-- Opens the store that the settings ask for; the log entries belong to it. -/
def openStorage (s : Settings) (isReachable : Bool) : Attempt String (Storage × List Entry) := do
  match s.store with
  | .memory => return (.memory, [memoryEntry])
  | .database =>
    let pool : Pool := ⟨s.poolSize, isReachable⟩
    if s.migrates then return (.database pool, migrationEntries (← pool.migrate))
    else return (.database pool, [])

def start (s : Settings) (isReachable : Bool) : Attempt String (Started × List Entry) := do
  let (storage, entries) ← openStorage s isReachable
  return (⟨⟨s.sealingCost⟩, storage⟩, entries)

end PlayerAccounts.Service
