import PlayerAccounts.Sql.Accounts
/-!
# Pools of connections

A store in a database takes a connection from a pool for every call. If none can be had, the call fails
before anything is sent.
-/
namespace PlayerAccounts.Sql
set_option autoImplicit false

open PlayerAccounts.Store

/-- A pool of connections to one database. -/
structure Pool where
  size : Nat
  /-- Whether the database takes connections. -/
  isReachable : Bool
deriving DecidableEq, Repr

namespace Pool

def timedOut : String := "timed out waiting for connection"

/-- The store of a pool as diagnostics show it. -/
def describe (p : Pool) : String := "PgStore \x7b max_size: " ++ toString p.size ++ ", .. \x7d"

def takeConnection (p : Pool) : Except String Unit :=
  if p.isReachable then .ok ()
  else .error ("Unable to get a connection from the pool: " ++ timedOut)

def carryOut (p : Pool) (call : Call) : StoreQuery call.Answer :=
  if p.isReachable then Sql.carryOut call else throw (.unavailable timedOut)

/-- The store in the database of the pool, which is reached over a connection. -/
def backend {σ : Type} (p : Pool) (c : Connection σ) : Backend σ where
  answer call state :=
    let (answer, state) := (p.carryOut call).run.run c state
    (.ok answer, state)

end Pool
end PlayerAccounts.Sql
