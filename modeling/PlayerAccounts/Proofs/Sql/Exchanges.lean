import PlayerAccounts.Service.Program
import PlayerAccounts.Sql.Pool
/-!
# Exchanges with the database

What a query sends over a connection and what comes back, statement by statement, and the same for a
program whose calls are carried out over a pool.
-/
namespace PlayerAccounts.Sql
set_option autoImplicit false

open PlayerAccounts.Service

variable {σ α β : Type}

/-- A statement with the reply to it. -/
structure Exchange (σ : Type) where
  /-- The state of the database when the statement arrived. -/
  before : σ
  statement : Statement
  reply : Except Refusal Reply

/-! ## Queries -/

namespace Query

/-- The exchanges of a query, in their order. -/
def exchanges (c : Connection σ) : Query α → σ → List (Exchange σ)
  | done _, _ => []
  | send statement next, state =>
    let (reply, after) := c.execute statement state
    ⟨state, statement, reply⟩ :: (next reply).exchanges c after

theorem run_bind (c : Connection σ) (q : Query α) (f : α → Query β) (state : σ) :
    (q >>= f).run c state = (f (q.run c state).1).run c (q.run c state).2 := by
  change (q.bind f).run c state = _
  induction q generalizing state with
  | done a => rfl
  | send statement next ih => exact ih (c.execute statement state).1 (c.execute statement state).2

theorem exchanges_bind (c : Connection σ) (q : Query α) (f : α → Query β) (state : σ) :
    (q >>= f).exchanges c state =
      q.exchanges c state ++ (f (q.run c state).1).exchanges c (q.run c state).2 := by
  change (q.bind f).exchanges c state = _
  induction q generalizing state with
  | done a => rfl
  | send statement next ih =>
    exact congrArg (_ :: ·) (ih (c.execute statement state).1 (c.execute statement state).2)

end Query

/-! ## Programs -/

namespace Pool

/-- The exchanges of a call. -/
def exchangesOf (p : Pool) (c : Connection σ) (call : Store.Call) (state : σ) : List (Exchange σ) :=
  (p.carryOut call).run.exchanges c state

/-- The exchanges of a program over the pool, call by call. -/
def exchanges (p : Pool) (c : Connection σ) : Program α → σ → List (Exchange σ)
  | .done _, _ => []
  | .ask call next, state =>
    let (answer, after) := (p.carryOut call).run.run c state
    p.exchangesOf c call state ++ p.exchanges c (next answer) after
  | .note _ next, state => p.exchanges c next state

end Pool
end PlayerAccounts.Sql
