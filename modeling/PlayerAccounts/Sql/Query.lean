import PlayerAccounts.Sql.Fault
import PlayerAccounts.Sql.Statement
/-!
# Queries

A query sends statements and goes on with the replies. Queries are data that run on any connection; a
transaction sends its statements between a begin and a commit, or a rollback where it fails.
-/
namespace PlayerAccounts.Sql
set_option autoImplicit false

/-! ## Replies -/

/-- What the database answers to a statement that it carries out. -/
inductive Reply where
  | rows (rows : List Row)
  /-- How many rows were affected. -/
  | affected (count : Nat)
deriving DecidableEq, Repr

def Reply.toRows : Reply → List Row
  | rows all => all
  | affected _ => []

def Reply.count : Reply → Nat
  | rows all => all.length
  | affected n => n

structure Connection (σ : Type) where
  execute : Statement → σ → Except Refusal Reply × σ

/-! ## Queries -/

/-- A query with a result of type `α`. -/
inductive Query (α : Type) where
  | done (value : α)
  | send (statement : Statement) (next : Except Refusal Reply → Query α)

namespace Query

variable {α β σ : Type}

/-- One query and then another. -/
protected def bind : Query α → (α → Query β) → Query β
  | done a, f => f a
  | send statement next, f => send statement fun reply => (next reply).bind f

instance : Monad Query where
  pure := done
  bind := Query.bind

def run (c : Connection σ) : Query α → σ → α × σ
  | done a, state => (a, state)
  | send statement next, state =>
    let (reply, state) := c.execute statement state
    (next reply).run c state

end Query

/-! ## Queries that can fail -/

/-- A query that yields a result or fails with an `ε`. -/
abbrev Attempt (ε α : Type) : Type := ExceptT ε Query α

namespace Attempt

variable {ε α : Type}

def send (statement : Statement) : Attempt QueryError Reply :=
  ExceptT.mk (Query.send statement fun reply => Query.done (reply.mapError .refused))

def first? (read : Row → Except QueryError α) (statement : Statement) :
    Attempt QueryError (Option α) := do
  match (← send statement).toRows with
  | [] => return none
  | row :: _ => some <$> ExceptT.mk (Query.done (read row))

/-- The value of the first row, which has to be there. -/
def first (read : Row → Except QueryError α) (statement : Statement) : Attempt QueryError α := do
  match ← first? read statement with
  | some a => return a
  | none => throw .noRow

/-- The same query with its failures put in other terms. -/
def inTermsOf {δ : Type} (terms : ε → δ) (attempt : Attempt ε α) : Attempt δ α :=
  ExceptT.mk do return (← attempt.run).mapError terms

/-- A query within a transaction. If the rollback is refused as well, its failure is the one that
counts. -/
def transaction (terms : QueryError → ε) (body : Attempt ε α) : Attempt ε α := do
  let _ ← inTermsOf terms (send .begin)
  match ← ExceptT.lift body.run with
  | .ok a =>
    let _ ← inTermsOf terms (send .commit)
    return a
  | .error e =>
    let _ ← inTermsOf terms (send .rollback)
    throw e

end Attempt
end PlayerAccounts.Sql
