import PlayerAccounts.Store.Error
/-!
# Failed queries

How a query can fail, and what its failure means for the store that made it.
-/
namespace PlayerAccounts.Sql
set_option autoImplicit false

open PlayerAccounts.Store

/-! ## Refusals of the database -/

inductive Violation where
  | unique
  | foreignKey
  | unsendable
  | serialization
  | readOnly
  | notNull
  | check
  | restrict
  | exclusion
  | closed
  | unknown
deriving DecidableEq, Repr

/-- The kind of refusal that a code of the standard stands for. -/
def Violation.ofCode : String → Violation
  | "23505" => unique
  | "23503" => foreignKey
  | "40001" => serialization
  | "25006" => readOnly
  | "23502" => notNull
  | "23514" => check
  | "23001" => restrict
  | "23P01" => exclusion
  | _ => unknown

structure Refusal where
  violation : Violation
  message : String
deriving DecidableEq, Repr

/-! ## Failures -/

inductive QueryError where
  /-- A row was wanted and there is none. -/
  | noRow
  | refused (refusal : Refusal)
  /-- The query could not be put together. -/
  | unbuildable (why : String)
  /-- What the database sent cannot be understood. -/
  | unreadable (why : String)
  /-- A parameter cannot be sent. -/
  | unwritable (why : String)
  /-- The transaction was given up on purpose. -/
  | givenUp
  | withinTransaction
  | outsideTransaction
  | brokenTransaction
deriving DecidableEq, Repr

namespace QueryError

def message : QueryError → String
  | noRow => "Record not found"
  | refused refusal => refusal.message
  | unbuildable why | unreadable why | unwritable why => why
  | givenUp => "You have asked diesel to rollback the transaction"
  | withinTransaction => "Cannot perform this operation while a transaction is open"
  | outsideTransaction => "Cannot perform this operation outside of a transaction"
  | brokenTransaction => "The transaction manager is broken"

/-- What the failure means for a store. -/
def storeError (e : QueryError) : StoreError :=
  match e with
  | noRow => .notFound e.message
  | refused refusal =>
    match refusal.violation with
    | .unique => .duplicate refusal.message
    | .foreignKey => .unknownUser refusal.message
    | _ => .failed refusal.message
  | _ => .failed e.message

end QueryError
end PlayerAccounts.Sql
