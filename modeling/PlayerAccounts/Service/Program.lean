import PlayerAccounts.Service.Event
import PlayerAccounts.Store.Call
/-!
# Programs over a store

An operation of the service is a program: it asks the store, goes on with the answers, and notes events.
Programs are data, so one can be run on any backend, and several can take turns, call by call.
-/
namespace PlayerAccounts.Service
set_option autoImplicit false

open PlayerAccounts.Store

/-! ## The type -/

/-- A program with a result of type `α`. -/
inductive Program (α : Type) where
  | done (value : α)
  | ask (call : Call) (next : Except StoreError call.Answer → Program α)
  | note (event : Event) (next : Program α)

namespace Program

variable {α β σ : Type}

/-- One program and then another. -/
protected def bind : Program α → (α → Program β) → Program β
  | done a, f => f a
  | ask call next, f => ask call fun answer => (next answer).bind f
  | note event next, f => note event (next.bind f)

instance : Monad Program where
  pure := done
  bind := Program.bind

/-! ## Running -/

/-- What is left when a program has run. -/
structure Outcome (σ α : Type) where
  /-- The result, unless a call broke down. -/
  result : Except Crash α
  state : σ
  events : List Event

def run (b : Backend σ) : Program α → σ → Outcome σ α
  | done a, state => ⟨.ok a, state, []⟩
  | ask call next, state =>
    match b.answer call state with
    | (.ok answer, state) => (next answer).run b state
    | (.error crash, state) => ⟨.error crash, state, []⟩
  | note event next, state =>
    let outcome := next.run b state
    { outcome with events := event :: outcome.events }

end Program

/-! ## Programs that can be refused -/

/-- A program that yields a result or a refusal. -/
abbrev Action (α : Type) : Type := ExceptT ServiceError Program α

namespace Action

/-- Asks the store and goes on with its answer, whatever it is. -/
def ask (call : Call) : Action (Except StoreError call.Answer) :=
  ExceptT.lift (Program.ask call Program.done)

/-- Asks the store; its refusal is the action's. -/
def demand (call : Call) : Action call.Answer := do
  match ← ask call with
  | .ok answer => return answer
  | .error e => throw (ServiceError.ofStore e)

def note (event : Event) : Action Unit := ExceptT.lift (Program.note event (Program.done ()))

/-- Goes on only if no rule is broken. -/
def require (broken? : Option Account.BrokenRule) : Action Unit :=
  match broken? with
  | some rule => throw (ServiceError.ofRule rule)
  | none => pure ()

end Action
end PlayerAccounts.Service
