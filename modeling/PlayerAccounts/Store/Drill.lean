import PlayerAccounts.Store.Call
/-!
# Fault drills

A backend in front of another one that fails chosen calls, to see how callers cope. A planned fault
concerns one kind of call: it lets some of them pass, fails some, and is over.
-/
namespace PlayerAccounts.Store
set_option autoImplicit false

/-! ## Plans -/

inductive Kind where
  | addUser | findUser | amendUser | removeUser | setCredential | credentialOfLogin
  | credentialOfUser | issueToken | useToken | revokeToken
deriving DecidableEq, Repr

def Call.kind : Call → Kind
  | addUser _ => .addUser
  | findUser _ => .findUser
  | amendUser _ _ => .amendUser
  | removeUser _ => .removeUser
  | setCredential _ => .setCredential
  | credentialOfLogin _ => .credentialOfLogin
  | credentialOfUser _ => .credentialOfUser
  | issueToken _ _ _ => .issueToken
  | useToken _ _ => .useToken
  | revokeToken _ => .revokeToken

inductive Failure where
  | refusal (error : StoreError)
  | crash (crash : Crash)
deriving DecidableEq, Repr

def Failure.answer {α : Type} : Failure → Except Crash (Except StoreError α)
  | refusal error => .ok (.error error)
  | crash c => .error c

/-- A fault that is planned for one kind of call. -/
structure PlannedFault where
  kind : Kind
  /-- How many calls pass first. -/
  passing : Nat
  /-- How many calls then fail. -/
  failing : Nat
  failure : Failure
deriving DecidableEq, Repr

/-! ## Carrying out -/

/-- What becomes of the plan at a call, and how the call fails if it does. The first fault of its kind
that is not over decides. -/
def nextFault (kind : Kind) : List PlannedFault → List PlannedFault × Option Failure
  | [] => ([], none)
  | fault :: plan =>
    if fault.kind = kind ∧ fault.failing ≠ 0 then
      if fault.passing = 0 then
        ({ fault with failing := fault.failing - 1 } :: plan, some fault.failure)
      else ({ fault with passing := fault.passing - 1 } :: plan, none)
    else
      let (rest, failure) := nextFault kind plan
      (fault :: rest, failure)

/-- The backend behind a plan of faults. A call that fails does not reach it. -/
def Backend.drilled {σ : Type} (b : Backend σ) : Backend (List PlannedFault × σ) where
  answer call := fun (plan, state) =>
    match nextFault call.kind plan with
    | (plan, some failure) => (failure.answer, plan, state)
    | (plan, none) =>
      let (answer, state) := b.answer call state
      (answer, plan, state)

end PlayerAccounts.Store
