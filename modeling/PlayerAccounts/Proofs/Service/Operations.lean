import PlayerAccounts.Proofs.Service.AccountOutcomes
/-!
# Runs of the service

The operations that the service offers, each with what it yields, and runs of them one after the other on
the store in memory. A run leaves the tables and the list of what was performed, first one first.
-/
namespace PlayerAccounts.Service
set_option autoImplicit false

open PlayerAccounts.Account
open PlayerAccounts.Store

/-! ## Operations -/

/-- Something that the service can be asked to do. -/
inductive Operation where
  | isLoginFree (login : String)
  | register (r : Api.Registration)
  | loginWithPassword (r : Api.PasswordLogin)
  | loginWithToken (token : String)
  | validateToken (token : String)
  | issueToken (userId : String)
  | logout (userId : String)
  | getUser (userId : String)
  | updateUser (userId : String) (request : UserUpdate)
  | updateProfile (userId : String) (edit : ProfileEdit)
  | deleteUser (userId : String)
  | changePassword (userId : String) (r : Api.PasswordChange)

namespace Operation

/-- What an operation yields. -/
abbrev Answer : Operation → Type
  | isLoginFree _ => Bool
  | register _ | loginWithPassword _ | loginWithToken _ => Api.Session
  | validateToken _ | issueToken _ => String
  | logout _ | deleteUser _ | changePassword _ _ => Unit
  | getUser _ | updateUser _ _ | updateProfile _ _ => User

/-- The operation as an action on an occasion. -/
def action (sealer : Sealer) (o : Occasion) : (op : Operation) → Action op.Answer
  | .isLoginFree login => Service.isLoginFree login
  | .register r => Service.register sealer o r
  | .loginWithPassword r => Service.loginWithPassword o r
  | .loginWithToken token => Service.loginWithToken o token
  | .validateToken token => Service.validateToken o.first token
  | .issueToken userId => Service.issueToken o userId
  | .logout userId => Service.logout userId
  | .getUser userId => Service.getUser userId
  | .updateUser userId request => Service.updateUser userId request
  | .updateProfile userId edit => Service.updateProfile userId edit
  | .deleteUser userId => Service.deleteUser userId
  | .changePassword userId r => Service.changePassword sealer o userId r

end Operation

/-! ## Runs -/

/-- An operation that was performed, with what it came to. -/
structure Performed where
  operation : Operation
  result : Except ServiceError operation.Answer

/-- An operation on tables: what was performed, and the tables after it. -/
def perform (sealer : Sealer) (t : Tables) (o : Occasion) (op : Operation) : Performed × Tables :=
  (⟨op, ((op.action sealer o).eval t).1⟩, ((op.action sealer o).eval t).2)

/-- A run of operations on tables: what was performed, and the tables after it. -/
def performAll (sealer : Sealer) (t : Tables) : List (Occasion × Operation) → List Performed × Tables
  | [] => ([], t)
  | (o, op) :: run =>
    let (step, t) := perform sealer t o op
    let (steps, t) := performAll sealer t run
    (step :: steps, t)

theorem sound_perform {t : Tables} (h : t.Sound) (sealer : Sealer) (o : Occasion) (op : Operation) :
    (perform sealer t o op).2.Sound := (op.action sealer o).sound_eval h

theorem sound_performAll {t : Tables} (h : t.Sound) (sealer : Sealer)
    (run : List (Occasion × Operation)) : (performAll sealer t run).2.Sound := by
  induction run generalizing t with
  | nil => exact h
  | cons first run ih => exact ih (sound_perform h sealer first.1 first.2)

end PlayerAccounts.Service
