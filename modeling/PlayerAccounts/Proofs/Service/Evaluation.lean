import PlayerAccounts.Proofs.Store.Runs
import PlayerAccounts.Service.Accounts
/-!
# Programs on the store in memory

The store in memory never breaks down, so a program on it comes to a result and the tables after it.
The steps of an action are taken one after the other: each lemma here takes one step whose answer is
known, or ends the action with the refusal of that step.
-/
namespace PlayerAccounts.Service
set_option autoImplicit false

open PlayerAccounts.Store

variable {α β : Type}

/-! ## Programs -/

namespace Program

/-- What a program comes to on the store in memory: its result, and the tables after it. -/
def eval : Program α → Tables → α × Tables
  | done a, t => (a, t)
  | ask call next, t => (next (t.answer call).1).eval (t.answer call).2
  | note _ next, t => next.eval t

/-- It is what running the program on that store leaves. -/
theorem run_backend (p : Program α) (t : Tables) :
    (p.run Tables.backend t).result = .ok (p.eval t).1 ∧ (p.run Tables.backend t).state = (p.eval t).2 := by
  induction p generalizing t with
  | done a => exact ⟨rfl, rfl⟩
  | ask call next ih => exact ih (t.answer call).1 (t.answer call).2
  | note event next ih => exact ih t

theorem eval_bind (p : Program α) (f : α → Program β) (t : Tables) :
    (p >>= f).eval t = (f (p.eval t).1).eval (p.eval t).2 := by
  change (p.bind f).eval t = _
  induction p generalizing t with
  | done a => rfl
  | ask call next ih => exact ih (t.answer call).1 (t.answer call).2
  | note event next ih => exact ih t

/-- Calls are all that changes the tables, so what every call keeps a program keeps. -/
theorem eval_invariant {I : Tables → Prop} (hcall : ∀ t call, I t → I (t.answer call).2)
    (p : Program α) {t : Tables} (h : I t) : I (p.eval t).2 := by
  induction p generalizing t with
  | done a => exact h
  | ask call next ih => exact ih (t.answer call).1 (hcall t call h)
  | note event next ih => exact ih h

theorem sound_eval (p : Program α) {t : Tables} (h : t.Sound) : (p.eval t).2.Sound :=
  p.eval_invariant (fun _ call hs => hs.answer call) h

end Program

/-! ## Actions -/

namespace Action

/-- What an action comes to on the store in memory: its result or refusal, and the tables after it. -/
def eval (a : Action α) (t : Tables) : Except ServiceError α × Tables := Program.eval a.run t

theorem sound_eval (a : Action α) {t : Tables} (h : t.Sound) : (a.eval t).2.Sound :=
  Program.sound_eval a.run h

variable {a : Action α} {f : α → Action β} {t t' : Tables}

theorem eval_pure (x : α) (t : Tables) : (pure x : Action α).eval t = (.ok x, t) := rfl

theorem eval_throw (e : ServiceError) (t : Tables) :
    (throw e : Action α).eval t = (.error e, t) := rfl

/-! ### Steps -/

theorem eval_bind_ok {x : α} (h : a.eval t = (.ok x, t')) : (a >>= f).eval t = (f x).eval t' := by
  change Program.eval (a.run >>= ExceptT.bindCont f) t = _
  have h' : Program.eval a.run t = (.ok x, t') := h
  rw [Program.eval_bind, h']
  rfl

theorem eval_bind_error {e : ServiceError} (h : a.eval t = (.error e, t')) :
    (a >>= f).eval t = (.error e, t') := by
  change Program.eval (a.run >>= ExceptT.bindCont f) t = _
  have h' : Program.eval a.run t = (.error e, t') := h
  rw [Program.eval_bind, h']
  rfl

theorem eval_map_ok {g : α → β} {x : α} (h : a.eval t = (.ok x, t')) :
    (g <$> a).eval t = (.ok (g x), t') := by
  change Program.eval (a.run >>= _) t = _
  have h' : Program.eval a.run t = (.ok x, t') := h
  rw [Program.eval_bind, h']
  rfl

theorem eval_map_error {g : α → β} {e : ServiceError} (h : a.eval t = (.error e, t')) :
    (g <$> a).eval t = (.error e, t') := by
  change Program.eval (a.run >>= _) t = _
  have h' : Program.eval a.run t = (.error e, t') := h
  rw [Program.eval_bind, h']
  rfl

/-- A call whatever it yields. -/
theorem eval_ask_bind {call : Call} {answer : Except StoreError call.Answer}
    {f : Except StoreError call.Answer → Action β} (h : t.answer call = (answer, t')) :
    (ask call >>= f).eval t = (f answer).eval t' := by
  apply eval_bind_ok
  change (Except.ok (t.answer call).1, (t.answer call).2) = _
  rw [h]

theorem eval_demand_ok {call : Call} {answer : call.Answer} (h : t.answer call = (.ok answer, t')) :
    (demand call).eval t = (.ok answer, t') := by
  rw [demand, eval_ask_bind h]
  rfl

theorem eval_demand_error {call : Call} {e : StoreError} (h : t.answer call = (.error e, t')) :
    (demand call).eval t = (.error (ServiceError.ofStore e), t') := by
  rw [demand, eval_ask_bind h]
  rfl

theorem eval_require_none {broken? : Option Account.BrokenRule} (h : broken? = none) (t : Tables) :
    (require broken?).eval t = (.ok (), t) := by
  rw [h]
  rfl

theorem eval_require_some {broken? : Option Account.BrokenRule} {rule : Account.BrokenRule}
    (h : broken? = some rule) (t : Tables) :
    (require broken?).eval t = (.error (ServiceError.ofRule rule), t) := by
  rw [h]
  rfl

/-- Two checks in a row are one check for the first rule that is broken. -/
theorem eval_require_or (first? second? : Option Account.BrokenRule) (f : Unit → Action β) (t : Tables) :
    (require first? >>= fun _ => require second? >>= f).eval t =
      (require (first?.or second?) >>= f).eval t := by
  cases first? with
  | none => rw [eval_bind_ok (eval_require_none rfl t), Option.none_or]
  | some rule =>
    rw [eval_bind_error (eval_require_some rfl t), Option.some_or,
      eval_bind_error (eval_require_some rfl t)]

end Action
end PlayerAccounts.Service
