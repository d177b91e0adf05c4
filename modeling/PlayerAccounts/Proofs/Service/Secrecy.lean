import PlayerAccounts.Proofs.Service.AccountOutcomes
import PlayerAccounts.Proofs.Store.Secrets
/-!
# Operations that spare somebody's secrets

An operation that is not about a user's session or credential comes to the same result whatever that
user's secrets are. The two runs go step by step: a step that is answered alike goes on alike.
-/
namespace PlayerAccounts.Service
set_option autoImplicit false

open PlayerAccounts.Account
open PlayerAccounts.Store
open PlayerAccounts.Store.Tables (Veiled Spares)
open PlayerAccounts.Service.Action

variable {α β : Type} {id : String} {named : String → Prop} {t t' : Tables}

/-! ## Steps -/

/-- On both tables the action comes to the same, and leaves tables that differ in the same secrets. -/
structure Agrees (id : String) (named : String → Prop) (a : Action α) (t t' : Tables) : Prop where
  result : (a.eval t').1 = (a.eval t).1
  veiled : Veiled id named (a.eval t).2 (a.eval t').2

section Steps
variable {a : Action α} {f : α → Action β}

theorem agrees_pure (w : Veiled id named t t') (x : α) : Agrees id named (pure x) t t' := ⟨rfl, w⟩

theorem agrees_throw (w : Veiled id named t t') (e : ServiceError) :
    Agrees id named (throw e : Action α) t t' := ⟨rfl, w⟩

theorem agrees_bind (ha : Agrees id named a t t')
    (hf : ∀ x s s', a.eval t = (.ok x, s) → Veiled id named s s' → Agrees id named (f x) s s') :
    Agrees id named (a >>= f) t t' := by
  obtain ⟨hresult, hveiled⟩ := ha
  generalize hres : a.eval t = result at hresult hveiled
  generalize hres' : a.eval t' = result' at hresult hveiled
  obtain ⟨answer, s⟩ := result
  obtain ⟨answer', s'⟩ := result'
  cases hresult
  cases answer with
  | ok x =>
    have hnext := hf x s s' hres hveiled
    constructor
    · rw [eval_bind_ok hres, eval_bind_ok hres']
      exact hnext.result
    · rw [eval_bind_ok hres, eval_bind_ok hres']
      exact hnext.veiled
  | error e =>
    constructor
    · rw [eval_bind_error hres, eval_bind_error hres']
    · rw [eval_bind_error hres, eval_bind_error hres']
      exact hveiled

theorem agrees_require (w : Veiled id named t t') (broken? : Option BrokenRule) :
    Agrees id named (require broken?) t t' := by
  cases broken? with
  | none => exact agrees_pure w ()
  | some rule => exact agrees_throw w _

theorem agrees_note (w : Veiled id named t t') (event : Event) : Agrees id named (note event) t t' :=
  ⟨rfl, w⟩

theorem agrees_ask (w : Veiled id named t t') {call : Call} (hspares : Spares id named t call) :
    Agrees id named (ask call) t t' :=
  ⟨congrArg Except.ok (w.agreeing call hspares).answer, w.answer call hspares⟩

theorem agrees_demand (w : Veiled id named t t') {call : Call} (hspares : Spares id named t call) :
    Agrees id named (demand call) t t' := by
  refine agrees_bind (agrees_ask w hspares) fun answer s s' _ w => ?_
  cases answer with
  | ok answer => exact agrees_pure w answer
  | error e => exact agrees_throw w _

end Steps

/-! ## Registration and sessions -/

theorem agrees_isLoginFree (w : Veiled id named t t') (login : String) :
    Agrees id named (isLoginFree login) t t' := by
  refine agrees_bind (agrees_require w _) fun _ s s' _ w => ?_
  -- The credential that is found may be the one with the secrets, but only whether there is one counts.
  rcases w.sound.answer_credentialOfLogin login with ⟨hfree, hcall⟩ | ⟨user, c, hc, rfl, hcall⟩
  · have hcall' : s'.answer (.credentialOfLogin login) = (.error (.notFound (loginNamed login)), s') := by
      rw [Tables.answer, Tables.credentialOfLogin_of_free (w.symm.loginFree hfree)]
    constructor
    · rw [eval_ask_bind hcall, eval_ask_bind hcall']
      rfl
    · rw [eval_ask_bind hcall, eval_ask_bind hcall']
      exact w
  · obtain ⟨c', hc', hlogin, -⟩ := w.exists_credential hc
    have hcall' : s'.answer (.credentialOfLogin c.login) = (.ok c', s') := by
      rw [Tables.answer, ← hlogin, w.sound'.credentialOfLogin_of_row hc']
    constructor
    · rw [eval_ask_bind hcall, eval_ask_bind hcall']
      rfl
    · rw [eval_ask_bind hcall, eval_ask_bind hcall']
      exact w

theorem agrees_issueToken (w : Veiled id named t t') {o : Occasion} (hdrawn : named o.token)
    (user : String) : Agrees id named (issueToken o user) t t' := by
  refine agrees_bind (agrees_ask w hdrawn) fun answer s s' _ w => ?_
  cases answer with
  | ok row => exact agrees_pure w _
  | error e => cases e <;> exact agrees_throw w _

theorem agrees_issueTokenIf (w : Veiled id named t t') {o : Occasion} (hdrawn : named o.token)
    (wanted : Bool) (user : String) : Agrees id named (issueTokenIf wanted o user) t t' := by
  cases wanted with
  | false => exact agrees_pure w none
  | true => exact agrees_bind (agrees_issueToken w hdrawn user) fun token s s' _ w => agrees_pure w _

theorem agrees_validateToken (w : Veiled id named t t') (now : Time.Instant) {token : String}
    (hshown : named token) : Agrees id named (validateToken now token) t t' := by
  unfold validateToken
  by_cases hlen : token.utf8ByteSize = 0 ∨ tokenLength < token.utf8ByteSize
  · rw [if_pos hlen]
    exact ⟨rfl, w⟩
  · rw [if_neg hlen]
    refine agrees_bind (agrees_ask w hshown) fun answer s s' _ w => ?_
    cases answer with
    | ok row => exact agrees_pure w _
    | error e => cases e <;> exact agrees_throw w _

theorem agrees_sealNew (w : Veiled id named t t') (sealer : Sealer) (o : Occasion) (password : String) :
    Agrees id named (sealNew sealer o password) t t' := by
  unfold sealNew
  cases sealPassword sealer.cost password o.salt with
  | ok secret => exact agrees_pure w secret
  | error fault => exact agrees_throw w _

theorem agrees_register (w : Veiled id named t t') (sealer : Sealer) {o : Occasion}
    (hdrawn : named o.token) (r : Api.Registration) : Agrees id named (register sealer o r) t t' := by
  refine agrees_bind (agrees_require w _) fun _ s s' _ w => ?_
  refine agrees_bind (agrees_require w _) fun _ s s' _ w => ?_
  refine agrees_bind (agrees_require w _) fun _ s s' _ w => ?_
  refine agrees_bind (agrees_isLoginFree w r.login) fun isFree s s' _ w => ?_
  cases isFree with
  | false => exact agrees_throw w _
  | true =>
  refine agrees_bind (agrees_sealNew w sealer o r.password) fun secret s s' _ w => ?_
  refine agrees_bind (agrees_demand w trivial) fun user s s' _ w => ?_
  refine agrees_bind (agrees_ask w trivial) fun answer s s' _ w => ?_
  cases answer with
  | ok _ =>
    have hissued := agrees_issueTokenIf (o := o.later) w hdrawn r.remember user.id
    exact agrees_bind hissued fun token s s' _ w => agrees_pure w _
  | error e =>
    refine agrees_bind (agrees_ask w trivial) fun removed s s' _ w => ?_
    cases removed with
    | ok _ => cases e <;> exact agrees_throw w _
    | error _ =>
      refine agrees_bind (agrees_note w _) fun _ s s' _ w => ?_
      cases e <;> exact agrees_throw w _

theorem agrees_touch (w : Veiled id named t t') (now : Time.Instant) (user : String) :
    Agrees id named (touch now user) t t' := agrees_demand w trivial

theorem agrees_loginWithPassword (w : Veiled id named t t') {o : Occasion} (hdrawn : named o.token)
    {r : Api.PasswordLogin} (hlogin : ∀ c, t.credentials[id]? = some c → c.login ≠ r.login) :
    Agrees id named (loginWithPassword o r) t t' := by
  refine agrees_bind (agrees_ask w hlogin) fun answer s s' _ w => ?_
  cases answer with
  | error e => cases e <;> exact agrees_throw w _
  | ok c =>
    have hfits : Agrees id named (passwordFits r.password c) s s' := by
      unfold passwordFits
      cases checkPassword r.password c.hash c.salt with
      | ok fits => exact agrees_pure w fits
      | error fault => exact agrees_bind (agrees_note w _) fun _ s s' _ w => agrees_pure w false
    refine agrees_bind hfits fun fits s s' _ w => ?_
    cases fits with
    | false => exact agrees_throw w _
    | true =>
      refine agrees_bind (agrees_touch w _ _) fun user s s' _ w => ?_
      have hissued := agrees_issueTokenIf (o := o.later) w hdrawn r.remember user.id
      exact agrees_bind hissued fun token s s' _ w => agrees_pure w _

theorem agrees_loginWithToken (w : Veiled id named t t') (o : Occasion) {token : String}
    (hshown : named token) : Agrees id named (loginWithToken o token) t t' := by
  refine agrees_bind (agrees_validateToken w o.first hshown) fun user s s' _ w => ?_
  exact agrees_bind (agrees_touch w _ _) fun found s s' _ w => agrees_pure w _

theorem agrees_logout (w : Veiled id named t t') (user : String) : Agrees id named (logout user) t t' :=
  agrees_demand w trivial

/-! ## Care of accounts -/

theorem agrees_getUser (w : Veiled id named t t') (user : String) : Agrees id named (getUser user) t t' :=
  agrees_demand w trivial

theorem agrees_deleteUser (w : Veiled id named t t') (user : String) :
    Agrees id named (deleteUser user) t t' := agrees_demand w trivial

theorem agrees_updateUser (w : Veiled id named t t') (user : String) (request : UserUpdate) :
    Agrees id named (updateUser user request) t t' := by
  have hsettled : ∀ {s s' : Tables}, Veiled id named s s' →
      Agrees id named (withConfirmation user request.changes) s s' := by
    intro s s' w
    unfold withConfirmation
    split
    · exact agrees_bind (agrees_demand w trivial) fun found s s' _ w => agrees_pure w _
    · exact agrees_pure w request.changes
  refine agrees_bind (agrees_require w _) fun _ s s' _ w => ?_
  exact agrees_bind (hsettled w) fun settled s s' _ w => agrees_demand w trivial

theorem agrees_changePassword (w : Veiled id named t t') (sealer : Sealer) (o : Occasion) {user : String}
    (hne : user ≠ id) (r : Api.PasswordChange) :
    Agrees id named (changePassword sealer o user r) t t' := by
  refine agrees_bind (agrees_require w _) fun _ s s' _ w => ?_
  refine agrees_bind (agrees_demand w hne) fun c s s' _ w => ?_
  split
  · refine agrees_bind (agrees_sealNew w sealer o r.newPassword) fun secret s s' _ w => ?_
    refine agrees_bind (agrees_demand w trivial) fun _ s s' _ w => ?_
    exact agrees_demand w trivial
  · exact agrees_throw w _

end PlayerAccounts.Service
