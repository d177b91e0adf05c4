import PlayerAccounts.Proofs.Sql.Wording
import PlayerAccounts.Service.Accounts
/-!
# Operations and the wording of refusals

An operation over a pool goes on in the same way whatever texts the refusals of the database have. It ends
with the same result, or with refusals that differ in what only the log may have, unless a text got
through.
-/
namespace PlayerAccounts.Service
set_option autoImplicit false

open PlayerAccounts.Account
open PlayerAccounts.Sql
open PlayerAccounts.Store

variable {α β : Type} {told : Prop}

/-! ## Programs in step -/

/-- Two programs that make the same calls as long as the answers are alike, and come to related results.
What they note may differ. -/
inductive Program.InStep (told : Prop) (R : α → α → Prop) : Program α → Program α → Prop where
  | done {a a' : α} : R a a' → InStep told R (.done a) (.done a')
  | ask {call : Call} {next next' : Except StoreError call.Answer → Program α} :
    (∀ answer answer', UpTo (AlikeErrors told) answer answer' →
      InStep told R (next answer) (next' answer')) →
    InStep told R (.ask call next) (.ask call next')
  | note {event event' : Event} {next next' : Program α} :
    InStep told R next next' → InStep told R (.note event next) (.note event' next')

namespace Program.InStep

variable {R : α → α → Prop} {S : β → β → Prop} {p p' : Program α} {f f' : α → Program β}

theorem bind (h : InStep told R p p') (hf : ∀ a a', R a a' → InStep told S (f a) (f' a')) :
    InStep told S (p >>= f) (p' >>= f') := by
  change InStep told S (p.bind f) (p'.bind f')
  induction h with
  | done ha => exact hf _ _ ha
  | ask _ ih => exact .ask fun answer answer' ha => ih answer answer' ha
  | note _ ih => exact .note ih

/-- Programs in step come to related results over a pool whose database plays scripts that differ in
texts only. -/
theorem run (h : InStep told R p p') (pool : Pool) {s s' : Script} (hsame : s.silenced = s'.silenced)
    (htold : ∀ e ∈ pool.exchanges Script.connection p s, e.isTold = true → told) :
    let outcome := p.run (pool.backend Script.connection) s
    let outcome' := p'.run (pool.backend Script.connection) s'
    (∃ a a', outcome.result = .ok a ∧ outcome'.result = .ok a' ∧ R a a') ∧
      outcome.state.silenced = outcome'.state.silenced := by
  induction h generalizing s s' with
  | done ha => exact ⟨⟨_, _, rfl, rfl, ha⟩, hsame⟩
  | @ask call next next' _ ih =>
    have hfirst := fun e he => htold e (List.mem_append_left _ he)
    obtain ⟨hanswer, hafter⟩ := (pool.inStep_carryOut call).run hsame hfirst
    exact ih _ _ hanswer hafter fun e he => htold e (List.mem_append_right _ he)
  | note _ ih => exact ih hsame htold

end Program.InStep

/-! ## Actions in step -/

/-- Refusals of which a client is told in the same words. If something was `told`, they may also name
different things that are taken or missing. -/
inductive AlikeRefusals (told : Prop) : ServiceError → ServiceError → Prop where
  | same (e : ServiceError) : AlikeRefusals told e e
  | storeFailed (detail detail' : String) : AlikeRefusals told (.storeFailed detail) (.storeFailed detail')
  | duplicate (what what' : String) : told → AlikeRefusals told (.duplicate what) (.duplicate what')
  | unknownUser (what what' : String) : told → AlikeRefusals told (.unknownUser what) (.unknownUser what')

theorem alike_ofStore {e e' : StoreError} (h : AlikeErrors told e e') :
    AlikeRefusals told (.ofStore e) (.ofStore e') := by
  cases h with
  | same e => exact .same _
  | failed why why' => exact .storeFailed why why'
  | duplicate what what' htold => exact .duplicate what what' htold
  | unknownUser what what' htold => exact .unknownUser what what' htold

namespace Action

/-- Two actions in step that come to the same, or are refused alike. -/
def InStep (told : Prop) (a a' : Action α) : Prop :=
  Program.InStep told (UpTo (AlikeRefusals told)) a.run a'.run

theorem inStep_pure (x : α) : InStep told (pure x) (pure x) := .done (.ok x)

theorem inStep_throw {e e' : ServiceError} (h : AlikeRefusals told e e') :
    InStep told (throw e : Action α) (throw e') := .done (.error h)

theorem InStep.bind {a a' : Action α} {f f' : α → Action β} (h : InStep told a a')
    (hf : ∀ x, InStep told (f x) (f' x)) : InStep told (a >>= f) (a' >>= f') := by
  refine Program.InStep.bind h fun result result' hresult => ?_
  cases hresult with
  | ok x => exact hf x
  | error he => exact .done (.error he)

theorem inStep_ask {call : Call} {f f' : Except StoreError call.Answer → Action β}
    (hok : ∀ x, InStep told (f (.ok x)) (f' (.ok x)))
    (herror : ∀ e e', AlikeErrors told e e' → InStep told (f (.error e)) (f' (.error e'))) :
    InStep told (ask call >>= f) (ask call >>= f') := by
  refine .ask fun answer answer' hanswer => ?_
  cases hanswer with
  | ok x => exact hok x
  | error he => exact herror _ _ he

theorem inStep_demand (call : Call) : InStep told (demand call) (demand call) :=
  inStep_ask inStep_pure fun _ _ he => inStep_throw (alike_ofStore he)

theorem inStep_require (broken? : Option BrokenRule) : InStep told (require broken?) (require broken?) := by
  cases broken? with
  | none => exact inStep_pure ()
  | some rule => exact inStep_throw (.same _)

theorem inStep_note (event event' : Event) : InStep told (note event) (note event') := .note (.done (.ok ()))

/-- A step that makes something else of what is not found. -/
theorem inStep_unlessNotFound {e e' : StoreError} (h : AlikeErrors told e e') {missing : Action α}
    (hmissing : InStep told missing missing) :
    InStep told (if e.isNotFound then missing else throw (ServiceError.ofStore e))
      (if e'.isNotFound then missing else throw (ServiceError.ofStore e')) := by
  have hkind : e'.isNotFound = e.isNotFound := by cases h <;> rfl
  rw [hkind]
  split
  · exact hmissing
  · exact inStep_throw (alike_ofStore h)

end Action

open PlayerAccounts.Service.Action

/-! ## Registration and sessions -/

theorem inStep_isLoginFree (login : String) : InStep told (isLoginFree login) (isLoginFree login) := by
  refine (inStep_require _).bind fun _ => ?_
  exact inStep_ask (fun _ => inStep_pure false) fun e e' he => inStep_unlessNotFound he (inStep_pure true)

theorem inStep_issueToken (o : Occasion) (userId : String) :
    InStep told (issueToken o userId) (issueToken o userId) := by
  refine inStep_ask (fun _ => inStep_pure _) fun e e' he => ?_
  cases he with
  | same e => cases e <;> exact inStep_throw (.same _)
  | failed why why' => exact inStep_throw (.storeFailed why why')
  | duplicate what what' htold => exact inStep_throw (.duplicate what what' htold)
  | unknownUser what what' _ => exact inStep_throw (.same _)

theorem inStep_issueTokenIf (wanted : Bool) (o : Occasion) (userId : String) :
    InStep told (issueTokenIf wanted o userId) (issueTokenIf wanted o userId) := by
  cases wanted with
  | false => exact inStep_pure none
  | true => exact (inStep_issueToken o userId).bind fun token => inStep_pure (some token)

theorem inStep_validateToken (now : Time.Instant) (token : String) :
    InStep told (validateToken now token) (validateToken now token) := by
  unfold validateToken
  by_cases hlen : token.utf8ByteSize = 0 ∨ tokenLength < token.utf8ByteSize
  · rw [if_pos hlen]
    exact inStep_throw (.same _)
  · rw [if_neg hlen]
    exact inStep_ask (fun row => inStep_pure row.userId) fun e e' he =>
      inStep_unlessNotFound he (inStep_throw (.same _))

theorem inStep_sealNew (sealer : Sealer) (o : Occasion) (password : String) :
    InStep told (sealNew sealer o password) (sealNew sealer o password) := by
  unfold sealNew
  cases sealPassword sealer.cost password o.salt with
  | ok secret => exact inStep_pure secret
  | error fault => exact inStep_throw (.same _)

/-- A registration without a credential: that the login is taken is told in the same words. -/
theorem inStep_credentialRefused (login : String) (e e' : StoreError) : AlikeErrors told e e' →
    InStep told
      (match e with
        | .duplicate _ => throw (.loginTaken login)
        | e => throw (ServiceError.ofStore e) : Action α)
      (match e' with
        | .duplicate _ => throw (.loginTaken login)
        | e' => throw (ServiceError.ofStore e')) := by
  intro h
  cases h with
  | same e => cases e <;> exact inStep_throw (.same _)
  | failed why why' => exact inStep_throw (.storeFailed why why')
  | duplicate what what' _ => exact inStep_throw (.same _)
  | unknownUser what what' htold => exact inStep_throw (.unknownUser what what' htold)

theorem inStep_register (sealer : Sealer) (o : Occasion) (r : Api.Registration) :
    InStep told (register sealer o r) (register sealer o r) := by
  refine (inStep_require _).bind fun _ => (inStep_require _).bind fun _ => ?_
  refine (inStep_require _).bind fun _ => (inStep_isLoginFree r.login).bind fun isFree => ?_
  cases isFree with
  | false => exact inStep_throw (.same _)
  | true =>
  refine (inStep_sealNew sealer o r.password).bind fun secret => (inStep_demand _).bind fun user => ?_
  refine inStep_ask (fun _ => ?_) fun e e' he => ?_
  · exact (inStep_issueTokenIf r.remember o.later user.id).bind fun token => inStep_pure _
  · have hrefused := inStep_credentialRefused (α := Api.Session) r.login e e' he
    refine inStep_ask (fun _ => hrefused) fun removed removed' _ => ?_
    exact (inStep_note _ _).bind fun _ => hrefused

theorem inStep_touch (now : Time.Instant) (userId : String) :
    InStep told (touch now userId) (touch now userId) := inStep_demand _

theorem inStep_passwordFits (password : String) (c : Credential) :
    InStep told (passwordFits password c) (passwordFits password c) := by
  unfold passwordFits
  cases checkPassword password c.hash c.salt with
  | ok fits => exact inStep_pure fits
  | error fault => exact (inStep_note _ _).bind fun _ => inStep_pure false

theorem inStep_loginWithPassword (o : Occasion) (r : Api.PasswordLogin) :
    InStep told (loginWithPassword o r) (loginWithPassword o r) := by
  refine inStep_ask (fun c => ?_) fun e e' he => inStep_unlessNotFound he (inStep_throw (.same _))
  refine (inStep_passwordFits r.password c).bind fun fits => ?_
  cases fits with
  | false => exact inStep_throw (.same _)
  | true =>
    refine (inStep_touch _ _).bind fun user => ?_
    exact (inStep_issueTokenIf r.remember o.later user.id).bind fun token => inStep_pure _

theorem inStep_loginWithToken (o : Occasion) (token : String) :
    InStep told (loginWithToken o token) (loginWithToken o token) :=
  (inStep_validateToken o.first token).bind fun _ => (inStep_touch _ _).bind fun _ => inStep_pure _

/-! ## Care of accounts -/

theorem inStep_withConfirmation (userId : String) (changes : Changes) :
    InStep told (withConfirmation userId changes) (withConfirmation userId changes) := by
  unfold withConfirmation
  split
  · exact (inStep_demand _).bind fun user => inStep_pure _
  · exact inStep_pure changes

theorem inStep_updateUser (userId : String) (request : UserUpdate) :
    InStep told (updateUser userId request) (updateUser userId request) := by
  refine (inStep_require _).bind fun _ => ?_
  exact (inStep_withConfirmation userId request.changes).bind fun settled => inStep_demand _

theorem inStep_changePassword (sealer : Sealer) (o : Occasion) (userId : String) (r : Api.PasswordChange) :
    InStep told (changePassword sealer o userId r) (changePassword sealer o userId r) := by
  refine (inStep_require _).bind fun _ => (inStep_demand _).bind fun credential => ?_
  split
  · refine (inStep_sealNew sealer o r.newPassword).bind fun secret => ?_
    exact (inStep_demand _).bind fun _ => inStep_demand _
  · exact inStep_throw (.same _)

end PlayerAccounts.Service
