import PlayerAccounts.Proofs.Account.Secrets
import PlayerAccounts.Proofs.Service.AccountOutcomes
/-!
# Operations that end well

Where every user has a credential that can be checked against, no operation finds anything to note, and
an operation is refused only for what its caller or chance has brought about. So sealing does not fail,
and neither does a step for a user who is missing, once the credential or the session token was found.
-/
namespace PlayerAccounts.Service
set_option autoImplicit false

open PlayerAccounts.Account
open PlayerAccounts.Store
open PlayerAccounts.Time (Instant)

variable {α β : Type} {t t' : Tables}

/-! ## Events -/

namespace Program

/-- The events that a program notes on the store in memory. -/
def noted : Program α → Tables → List Event
  | done _, _ => []
  | ask call next, t => (next (t.answer call).1).noted (t.answer call).2
  | note event next, t => event :: next.noted t

theorem events_run (p : Program α) (t : Tables) : (p.run Tables.backend t).events = p.noted t := by
  induction p generalizing t with
  | done a => rfl
  | ask call next ih => exact ih (t.answer call).1 (t.answer call).2
  | note event next ih => exact congrArg (event :: ·) (ih t)

theorem noted_bind (p : Program α) (f : α → Program β) (t : Tables) :
    (p >>= f).noted t = p.noted t ++ (f (p.eval t).1).noted (p.eval t).2 := by
  change (p.bind f).noted t = _
  induction p generalizing t with
  | done a => rfl
  | ask call next ih => exact ih (t.answer call).1 (t.answer call).2
  | note event next ih => exact congrArg (event :: ·) (ih t)

end Program

/-! ## Quiet actions -/

namespace Action
variable {a : Action α} {f : α → Action β}

def Quiet (a : Action α) (t : Tables) : Prop := Program.noted a.run t = []

theorem quiet_bind (ha : Quiet a t) (hf : ∀ x t', a.eval t = (.ok x, t') → Quiet (f x) t') :
    Quiet (a >>= f) t := by
  have hrun : (a >>= f).run = a.run >>= ExceptT.bindCont f := rfl
  rw [Quiet, hrun, Program.noted_bind, show Program.noted a.run t = [] from ha, List.nil_append]
  generalize hres : a.eval t = result
  have hprogram : Program.eval a.run t = result := hres
  obtain ⟨x | e, t'⟩ := result
  · rw [hprogram]
    rfl
  · rw [hprogram]
    exact hf _ t' hres

theorem quiet_bind_ok {x : α} (ha : Quiet a t) (h : a.eval t = (.ok x, t')) (hf : Quiet (f x) t') :
    Quiet (a >>= f) t := by
  refine quiet_bind ha fun y t'' hres => ?_
  rw [h] at hres
  cases hres
  exact hf

theorem quiet_bind_error {e : ServiceError} (ha : Quiet a t) (h : a.eval t = (.error e, t')) :
    Quiet (a >>= f) t := by
  refine quiet_bind ha fun y t'' hres => ?_
  rw [h] at hres
  cases hres

theorem quiet_pure (x : α) (t : Tables) : Quiet (pure x) t := rfl

theorem quiet_throw (e : ServiceError) (t : Tables) : Quiet (throw e : Action α) t := rfl

theorem quiet_ask (call : Call) (t : Tables) : Quiet (ask call) t := rfl

theorem quiet_ask_bind {call : Call} {answer : Except StoreError call.Answer}
    {f : Except StoreError call.Answer → Action β} (h : t.answer call = (answer, t'))
    (hf : Quiet (f answer) t') : Quiet (ask call >>= f) t := by
  apply quiet_bind_ok (quiet_ask call t) _ hf
  change (Except.ok (t.answer call).1, (t.answer call).2) = _
  rw [h]

theorem quiet_demand (call : Call) (t : Tables) : Quiet (demand call) t := by
  refine quiet_bind (quiet_ask call t) fun answer t' _ => ?_
  cases answer with
  | ok answer => exact quiet_pure answer t'
  | error e => exact quiet_throw _ t'

theorem quiet_require (broken? : Option BrokenRule) (t : Tables) : Quiet (require broken?) t := by
  cases broken? with
  | none => rfl
  | some rule => rfl

end Action

/-! ## Actions that end well -/

open PlayerAccounts.Service.Action

/-- The action notes nothing on these tables, and it ends in a result of one kind, or in a refusal of
another. -/
structure EndsWell (P : ServiceError → Prop) (Q : α → Prop) (a : Action α) (t : Tables) : Prop where
  quiet : Quiet a t
  refused : ∀ {e}, (a.eval t).1 = .error e → P e
  granted : ∀ {x}, (a.eval t).1 = .ok x → Q x

namespace EndsWell
variable {P P' : ServiceError → Prop} {Q : α → Prop} {R : β → Prop} {a : Action α} {f : α → Action β}

theorem weaken (h : EndsWell P Q a t) (hP : ∀ e, P e → P' e) : EndsWell P' Q a t :=
  ⟨h.quiet, fun he => hP _ (h.refused he), h.granted⟩

theorem pure {x : α} (hx : Q x) (t : Tables) : EndsWell P Q (pure x) t where
  quiet := quiet_pure x t
  refused he := nomatch he
  granted he := Except.ok.inj he ▸ hx

theorem throw {e : ServiceError} (he : P e) (t : Tables) : EndsWell P Q (throw e : Action α) t where
  quiet := quiet_throw e t
  refused hf := Except.error.inj hf ▸ he
  granted hf := nomatch hf

theorem bind_ok {x : α} (ha : Quiet a t) (h : a.eval t = (.ok x, t')) (hf : EndsWell P R (f x) t') :
    EndsWell P R (a >>= f) t where
  quiet := quiet_bind_ok ha h hf.quiet
  refused he := hf.refused (eval_bind_ok h ▸ he)
  granted he := hf.granted (eval_bind_ok h ▸ he)

theorem bind_error {e : ServiceError} (ha : Quiet a t) (h : a.eval t = (.error e, t')) (he : P e) :
    EndsWell P R (a >>= f) t := by
  have heval : (a >>= f).eval t = (.error e, t') := eval_bind_error h
  refine ⟨quiet_bind_error ha h, fun hf => ?_, fun hf => ?_⟩
  · rw [heval] at hf
    exact Except.error.inj hf ▸ he
  · rw [heval] at hf
    cases hf

theorem bind (ha : EndsWell P Q a t) (hf : ∀ x t', a.eval t = (.ok x, t') → EndsWell P R (f x) t') :
    EndsWell P R (a >>= f) t := by
  generalize hres : a.eval t = result
  obtain ⟨e | x, t'⟩ := result
  · exact bind_error ha.quiet hres (ha.refused (congrArg Prod.fst hres))
  · exact bind_ok ha.quiet hres (hf x t' hres)

end EndsWell

/-! ## What is needed of the tables -/

def Checkable (c : Credential) : Prop :=
  ∀ password, ∃ fits, checkPassword password c.hash c.salt = .ok fits

/-- Sound tables where every user has a credential, which can be checked against. -/
structure Tended (t : Tables) : Prop extends t.Sound where
  credential : ∀ {id : String}, id ∈ t.users → ∃ c, t.credentials[id]? = some c
  checkable : ∀ {id : String} {c : Credential}, t.credentials[id]? = some c → Checkable c

theorem Tended.putUsed (h : Tended t) {id : String} {row : SessionToken} (hr : t.tokens[id]? = some row)
    (now : Instant) : Tended (t.putToken (row.used now)) :=
  ⟨h.toSound.putUsed hr now, h.credential, h.checkable⟩

theorem checkable_of_seal {cost : Nat} {password salt : String} {secret : SealedPassword}
    (hseal : sealPassword cost password salt = .ok secret) (id login : String) :
    Checkable ⟨id, login, secret.hash, secret.salt⟩ := by
  have hh := hash_of_sealPassword hseal
  obtain ⟨-, hsalt, -, -⟩ := hashPassword_ok_iff.mp hh
  exact fun other => exists_fits_of_hash hh hsalt other

/-! ## What refusals may tell -/

/-- The refusals that a caller or chance brings about: a rule is broken, a secret does not fit, or what is
asked for or drawn is taken. -/
inductive Warranted (o : Occasion) (t : Tables) : ServiceError → Prop where
  | rule (rule : BrokenRule) : Warranted o t (.ofRule rule)
  | credentials : Warranted o t .invalidCredentials
  | token : Warranted o t .invalidToken
  | loginTaken {login : String} : ¬ t.LoginFree login → Warranted o t (.loginTaken login)
  | idTaken : o.userId ∈ t.users → Warranted o t (.duplicate (keyNamed o.userId))
  | tokenTaken : ¬ t.TokenFree o.token → Warranted o t (.duplicate tokenNamed)

theorem Warranted.of_used {o : Occasion} {e : ServiceError} {id : String} {row : SessionToken}
    (hr : t.tokens[id]? = some row) {now : Instant} (h : Warranted o (t.putToken (row.used now)) e) :
    Warranted o t e := by
  cases h with
  | rule rule => exact .rule rule
  | credentials => exact .credentials
  | token => exact .token
  | loginTaken htaken => exact .loginTaken htaken
  | idTaken hm => exact .idTaken hm
  | tokenTaken htaken =>
    refine .tokenTaken fun hfree => htaken fun {other found} hf => ?_
    rw [Tables.tokens_putToken] at hf
    split at hf
    · -- The row that was used is no other one than before, but for the time of its use.
      cases hf
      have hne : row.token ≠ o.token := hfree hr
      exact hne
    · exact hfree hf

section Operations
variable (sealer : Sealer) (o : Occasion)

/-! ## Session tokens and logins that can be had -/

theorem quiet_isLoginFree (login : String) (t : Tables) : Quiet (isLoginFree login) t := by
  refine quiet_bind (quiet_require _ t) fun _ t' _ => quiet_bind (quiet_ask _ t') fun answer t'' _ => ?_
  cases answer with
  | ok c => exact quiet_pure false t''
  | error e =>
    dsimp only
    split
    · exact quiet_pure true t''
    · exact quiet_throw _ t''

theorem ends_isLoginFree (h : t.Sound) (login : String) :
    EndsWell (Warranted o t) (fun _ => True) (isLoginFree login) t := by
  refine ⟨quiet_isLoginFree login t, fun he => ?_, fun _ => trivial⟩
  have hout := isLoginFree_outcome h login
  generalize (isLoginFree login).eval t = result at hout he
  cases hout <;> cases he
  exact .rule _

theorem quiet_issueTokenIf (wanted : Bool) (id : String) (t : Tables) :
    Quiet (issueTokenIf wanted o id) t := by
  have hissue : Quiet (issueToken o id) t := by
    refine quiet_bind (quiet_ask _ t) fun answer t' _ => ?_
    cases answer with
    | ok row => exact quiet_pure o.token t'
    | error e => cases e <;> exact quiet_throw _ t'
  cases wanted with
  | false => exact quiet_pure none t
  | true => exact quiet_bind hissue fun token t' _ => quiet_pure (some token) t'

theorem warranted_of_issuedIf {wanted : Bool} {id : String} {e : ServiceError} {t'' : Tables}
    (hsame : t'.tokens = t.tokens) (hissued : IssuedIf wanted o.later id t' (.error e, t'')) :
    Warranted o t e := by
  cases hissued with
  | taken _ htaken =>
    exact .tokenTaken fun hfree => htaken fun hr he => absurd he (hfree (hsame ▸ hr))

theorem quiet_validateToken (now : Instant) (token : String) (t : Tables) :
    Quiet (validateToken now token) t := by
  unfold validateToken
  split
  · exact quiet_throw _ t
  · refine quiet_bind (quiet_ask _ t) fun answer t' _ => ?_
    cases answer with
    | ok row => exact quiet_pure row.userId t'
    | error e =>
      dsimp only
      split <;> exact quiet_throw _ t'

theorem ends_validateToken (h : t.Sound) (now : Instant) (token : String) :
    EndsWell (Warranted o t) (fun _ => True) (validateToken now token) t := by
  refine ⟨quiet_validateToken now token t, fun he => ?_, fun _ => trivial⟩
  have hout := validateToken_outcome h now token
  generalize (validateToken now token).eval t = result at hout he
  cases hout <;> cases he
  exact .token

/-! ## Registration -/

theorem quiet_sealNew (password : String) (t : Tables) : Quiet (sealNew sealer o password) t := by
  unfold sealNew
  split <;> rfl

/-- A credential for a login that nobody has is taken, so nothing is left over. -/
theorem quiet_register (h : t.Sound) (r : Api.Registration) : Quiet (register sealer o r) t := by
  have hrequire : ∀ {broken? : Option BrokenRule} {x : Unit} {t' : Tables},
      (require broken?).eval t = (.ok x, t') → t' = t := by
    intro broken? x t' hres
    cases broken? <;> cases hres
    rfl
  refine quiet_bind (quiet_require _ t) fun _ t' hres => hrequire hres ▸ ?_
  refine quiet_bind (quiet_require _ t) fun _ t' hres => hrequire hres ▸ ?_
  refine quiet_bind (quiet_require _ t) fun _ t' hres => hrequire hres ▸ ?_
  refine quiet_bind (quiet_isLoginFree r.login t) fun isFree t' hres => ?_
  have hout := isLoginFree_outcome h r.login
  rw [hres] at hout
  cases hout with
  | taken _ _ _ => exact quiet_throw _ t
  | free _ hfree =>
    change Quiet (sealNew sealer o r.password >>= _) t
    refine quiet_bind (quiet_sealNew sealer o r.password t) fun secret t' hres => ?_
    have hsame : t' = t := by
      unfold sealNew at hres
      split at hres <;> cases hres
      rfl
    subst hsame
    by_cases hm : o.userId ∈ t'.users
    · have hadd : t'.answer (.addUser (User.fresh o.userId o.first r.email)) = _ :=
        Tables.addUser_of_known hm
      exact quiet_bind_error (quiet_demand _ t') (eval_demand_error hadd)
    · have hadd : t'.answer (.addUser (User.fresh o.userId o.first r.email)) = _ :=
        Tables.addUser_of_new hm
      have hset : (t'.putUser (User.fresh o.userId o.first r.email)).answer
          (.setCredential ⟨o.userId, r.login, secret.hash, secret.salt⟩) = _ :=
        (h.putUser _).setCredential_of_free (t'.mem_putUser_self _) fun hc he => absurd he (hfree hc)
      refine quiet_bind_ok (quiet_demand _ t') (eval_demand_ok hadd) (quiet_ask_bind hset ?_)
      exact quiet_bind (quiet_issueTokenIf o.later r.remember _ _) fun token t'' _ => quiet_pure _ t''

theorem ends_register (h : t.Sound) (hcost : isCost sealer.cost = true) (hsalt : isSalt o.salt = true)
    (r : Api.Registration) : EndsWell (Warranted o t) (fun _ => True) (register sealer o r) t := by
  refine ⟨quiet_register sealer o h r, fun he => ?_, fun _ => trivial⟩
  have hout := register_outcome h sealer o r
  generalize (register sealer o r).eval t = result at hout he
  cases hout with
  | ruleBroken _ =>
    cases he
    exact .rule _
  | taken _ hc hl =>
    cases he
    exact .loginTaken fun hfree => hfree hc hl
  | unsealed hrules _ hseal =>
    -- The rules leave no password that cannot be sealed.
    have hpassword : brokenByPassword? r.password = none :=
      (Option.or_eq_none_iff.mp (Option.or_eq_none_iff.mp hrules).2).1
    obtain ⟨secret, hsealed⟩ := sealPassword_of_rules hcost hpassword hsalt
    cases hseal.symm.trans hsealed
  | known _ _ _ hm =>
    cases he
    exact .idTaken hm
  | @registered secret token t' _ _ _ _ hissued =>
    cases token with
    | ok token => cases he
    | error e =>
      cases he
      have hsame : (withRegistered t o r secret).tokens = t.tokens := rfl
      exact warranted_of_issuedIf o hsame hissued

/-! ## Logging in -/

theorem quiet_loginWithPassword (h : Tended t) (r : Api.PasswordLogin) :
    Quiet (loginWithPassword o r) t := by
  rcases h.answer_credentialOfLogin r.login with ⟨_, hcall⟩ | ⟨id, c, hc, _, hcall⟩
  · exact quiet_ask_bind hcall (quiet_throw _ t)
  · refine quiet_ask_bind hcall ?_
    change Quiet (passwordFits r.password c >>= _) t
    have hfits : Quiet (passwordFits r.password c) t := by
      obtain ⟨fits, hcheck⟩ := h.checkable hc r.password
      unfold passwordFits
      rw [hcheck]
      exact quiet_pure fits t
    refine quiet_bind hfits fun fits t' _ => ?_
    cases fits with
    | false => exact quiet_throw _ t'
    | true =>
      change Quiet (touch o.first c.userId >>= _) t'
      refine quiet_bind (quiet_demand _ t') fun user t'' _ => ?_
      exact quiet_bind (quiet_issueTokenIf o.later r.remember user.id t'') fun token t₃ _ => quiet_pure _ t₃

theorem ends_loginWithPassword (h : Tended t) (r : Api.PasswordLogin) :
    EndsWell (Warranted o t) (fun _ => True) (loginWithPassword o r) t := by
  refine ⟨quiet_loginWithPassword o h r, fun he => ?_, fun _ => trivial⟩
  have hout := loginWithPassword_outcome h.toSound o r
  generalize (loginWithPassword o r).eval t = result at hout he
  cases hout with
  | unknown _ =>
    cases he
    exact .credentials
  | refused _ _ _ =>
    cases he
    exact .credentials
  | @granted id c user token t' _ _ _ _ hissued =>
    cases token with
    | ok token => cases he
    | error e =>
      cases he
      have hsame : (t.putUser (user.apply (Changes.touch o.first))).tokens = t.tokens := rfl
      exact warranted_of_issuedIf o hsame hissued

theorem ends_loginWithToken (h : t.Sound) (token : String) :
    EndsWell (Warranted o t) (fun _ => True) (loginWithToken o token) t := by
  have hquiet : Quiet (loginWithToken o token) t := by
    refine quiet_bind (quiet_validateToken o.first token t) fun id t' _ => ?_
    exact quiet_bind (quiet_demand _ t') fun user t'' _ => quiet_pure _ t''
  refine ⟨hquiet, fun he => ?_, fun _ => trivial⟩
  have hout := loginWithToken_outcome h o token
  generalize (loginWithToken o token).eval t = result at hout he
  cases hout <;> cases he
  exact .token

/-! ## Care of accounts -/

section User
variable {id : String}

theorem ends_getUser {P : ServiceError → Prop} (hP : id ∉ t.users → P (.notFound (userNamed id))) :
    EndsWell P (fun _ => True) (getUser id) t := by
  refine ⟨quiet_demand _ t, fun he => ?_, fun _ => trivial⟩
  rcases getUser_outcome t id with ⟨user, _, hres⟩ | ⟨hn, hres⟩
  · rw [hres] at he
    cases he
  · rw [hres] at he
    cases he
    exact hP hn

theorem ends_deleteUser (hm : id ∈ t.users) : EndsWell (Warranted o t) (fun _ => True) (deleteUser id) t := by
  refine ⟨quiet_demand _ t, fun he => ?_, fun _ => trivial⟩
  rcases deleteUser_outcome t id with ⟨_, hres⟩ | ⟨hn, _⟩
  · rw [hres] at he
    cases he
  · exact absurd hm hn

theorem ends_logout (id : String) (t : Tables) : EndsWell (Warranted o t) (fun _ => True) (logout id) t where
  quiet := quiet_demand _ t
  refused he := nomatch he
  granted _ := trivial

theorem ends_updateUser (h : t.Sound) (hm : id ∈ t.users) (request : UserUpdate) :
    EndsWell (Warranted o t) (fun _ => True) (updateUser id request) t := by
  have hsettled : ∀ t, Quiet (withConfirmation id request.changes) t := by
    intro t
    unfold withConfirmation
    split
    · exact quiet_bind (quiet_demand _ t) fun user t' _ => quiet_pure _ t'
    · exact quiet_pure _ t
  have hquiet : Quiet (updateUser id request) t := by
    refine quiet_bind (quiet_require _ t) fun _ t' _ => ?_
    exact quiet_bind (hsettled t') fun settled t'' _ => quiet_demand _ t''
  refine ⟨hquiet, fun he => ?_, fun _ => trivial⟩
  have hout := updateUser_outcome h id request
  generalize (updateUser id request).eval t = result at hout he
  cases hout with
  | ruleBroken _ =>
    cases he
    exact .rule _
  | absent _ hn => exact absurd hm hn
  | updated _ _ => cases he

theorem ends_changePassword (h : Tended t) (hcost : isCost sealer.cost = true)
    (hsalt : isSalt o.salt = true) (hm : id ∈ t.users) (r : Api.PasswordChange) :
    EndsWell (Warranted o t) (fun _ => True) (changePassword sealer o id r) t := by
  have hquiet : Quiet (changePassword sealer o id r) t := by
    refine quiet_bind (quiet_require _ t) fun _ t' _ => quiet_bind (quiet_demand _ t') fun c t'' _ => ?_
    split
    · refine quiet_bind (quiet_sealNew sealer o r.newPassword t'') fun secret t₃ _ => ?_
      exact quiet_bind (quiet_demand _ t₃) fun _ t₄ _ => quiet_demand _ t₄
    · exact quiet_throw _ t''
  refine ⟨hquiet, fun he => ?_, fun _ => trivial⟩
  have hout := changePassword_outcome h.toSound sealer o id r
  generalize (changePassword sealer o id r).eval t = result at hout he
  cases hout with
  | ruleBroken _ =>
    cases he
    exact .rule _
  | absent _ hn =>
    obtain ⟨c, hc⟩ := h.credential hm
    cases hn.symm.trans hc
  | wrong _ _ _ =>
    cases he
    exact .credentials
  | unsealed hrules _ _ hseal =>
    obtain ⟨secret, hsealed⟩ := sealPassword_of_rules hcost hrules hsalt
    cases hseal.symm.trans hsealed
  | changed _ _ _ _ => cases he

end User
end Operations
end PlayerAccounts.Service
