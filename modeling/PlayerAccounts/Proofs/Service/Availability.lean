import PlayerAccounts.Proofs.Service.ConcurrentRegistration
import PlayerAccounts.Proofs.Service.CredentialLifecycle
import PlayerAccounts.Proofs.Store.Residue
/-!
# Logins that are to be had

Whoever asks whether a login can be had is told what a registration with it would find. The one who
registers gets it, with exactly the rows that belong to a new account, and keeps it through whatever
happens afterwards, until the account is removed or has another login.
-/
namespace PlayerAccounts.Service
set_option autoImplicit false

open PlayerAccounts.Account
open PlayerAccounts.Store

/-! ## What happens on a store -/

/-- A call to the store, or an operation of a service on it. -/
inductive Step where
  | call (call : Call)
  | operation (sealer : Sealer) (o : Occasion) (op : Operation)

namespace Step

def after (t : Tables) : Step → Tables
  | .call made => (t.answer made).2
  | .operation sealer o op => (perform sealer t o op).2

/-- The step removes the user, or gives the user another login in place of this one. -/
def Ends (t : Tables) (id login : String) : Step → Prop
  | .call (.removeUser other) => other = id
  | .call (.setCredential c) => c.userId = id ∧ c.login ≠ login ∧ (t.setCredential c).1.isOk = true
  | .operation _ _ (.deleteUser other) => other = id
  | _ => False

end Step

/-- The tables after steps that are taken one after the other. -/
def afterSteps (t : Tables) (steps : List Step) : Tables := steps.foldl Step.after t

/-- None of the steps takes the login from the user. -/
def LeaveLogin (id login : String) : Tables → List Step → Prop
  | _, [] => True
  | t, step :: steps => ¬ step.Ends t id login ∧ LeaveLogin id login (step.after t) steps

theorem sound_afterStep {t : Tables} (h : t.Sound) (step : Step) : (step.after t).Sound := by
  cases step with
  | call call => exact h.answer call
  | operation sealer o op => exact sound_perform h sealer o op

theorem sound_afterSteps {t : Tables} (h : t.Sound) (steps : List Step) : (afterSteps t steps).Sound := by
  induction steps generalizing t with
  | nil => exact h
  | cons step steps ih => exact ih (sound_afterStep h step)

/-! ## The answer -/

section Answer
variable {t : Tables} (h : t.Sound) (login : String)
include h

theorem isLoginFree_tables : ((isLoginFree login).eval t).2 = t := by
  have hout := isLoginFree_outcome h login
  generalize (isLoginFree login).eval t = result at hout
  cases hout <;> rfl

theorem isLoginFree_refused_iff {e : ServiceError} :
    ((isLoginFree login).eval t).1 = .error e ↔
      ∃ rule, brokenByLogin? login = some rule ∧ e = .ofRule rule := by
  have hout := isLoginFree_outcome h login
  generalize (isLoginFree login).eval t = result at hout
  cases hout with
  | ruleBroken hb => simp [hb, eq_comm]
  | taken hb _ _ => simp [hb]
  | free hb _ => simp [hb]

theorem isLoginFree_true_iff :
    ((isLoginFree login).eval t).1 = .ok true ↔ brokenByLogin? login = none ∧ t.LoginFree login := by
  have hout := isLoginFree_outcome h login
  generalize (isLoginFree login).eval t = result at hout
  cases hout with
  | ruleBroken hb => simp [hb]
  | taken _ hc hl => exact ⟨nofun, fun hfree => absurd hl (hfree.2 hc)⟩
  | free hb hfree => exact ⟨fun _ => ⟨hb, hfree⟩, fun _ => rfl⟩

theorem isLoginFree_false_iff :
    ((isLoginFree login).eval t).1 = .ok false ↔
      brokenByLogin? login = none ∧ ∃ id, loginOf t id = some login := by
  simp only [loginOf_eq_some]
  have hout := isLoginFree_outcome h login
  generalize (isLoginFree login).eval t = result at hout
  cases hout with
  | ruleBroken hb => simp [hb]
  | taken hb hc hl => exact ⟨fun _ => ⟨hb, _, _, hc, hl⟩, fun _ => rfl⟩
  | free _ hfree => exact ⟨nofun, fun ⟨_, _, _, hc, hl⟩ => absurd hl (hfree hc)⟩

end Answer

/-! ## Registration -/

/-- The login, the password and the email, if there is one, break no rule. -/
structure WithinRules (r : Api.Registration) : Prop where
  login : brokenByLogin? r.login = none
  password : brokenByPassword? r.password = none
  email : ∀ email, r.email = some email → brokenByEmail? email = none

theorem withinRules_iff {r : Api.Registration} : WithinRules r ↔ brokenByRegistration? r = none := by
  rw [brokenByRegistration?, Option.or_eq_none_iff, Option.or_eq_none_iff, Option.bind_eq_none_iff]
  constructor
  · intro h
    exact ⟨h.login, h.password, h.email⟩
  · rintro ⟨hlogin, hpassword, hemail⟩
    exact ⟨hlogin, hpassword, hemail⟩

/-- What a registration has added that succeeded: one row of a user who was not there, one credential with
the login and, if it was wanted, one session token, which is the one that the client is given. -/
structure Enrolled (cost : Nat) (o : Occasion) (r : Api.Registration) (t : Tables)
    (session : Api.Session) (t' : Tables) : Prop where
  absent : t.rowsOf session.user.id = ⟨none, none, none⟩
  others : t.SameButFor session.user.id t'
  user_row : t'.users[session.user.id]? = some session.user
  user_id : session.user.id = o.userId
  email : session.user.email = r.email
  unconfirmed : session.user.emailConfirmed = false
  registered : session.user.registered = o.first
  active : session.user.active = session.user.registered
  balances : session.user.crystals = 0 ∧ session.user.experience = 0 ∧
    session.user.doubleCrystals = none ∧ session.user.premium = none
  credential_row : ∃ c, t'.credentials[session.user.id]? = some c ∧ c.userId = session.user.id ∧
    c.login = r.login ∧ hashPassword cost r.password c.salt = .ok c.hash
  token_row : t'.tokens[session.user.id]? =
    session.token.map fun token => ⟨session.user.id, o.second, o.second, token⟩
  token : session.token = if r.remember then some o.token else none

section Register
variable {t t' : Tables} {sealer : Sealer} {o : Occasion} {r : Api.Registration} {secret : SealedPassword}

theorem rowsOf_withRegistered (h : t.Sound) (hnew : o.userId ∉ t.users) :
    (withRegistered t o r secret).rowsOf o.userId = rowsEnrolled o r secret :=
  Tables.rowsOf_putCredential ⟨o.userId, r.login, secret.hash, secret.salt⟩
    (Tables.rowsOf_putUser (User.fresh o.userId o.first r.email) (h.rowsOf_absent hnew))

/-- A registration that breaks no rule, with a login that is free, succeeds. -/
theorem register_of_free (h : t.Sound) (hcost : isCost sealer.cost = true) (hsalt : isSalt o.salt = true)
    (hnew : o.userId ∉ t.users) (hfresh : t.TokenFree o.token) (hrules : WithinRules r)
    (hfree : t.LoginFree r.login) :
    ∃ secret t', sealPassword sealer.cost r.password o.salt = .ok secret ∧
      (register sealer o r).eval t = (.ok (newSession o r), t') ∧
      t'.rowsOf o.userId = rowsRegistered o r secret ∧ t.SameButFor o.userId t' := by
  have hunbroken : brokenByRegistration? r = none := withinRules_iff.mp hrules
  obtain ⟨secret, hseal⟩ : ∃ secret, sealPassword sealer.cost r.password o.salt = .ok secret :=
    sealPassword_of_rules hcost hrules.password hsalt
  have hout := register_outcome h sealer o r
  generalize (register sealer o r).eval t = result at hout
  cases hout with
  | ruleBroken hb =>
    rw [hunbroken] at hb
    cases hb
  | taken _ hc hl => exact absurd hl (hfree hc)
  | unsealed _ _ hfault =>
    rw [hseal] at hfault
    cases hfault
  | known _ _ _ hm => exact absurd hm hnew
  | @registered secret' _ _ _ _ hseal' _ hissued =>
    obtain rfl : secret = secret' := Except.ok.inj (hseal.symm.trans hseal')
    have hrows : (withRegistered t o r secret).rowsOf o.userId = rowsEnrolled o r secret :=
      rowsOf_withRegistered h hnew
    cases hissued with
    | unwanted hno =>
      have hsession : newSession o r = ⟨User.fresh o.userId o.first r.email, none⟩ := by
        rw [newSession, hno]
        rfl
      have hall : (withRegistered t o r secret).rowsOf o.userId = rowsRegistered o r secret := by
        rw [hrows, rowsRegistered, hno]
        rfl
      exact ⟨secret, _, hseal, hsession ▸ rfl, hall, sameButFor_withRegistered t o r secret⟩
    | taken _ hk => exact (hk fun hf he => absurd he (hfresh hf)).elim
    | issued hwanted _ =>
      have hsession : newSession o r = ⟨User.fresh o.userId o.first r.email, some o.token⟩ := by
        rw [newSession, hwanted]
        rfl
      have hall : ((withRegistered t o r secret).putToken
          (SessionToken.issued o.userId o.token o.second)).rowsOf o.userId = rowsRegistered o r secret := by
        rw [rowsRegistered, hwanted]
        exact Tables.rowsOf_putToken (SessionToken.issued o.userId o.token o.second) hrows
      exact ⟨secret, _, hseal, hsession ▸ rfl, hall, (sameButFor_withRegistered t o r secret).putToken rfl⟩

theorem register_granted {session : Api.Session} (h : t.Sound)
    (hres : ((register sealer o r).eval t).1 = .ok session) : WithinRules r ∧ t.LoginFree r.login := by
  have hout := register_outcome h sealer o r
  generalize (register sealer o r).eval t = result at hout hres
  cases hout with
  | registered hrules hfree _ _ _ => exact ⟨withinRules_iff.mpr hrules, hfree⟩
  | _ => cases hres

theorem register_of_taken (h : t.Sound) (hrules : WithinRules r) {id : String}
    (hl : loginOf t id = some r.login) :
    (register sealer o r).eval t = (.error (.loginTaken r.login), t) := by
  obtain ⟨c, hc, hl⟩ := loginOf_eq_some.mp hl
  have hout := register_outcome h sealer o r
  generalize (register sealer o r).eval t = result at hout
  cases hout with
  | ruleBroken hb =>
    rw [withinRules_iff.mp hrules] at hb
    cases hb
  | taken _ _ _ => rfl
  | unsealed _ hfree _ => exact absurd hl (hfree hc)
  | known _ hfree _ _ => exact absurd hl (hfree hc)
  | registered _ hfree _ _ _ => exact absurd hl (hfree hc)

theorem enrolled_of_rows (h : t.Sound) (hnew : o.userId ∉ t.users)
    (hseal : sealPassword sealer.cost r.password o.salt = .ok secret)
    (hrows : t'.rowsOf o.userId = rowsRegistered o r secret) (hsame : t.SameButFor o.userId t') :
    Enrolled sealer.cost o r t (newSession o r) t' where
  absent := h.rowsOf_absent hnew
  others := hsame
  user_row := congrArg Rows.user hrows
  user_id := rfl
  email := rfl
  unconfirmed := rfl
  registered := rfl
  active := rfl
  balances := ⟨rfl, rfl, rfl, rfl⟩
  credential_row := ⟨_, congrArg Rows.credential hrows, rfl, rfl, hash_of_sealPassword hseal⟩
  token_row := by
    refine (congrArg Rows.token hrows).trans ?_
    rw [rowsRegistered, newSession]
    cases r.remember <;> rfl
  token := rfl

theorem Enrolled.loginOf_eq {session : Api.Session} {cost : Nat} (h : Enrolled cost o r t session t') :
    loginOf t' session.user.id = some r.login := by
  obtain ⟨c, hc, -, hl, -⟩ := h.credential_row
  exact loginOf_eq_some.mpr ⟨c, hc, hl⟩

end Register

/-! ## The login afterwards -/

section Steps
variable {t : Tables} (h : t.Sound) {id login : String} (hl : loginOf t id = some login)
include h hl

theorem loginOf_after_register (sealer : Sealer) (o : Occasion) (r : Api.Registration) :
    loginOf ((register sealer o r).eval t).2 id = some login := by
  have hout := register_outcome h sealer o r
  generalize (register sealer o r).eval t = result at hout
  cases hout with
  | @registered secret _ _ _ _ _ hnew hissued =>
    have hcredentials : loginOf (withRegistered t o r secret) id = some login :=
      loginOf_newcomer (c := ⟨o.userId, r.login, secret.hash, secret.salt⟩) h hnew rfl hl
    -- With or without a session token, and even if none could be issued.
    cases hissued <;> exact hcredentials
  | _ => exact hl

theorem loginOf_after_operation (sealer : Sealer) (o : Occasion) {op : Operation}
    (hstay : op ≠ .deleteUser id) : loginOf (perform sealer t o op).2 id = some login := by
  by_cases hregister : ∃ r, op = .register r
  · obtain ⟨r, rfl⟩ := hregister
    exact loginOf_after_register h hl sealer o r
  · have hstep := perform_credentials_of h sealer o fun r he => absurd ⟨r, he⟩ hregister
    exact hstep.loginOf_kept h hl fun hremoved => hstay (Performed.operation_of_removed hremoved)

theorem loginOf_after_call {call : Call} (hstay : ¬ (Step.call call).Ends t id login) :
    loginOf (t.answer call).2 id = some login := by
  obtain ⟨answer, w, hd⟩ := t.exists_done call
  rw [h.answer_of_done hd]
  cases hd with
  | @credentialSet c hm hfree =>
    have hset : (t.setCredential c).1.isOk = true := by
      rw [h.setCredential_of_free hm hfree]
      rfl
    change loginOf (t.putCredential c) id = some login
    rw [loginOf_insert (c := c) rfl]
    split
    · rename_i hid
      have hsame : c.login = login := by_contra fun hne => hstay ⟨hid, hne, hset⟩
      rw [hsame]
    · exact hl
  | @userRemoved other _ =>
    have hne : other ≠ id := hstay
    change loginOf (t.without other) id = some login
    rwa [loginOf, Tables.credentials_without, if_neg hne]
  | _ => exact hl

theorem loginOf_afterStep {step : Step} (hstay : ¬ step.Ends t id login) :
    loginOf (step.after t) id = some login := by
  cases step with
  | call made => exact loginOf_after_call h hl hstay
  | operation sealer o op =>
    exact loginOf_after_operation h hl sealer o fun hop => hstay (by rw [hop]; rfl)

theorem loginOf_afterSteps {steps : List Step} (hleave : LeaveLogin id login t steps) :
    loginOf (afterSteps t steps) id = some login := by
  induction steps generalizing t with
  | nil => exact hl
  | cons step steps ih => exact ih (sound_afterStep h step) (loginOf_afterStep h hl hleave.1) hleave.2

theorem loginFree_without : (t.without id).LoginFree login := by
  obtain ⟨d, hd, hl⟩ := loginOf_eq_some.mp hl
  intro other c hc he
  rw [Tables.credentials_without] at hc
  obtain ⟨hne, hc⟩ := Option.ite_none_left_eq_some.mp hc
  exact hne (h.login_unique hd hc (hl.trans he.symm))

theorem loginFree_putCredential {c : Credential} (hid : c.userId = id) (hne : c.login ≠ login) :
    (t.putCredential c).LoginFree login := by
  obtain ⟨d, hd, hl⟩ := loginOf_eq_some.mp hl
  intro other found hf he
  rw [Tables.credentials_putCredential] at hf
  split at hf
  · rw [← Option.some.inj hf] at he
    exact hne he
  · rename_i hother
    exact hother (hid.trans (h.login_unique hd hf (hl.trans he.symm)))

theorem loginFree_afterStep {step : Step} (hends : step.Ends t id login) :
    (step.after t).LoginFree login := by
  cases step with
  | call made =>
    cases made with
    | removeUser other =>
      obtain rfl : other = id := hends
      change (t.answer (.removeUser other)).2.LoginFree login
      rw [h.after_removeUser]
      exact loginFree_without h hl
    | setCredential c =>
      obtain ⟨hid, hne, hset⟩ := hends
      obtain ⟨answer, w, hd⟩ := t.exists_done (.setCredential c)
      cases hd with
      | credentialSet hm hfree =>
        change (t.setCredential c).2.LoginFree login
        rw [h.setCredential_of_free hm hfree]
        exact loginFree_putCredential h hl hid hne
      | loginTaken hm htaken =>
        rw [h.setCredential_of_taken hm htaken] at hset
        cases hset
      | credentialOfNobody hn =>
        rw [Tables.setCredential_of_absent hn] at hset
        cases hset
    | _ => exact hends.elim
  | operation sealer o op =>
    cases op with
    | deleteUser other =>
      obtain rfl : other = id := hends
      obtain ⟨c, hc, -⟩ := loginOf_eq_some.mp hl
      rcases deleteUser_outcome t other with ⟨_, hres⟩ | ⟨hn, _⟩
      · change ((deleteUser other).eval t).2.LoginFree login
        rw [hres]
        exact loginFree_without h hl
      · exact absurd (h.credential_user hc) hn
    | _ => exact hends.elim

end Steps

/-! ## The result -/

/-- What the answer about a login and a registration with it have to do with each other on these tables. -/
structure AnswerBinds (sealer : Sealer) (o : Occasion) (r : Api.Registration) (t : Tables) : Prop where
  /-- There is no answer for a login that breaks a rule, and to no other question. -/
  refused_iff {e : ServiceError} : ((isLoginFree r.login).eval t).1 = .error e ↔
    ∃ rule, brokenByLogin? r.login = some rule ∧ e = .ofRule rule
  asked : ((isLoginFree r.login).eval t).2 = t
  registered_iff : (∃ session, ((register sealer o r).eval t).1 = .ok session) ↔
    WithinRules r ∧ ((isLoginFree r.login).eval t).1 = .ok true
  taken : WithinRules r → ((isLoginFree r.login).eval t).1 = .ok false →
    (register sealer o r).eval t = (.error (.loginTaken r.login), t)
  enrolled {session : Api.Session} {t' : Tables} : (register sealer o r).eval t = (.ok session, t') →
    Enrolled sealer.cost o r t session t'
  /-- The login stays taken through whatever happens, and the step that takes it from the user frees it. -/
  held {session : Api.Session} {t' : Tables} {later : List Step} :
    (register sealer o r).eval t = (.ok session, t') → LeaveLogin session.user.id r.login t' later →
    ((isLoginFree r.login).eval (afterSteps t' later)).1 = .ok false ∧
      ∀ step : Step, step.Ends (afterSteps t' later) session.user.id r.login →
        ((isLoginFree r.login).eval (step.after (afterSteps t' later))).1 = .ok true

section Result
variable {t t' : Tables} {sealer : Sealer} {o : Occasion} {r : Api.Registration} {session : Api.Session}

theorem isLoginFree_held {id login : String} (h : t.Sound) (hrule : brokenByLogin? login = none)
    (hl : loginOf t id = some login) {later : List Step} (hleave : LeaveLogin id login t later) :
    ((isLoginFree login).eval (afterSteps t later)).1 = .ok false ∧
      ∀ step : Step, step.Ends (afterSteps t later) id login →
        ((isLoginFree login).eval (step.after (afterSteps t later))).1 = .ok true := by
  have hsound : (afterSteps t later).Sound := sound_afterSteps h later
  have hkept : loginOf (afterSteps t later) id = some login := loginOf_afterSteps h hl hleave
  refine ⟨(isLoginFree_false_iff hsound login).mpr ⟨hrule, id, hkept⟩, fun step hends => ?_⟩
  exact (isLoginFree_true_iff (sound_afterStep hsound step) login).mpr
    ⟨hrule, loginFree_afterStep hsound hkept hends⟩

theorem answerBinds_of_sound (h : t.Sound) (hcost : isCost sealer.cost = true) (hsalt : isSalt o.salt = true)
    (hnew : o.userId ∉ t.users) (hfresh : t.TokenFree o.token) : AnswerBinds sealer o r t := by
  have henrolled {session : Api.Session} {t' : Tables}
      (hres : (register sealer o r).eval t = (.ok session, t')) : Enrolled sealer.cost o r t session t' := by
    obtain ⟨hrules, hfree⟩ := register_granted h (congrArg Prod.fst hres)
    obtain ⟨secret, after, hseal, heval, hrows, hsame⟩ :=
      register_of_free h hcost hsalt hnew hfresh hrules hfree
    cases hres.symm.trans heval
    exact enrolled_of_rows h hnew hseal hrows hsame
  constructor
  · exact isLoginFree_refused_iff h r.login
  · exact isLoginFree_tables h r.login
  · rw [isLoginFree_true_iff h]
    constructor
    · rintro ⟨session, hres⟩
      obtain ⟨hrules, hfree⟩ := register_granted h hres
      exact ⟨hrules, hrules.login, hfree⟩
    · rintro ⟨hrules, -, hfree⟩
      obtain ⟨secret, after, -, heval, -, -⟩ := register_of_free h hcost hsalt hnew hfresh hrules hfree
      exact ⟨_, congrArg Prod.fst heval⟩
  · intro hrules hasked
    obtain ⟨-, id, hl⟩ := (isLoginFree_false_iff h r.login).mp hasked
    exact register_of_taken h hrules hl
  · exact henrolled
  · intro session t' later hres hleave
    have hsound : t'.Sound := by
      have hregistered := (register sealer o r).sound_eval h
      rwa [hres] at hregistered
    obtain ⟨hrules, -⟩ := register_granted h (congrArg Prod.fst hres)
    exact isLoginFree_held hsound hrules.login (henrolled hres).loginOf_eq hleave

end Result

/-- Whatever has happened on a store, a registration at a possible cost, with a drawn salt and with an id and a
token that are nobody's, does what the answer about its login has announced. -/
theorem availability_binds_registration (sealer : Sealer) (hcost : isCost sealer.cost = true)
    (earlier : List Step) (o : Occasion) (r : Api.Registration) (hsalt : isSalt o.salt = true)
    (hnew : o.userId ∉ (afterSteps .empty earlier).users)
    (hfresh : (afterSteps .empty earlier).TokenFree o.token) :
    AnswerBinds sealer o r (afterSteps .empty earlier) :=
  answerBinds_of_sound (sound_afterSteps .empty earlier) hcost hsalt hnew hfresh

/-- Ann's login is to be had again when she has gone, and while Bob has another one. -/
theorem eve_gets_anns_login :
    let first : Occasion := { (default : Occasion) with
      userId := "ann", token := drawnToken 7, salt := drawnSalt 1 }
    let second : Occasion := { first with userId := "eve", token := drawnToken 8 }
    let earlier : List Step := [.call (.addUser (User.fresh "bob" default none)),
      .call (.setCredential ⟨"bob", "Bob", "hash", "salt"⟩),
      .operation ⟨4⟩ first (.register ⟨"Ann", "correct horse", none, true⟩), .call (.removeUser "ann")]
    let r : Api.Registration := ⟨"Ann", "battery staple", some "eve@example.org", true⟩
    let t := afterSteps .empty earlier
    (isCost 4 = true ∧ isSalt second.salt = true ∧ second.userId ∉ t.users ∧ t.TokenFree second.token) ∧
      AnswerBinds ⟨4⟩ second r t ∧ ∃ session, ((register ⟨4⟩ second r).eval t).1 = .ok session := by
  intro first second earlier r t
  have hcost : isCost 4 = true := by decide
  have hsalt : isSalt second.salt = true := isSalt_drawnSalt 1
  have hnew : second.userId ∉ t.users := by
    subst t earlier second first
    decide +kernel
  have hfresh : t.TokenFree second.token := by
    apply Tables.tokenFree_of_no_owner
    subst t earlier second first
    decide +kernel
  have hfree : t.LoginFree r.login := by
    apply Tables.loginFree_of_no_owner
    subst t earlier r second first
    decide +kernel
  have hrules : WithinRules r := by
    constructor <;> subst r <;> decide +kernel
  have hasked : ((isLoginFree r.login).eval t).1 = .ok true :=
    (isLoginFree_true_iff (sound_afterSteps .empty earlier) r.login).mpr ⟨hrules.login, hfree⟩
  have hbinds := availability_binds_registration ⟨4⟩ hcost earlier second r hsalt hnew hfresh
  exact ⟨⟨hcost, hsalt, hnew, hfresh⟩, hbinds, hbinds.registered_iff.mpr ⟨hrules, hasked⟩⟩

end PlayerAccounts.Service
