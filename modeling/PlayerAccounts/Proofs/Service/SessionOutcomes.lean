import PlayerAccounts.Proofs.Service.Evaluation
/-!
# Outcomes of registration and logins

For each operation that can open a session, or ask for one, the list of its outcomes on sound tables:
under which conditions on the rows it ends how, and which rows it puts.
-/
namespace PlayerAccounts.Service
set_option autoImplicit false

open PlayerAccounts.Account
open PlayerAccounts.Store
open PlayerAccounts.Time (Instant)
open PlayerAccounts.Service.Action

variable {t : Tables}

/-! ## Logins that can be had -/

/-- The outcomes of the question whether a login can be had. -/
inductive LoginAsked (login : String) (t : Tables) : Except ServiceError Bool × Tables → Prop where
  | ruleBroken {rule : BrokenRule} :
    brokenByLogin? login = some rule → LoginAsked login t (.error (.ofRule rule), t)
  | taken {id : String} {c : Credential} :
    brokenByLogin? login = none → t.credentials[id]? = some c → c.login = login →
      LoginAsked login t (.ok false, t)
  | free : brokenByLogin? login = none → t.LoginFree login → LoginAsked login t (.ok true, t)

theorem isLoginFree_outcome (h : t.Sound) (login : String) :
    LoginAsked login t ((isLoginFree login).eval t) := by
  unfold isLoginFree
  cases hb : brokenByLogin? login with
  | some rule =>
    rw [eval_bind_error (eval_require_some rfl t)]
    exact .ruleBroken hb
  | none =>
    rw [eval_bind_ok (eval_require_none rfl t)]
    rcases h.answer_credentialOfLogin login with ⟨hfree, hcall⟩ | ⟨id, c, hc, hl, hcall⟩
    · rw [eval_ask_bind hcall]
      exact .free hb hfree
    · rw [eval_ask_bind hcall]
      exact .taken hb hc hl

/-! ## Issuing a session token -/

/-- The outcomes of issuing a session token. -/
inductive Issued (o : Occasion) (id : String) (t : Tables) : Except ServiceError String × Tables → Prop where
  | absent : id ∉ t.users → Issued o id t (.error (.notFound (userNamed id)), t)
  | taken : id ∈ t.users → ¬ t.TokenFreeFor id o.token → Issued o id t (.error (.duplicate tokenNamed), t)
  | issued : id ∈ t.users → t.TokenFreeFor id o.token →
      Issued o id t (.ok o.token, t.putToken (SessionToken.issued id o.token o.first))

theorem issueToken_outcome (h : t.Sound) (o : Occasion) (id : String) :
    Issued o id t ((issueToken o id).eval t) := by
  unfold issueToken
  by_cases hm : id ∈ t.users
  · by_cases hk : t.TokenFreeFor id o.token
    · have hcall : t.answer (.issueToken id o.token o.first) = _ := h.issueToken_of_free hm hk o.first
      rw [eval_ask_bind hcall]
      exact .issued hm hk
    · have hcall : t.answer (.issueToken id o.token o.first) = _ := h.issueToken_of_taken hm hk o.first
      rw [eval_ask_bind hcall]
      exact .taken hm hk
  · have hcall : t.answer (.issueToken id o.token o.first) = _ :=
      Tables.issueToken_of_absent hm o.token o.first
    rw [eval_ask_bind hcall]
    exact .absent hm

/-- The outcomes of issuing a session token to a user who is there, if one is wanted. -/
inductive IssuedIf (wanted : Bool) (o : Occasion) (id : String) (t : Tables) :
    Except ServiceError (Option String) × Tables → Prop where
  | unwanted : wanted = false → IssuedIf wanted o id t (.ok none, t)
  | taken : wanted = true → ¬ t.TokenFreeFor id o.token →
      IssuedIf wanted o id t (.error (.duplicate tokenNamed), t)
  | issued : wanted = true → t.TokenFreeFor id o.token →
      IssuedIf wanted o id t (.ok (some o.token), t.putToken (SessionToken.issued id o.token o.first))

theorem issueTokenIf_outcome (h : t.Sound) (wanted : Bool) (o : Occasion) {id : String}
    (hm : id ∈ t.users) : IssuedIf wanted o id t ((issueTokenIf wanted o id).eval t) := by
  unfold issueTokenIf
  cases wanted with
  | false => exact .unwanted rfl
  | true =>
    have hout := issueToken_outcome h o id
    generalize hres : (issueToken o id).eval t = result at hout
    cases hout with
    | absent hn => exact absurd hm hn
    | taken _ hk =>
      rw [if_pos rfl, eval_map_error hres]
      exact .taken rfl hk
    | issued _ hk =>
      rw [if_pos rfl, eval_map_ok hres]
      exact .issued rfl hk

/-! ## Showing a session token -/

/-- A token that lets in the user with this id: it is the token of that user's row, and it is neither
empty nor too long to be looked up. -/
structure Opens (t : Tables) (token id : String) (row : SessionToken) : Prop where
  found : t.tokens[id]? = some row
  token_eq : row.token = token
  nonempty : token.utf8ByteSize ≠ 0
  le_length : token.utf8ByteSize ≤ tokenLength

/-- The outcomes of showing a session token. -/
inductive Validated (now : Instant) (token : String) (t : Tables) :
    Except ServiceError String × Tables → Prop where
  | refused : (∀ id row, ¬ Opens t token id row) → Validated now token t (.error .invalidToken, t)
  | granted {id : String} {row : SessionToken} :
    Opens t token id row → Validated now token t (.ok id, t.putToken (row.used now))

theorem validateToken_refused (now : Instant) {token : String} (hno : ∀ id row, ¬ Opens t token id row) :
    (validateToken now token).eval t = (.error .invalidToken, t) := by
  unfold validateToken
  by_cases hlen : token.utf8ByteSize = 0 ∨ tokenLength < token.utf8ByteSize
  · rw [if_pos hlen, eval_bind_error (eval_throw .invalidToken t)]
  · rw [if_neg hlen]
    rw [not_or, Nat.not_lt] at hlen
    have hfree : t.TokenFree token := fun hr he => hno _ _ ⟨hr, he, hlen.1, hlen.2⟩
    have hcall : t.answer (.useToken token now) = _ := Tables.useToken_of_free hfree now
    rw [eval_ask_bind hcall]
    rfl

theorem validateToken_granted (h : t.Sound) (now : Instant) {token id : String} {row : SessionToken}
    (ho : Opens t token id row) :
    (validateToken now token).eval t = (.ok id, t.putToken (row.used now)) := by
  obtain ⟨hr, rfl, hnonempty, hlength⟩ := ho
  have hlen : ¬ (row.token.utf8ByteSize = 0 ∨ tokenLength < row.token.utf8ByteSize) :=
    not_or.mpr ⟨hnonempty, Nat.not_lt.mpr hlength⟩
  have hcall : t.answer (.useToken row.token now) = _ := h.useToken_of_row hr now
  have hid : row.userId = id := h.token_id hr
  unfold validateToken
  rw [if_neg hlen, eval_ask_bind hcall, ← hid]
  rfl

theorem validateToken_outcome (h : t.Sound) (now : Instant) (token : String) :
    Validated now token t ((validateToken now token).eval t) := by
  by_cases hopen : ∃ id row, Opens t token id row
  · obtain ⟨id, row, ho⟩ := hopen
    rw [validateToken_granted h now ho]
    exact .granted ho
  · have hno : ∀ id row, ¬ Opens t token id row := fun id row ho => hopen ⟨id, row, ho⟩
    rw [validateToken_refused now hno]
    exact .refused hno

/-! ## Registration -/

/-- The first rule that a registration breaks, if any. -/
def brokenByRegistration? (r : Api.Registration) : Option BrokenRule :=
  (brokenByLogin? r.login).or ((brokenByPassword? r.password).or (r.email.bind brokenByEmail?))

/-- The tables with the rows of a new user, before a session token is issued. -/
def withRegistered (t : Tables) (o : Occasion) (r : Api.Registration) (secret : SealedPassword) : Tables :=
  (t.putUser (User.fresh o.userId o.first r.email)).putCredential
    ⟨o.userId, r.login, secret.hash, secret.salt⟩

/-- The outcomes of a registration. -/
inductive Registered (sealer : Sealer) (o : Occasion) (r : Api.Registration) (t : Tables) :
    Except ServiceError Api.Session × Tables → Prop where
  | ruleBroken {rule : BrokenRule} :
    brokenByRegistration? r = some rule → Registered sealer o r t (.error (.ofRule rule), t)
  | taken {id : String} {c : Credential} :
    brokenByRegistration? r = none → t.credentials[id]? = some c → c.login = r.login →
      Registered sealer o r t (.error (.loginTaken r.login), t)
  | unsealed {fault : PasswordFault} :
    brokenByRegistration? r = none → t.LoginFree r.login →
      sealPassword sealer.cost r.password o.salt = .error fault →
      Registered sealer o r t (.error (.ofPassword fault), t)
  | known {secret : SealedPassword} :
    brokenByRegistration? r = none → t.LoginFree r.login →
      sealPassword sealer.cost r.password o.salt = .ok secret → o.userId ∈ t.users →
      Registered sealer o r t (.error (.duplicate (keyNamed o.userId)), t)
  | registered {secret : SealedPassword} {token : Except ServiceError (Option String)} {t' : Tables} :
    brokenByRegistration? r = none → t.LoginFree r.login →
      sealPassword sealer.cost r.password o.salt = .ok secret → o.userId ∉ t.users →
      IssuedIf r.remember o.later o.userId (withRegistered t o r secret) (token, t') →
      Registered sealer o r t (token.map (⟨User.fresh o.userId o.first r.email, ·⟩), t')

theorem sealNew_ok {sealer : Sealer} {o : Occasion} {password : String} {secret : SealedPassword}
    (hseal : sealPassword sealer.cost password o.salt = .ok secret) (t : Tables) :
    (sealNew sealer o password).eval t = (.ok secret, t) := by
  rw [sealNew, hseal]
  rfl

theorem sealNew_error {sealer : Sealer} {o : Occasion} {password : String} {fault : PasswordFault}
    (hseal : sealPassword sealer.cost password o.salt = .error fault) (t : Tables) :
    (sealNew sealer o password).eval t = (.error (.ofPassword fault), t) := by
  rw [sealNew, hseal]
  rfl

theorem withRegistered_sound (h : t.Sound) (o : Occasion) {r : Api.Registration}
    (hl : t.LoginFree r.login) (secret : SealedPassword) : (withRegistered t o r secret).Sound := by
  have hm : o.userId ∈ (t.putUser (User.fresh o.userId o.first r.email)).users :=
    t.mem_putUser_self _
  exact (h.putUser _).putCredential hm fun hc he => absurd he (hl hc)

theorem sameButFor_withRegistered (t : Tables) (o : Occasion) (r : Api.Registration)
    (secret : SealedPassword) : t.SameButFor o.userId (withRegistered t o r secret) := by
  have hadded : t.SameButFor o.userId (t.putUser (User.fresh o.userId o.first r.email)) :=
    (Tables.SameButFor.refl t).putUser rfl
  exact hadded.putCredential rfl

theorem register_outcome (h : t.Sound) (sealer : Sealer) (o : Occasion) (r : Api.Registration) :
    Registered sealer o r t ((register sealer o r).eval t) := by
  unfold register
  rw [eval_require_or, eval_require_or, Option.or_assoc, ← brokenByRegistration?]
  cases hrules : brokenByRegistration? r with
  | some rule =>
    rw [eval_bind_error (eval_require_some rfl t)]
    exact .ruleBroken hrules
  | none =>
  rw [eval_bind_ok (eval_require_none rfl t)]
  have hasked := isLoginFree_outcome h r.login
  generalize hres : (isLoginFree r.login).eval t = result at hasked
  cases hasked with
  | ruleBroken hb =>
    have hlogin : brokenByLogin? r.login = none := (Option.or_eq_none_iff.mp hrules).1
    rw [hlogin] at hb
    cases hb
  | taken _ hc hl =>
    rw [eval_bind_ok hres]
    exact .taken hrules hc hl
  | free _ hfree =>
  rw [eval_bind_ok hres]
  cases hseal : sealPassword sealer.cost r.password o.salt with
  | error fault => exact (eval_bind_error (sealNew_error hseal t)).symm ▸ .unsealed hrules hfree hseal
  | ok secret =>
  change Registered sealer o r t ((sealNew sealer o r.password >>= _).eval t)
  rw [eval_bind_ok (sealNew_ok hseal t)]
  by_cases hm : o.userId ∈ t.users
  · have hadd : t.answer (.addUser (User.fresh o.userId o.first r.email)) = _ :=
      Tables.addUser_of_known hm
    rw [eval_bind_error (eval_demand_error hadd)]
    exact .known hrules hfree hseal hm
  · have hadd : t.answer (.addUser (User.fresh o.userId o.first r.email)) = _ :=
      Tables.addUser_of_new hm
    have hmem : o.userId ∈ (t.putUser (User.fresh o.userId o.first r.email)).users :=
      t.mem_putUser_self _
    have hset : (t.putUser (User.fresh o.userId o.first r.email)).answer
        (.setCredential ⟨o.userId, r.login, secret.hash, secret.salt⟩) = _ :=
      (h.putUser _).setCredential_of_free hmem fun hc he => absurd he (hfree hc)
    rw [eval_bind_ok (eval_demand_ok hadd)]
    change Registered sealer o r t ((ask (.setCredential ⟨o.userId, r.login, _, _⟩) >>= _).eval _)
    rw [eval_ask_bind hset]
    have hissued := issueTokenIf_outcome (withRegistered_sound h o hfree secret) r.remember o.later hmem
    generalize hres : (issueTokenIf r.remember o.later o.userId).eval
      (withRegistered t o r secret) = result at hissued
    obtain ⟨token, t'⟩ := result
    have hout := Registered.registered hrules hfree hseal hm hissued
    cases token with
    | ok token => exact (eval_bind_ok hres).symm ▸ hout
    | error e => exact (eval_bind_error hres).symm ▸ hout

/-! ## Logging in -/

/-- The outcomes of a login with a password. -/
inductive LoggedIn (o : Occasion) (r : Api.PasswordLogin) (t : Tables) :
    Except ServiceError Api.Session × Tables → Prop where
  | unknown : t.LoginFree r.login → LoggedIn o r t (.error .invalidCredentials, t)
  | refused {id : String} {c : Credential} :
    t.credentials[id]? = some c → c.login = r.login → checkPassword r.password c.hash c.salt ≠ .ok true →
      LoggedIn o r t (.error .invalidCredentials, t)
  | granted {id : String} {c : Credential} {user : User} {token : Except ServiceError (Option String)}
      {t' : Tables} :
    t.credentials[id]? = some c → c.login = r.login → checkPassword r.password c.hash c.salt = .ok true →
      t.users[id]? = some user →
      IssuedIf r.remember o.later id (t.putUser (user.apply (Changes.touch o.first))) (token, t') →
      LoggedIn o r t (token.map (⟨user.apply (Changes.touch o.first), ·⟩), t')

theorem touch_eval (h : t.Sound) {id : String} {user : User} (hu : t.users[id]? = some user)
    (now : Instant) :
    (touch now id).eval t =
      (.ok (user.apply (Changes.touch now)), t.putUser (user.apply (Changes.touch now))) := by
  have hcall : t.answer (.amendUser id (Changes.touch now)) = _ := h.amendUser_of_row hu _
  exact eval_demand_ok hcall

theorem passwordFits_eval (password : String) (c : Credential) (t : Tables) :
    (checkPassword password c.hash c.salt = .ok true ∧ (passwordFits password c).eval t = (.ok true, t)) ∨
      (checkPassword password c.hash c.salt ≠ .ok true ∧
        (passwordFits password c).eval t = (.ok false, t)) := by
  unfold passwordFits
  cases checkPassword password c.hash c.salt with
  | error fault => exact .inr ⟨by simp, rfl⟩
  | ok fits =>
    cases fits with
    | true => exact .inl ⟨rfl, rfl⟩
    | false => exact .inr ⟨by simp, rfl⟩

theorem loginWithPassword_outcome (h : t.Sound) (o : Occasion) (r : Api.PasswordLogin) :
    LoggedIn o r t ((loginWithPassword o r).eval t) := by
  unfold loginWithPassword
  rcases h.answer_credentialOfLogin r.login with ⟨hfree, hcall⟩ | ⟨id, c, hc, hl, hcall⟩
  · rw [eval_ask_bind hcall]
    exact .unknown hfree
  · rw [eval_ask_bind hcall]
    rcases passwordFits_eval r.password c t with ⟨hp, hfits⟩ | ⟨hp, hfits⟩
    · obtain ⟨user, hu⟩ := exists_lookup_of_mem (h.credential_user hc)
      have hid : user.id = id := h.user_id hu
      have hm : id ∈ (t.putUser (user.apply (Changes.touch o.first))).users :=
        (Tables.mem_putUser ..).mpr (.inl hid)
      have hissued := issueTokenIf_outcome (h.putUser (user.apply (Changes.touch o.first)))
        r.remember o.later hm
      change LoggedIn o r t ((passwordFits r.password c >>= _).eval t)
      rw [eval_bind_ok hfits]
      change LoggedIn o r t ((touch o.first c.userId >>= _).eval t)
      rw [h.credential_id hc, eval_bind_ok (touch_eval h hu o.first)]
      change LoggedIn o r t ((issueTokenIf r.remember o.later user.id >>= _).eval _)
      rw [hid]
      generalize hres : (issueTokenIf r.remember o.later id).eval
        (t.putUser (user.apply (Changes.touch o.first))) = result at hissued
      obtain ⟨token, t'⟩ := result
      have hout := LoggedIn.granted hc hl hp hu hissued
      cases token with
      | ok token => exact (eval_bind_ok hres).symm ▸ hout
      | error e => exact (eval_bind_error hres).symm ▸ hout
    · change LoggedIn o r t ((passwordFits r.password c >>= _).eval t)
      rw [eval_bind_ok hfits]
      exact .refused hc hl hp

/-- The outcomes of a login with a session token. -/
inductive Resumed (o : Occasion) (token : String) (t : Tables) :
    Except ServiceError Api.Session × Tables → Prop where
  | refused : (∀ id row, ¬ Opens t token id row) → Resumed o token t (.error .invalidToken, t)
  | granted {id : String} {row : SessionToken} {user : User} :
    Opens t token id row → t.users[id]? = some user →
      Resumed o token t (.ok ⟨user.apply (Changes.touch o.second), some token⟩,
        (t.putToken (row.used o.first)).putUser (user.apply (Changes.touch o.second)))

theorem loginWithToken_outcome (h : t.Sound) (o : Occasion) (token : String) :
    Resumed o token t ((loginWithToken o token).eval t) := by
  have hsound := sound_eval (validateToken o.first token) h
  have hout := validateToken_outcome h o.first token
  unfold loginWithToken
  generalize hres : (validateToken o.first token).eval t = result at hout hsound
  cases hout with
  | refused hno =>
    rw [eval_bind_error hres]
    exact .refused hno
  | granted ho =>
    obtain ⟨user, hu⟩ := exists_lookup_of_mem (h.token_user ho.found)
    rw [eval_bind_ok hres, eval_bind_ok (touch_eval hsound hu o.second)]
    exact .granted ho hu

end PlayerAccounts.Service
