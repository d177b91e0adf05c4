import PlayerAccounts.Proofs.Http.Evaluation
/-!
# What requests are answered

All that a request can come to on sound tables: the response or the refusal, and with it the tables. A
refusal has a ground in the request or its occasion; what is told otherwise is told from users' rows.
-/
namespace PlayerAccounts.Http
set_option autoImplicit false

open PlayerAccounts.Account
open PlayerAccounts.Json
open PlayerAccounts.Service
open PlayerAccounts.Service.Action
open PlayerAccounts.Store

variable {t t' : Tables}

/-! ## Responses and refusals -/

/-- The response that a result comes to. -/
def responseTo : Except ServiceError Response → Response
  | .ok response => response
  | .error e => Response.ofError e

theorem eval_respond (a : Action Response) (t : Tables) :
    (respond a).eval t = (responseTo (a.eval t).1, (a.eval t).2) := by
  generalize hres : a.eval t = result
  obtain ⟨answer, t'⟩ := result
  cases answer with
  | ok response => exact eval_respond_ok hres
  | error e => exact eval_respond_error hres

/-- What only the owner of an account may do, as refusals call it. -/
def ownersActions : List String := ["update", "delete", "change the password of"]

/-- The grounds on which a request is refused; what a refusal tells is in the request or drawn for it. -/
inductive Ground (o : Occasion) (r : Request) : ServiceError → Prop where
  | rule (rule : BrokenRule) : Ground o r (.ofRule rule)
  | credentials : Ground o r .invalidCredentials
  | token : Ground o r .invalidToken
  | tokenFormat : Ground o r .invalidTokenFormat
  | body {α : Type} {codec : Codec α} {fault : BodyFault} :
    r.document codec = .error fault → Ground o r fault.error
  | loginTaken {doc : Api.Registration} :
    r.document Api.registration = .ok doc → Ground o r (.loginTaken doc.login)
  | unsealed (fault : PasswordFault) : Ground o r (.ofPassword fault)
  | idTaken : Ground o r (.duplicate (keyNamed o.userId))
  | tokenTaken : Ground o r (.duplicate tokenNamed)
  | notOwner {verb : String} : verb ∈ ownersActions →
    Ground o r (.unauthorized ("You can only " ++ verb ++ " your own account"))
  | noUser {segment : List Char} {id : String} : Hits r (.account segment) →
    decodedId? segment = some id → Ground o r (.notFound (userNamed id))
  | noCredential {segment : List Char} {id : String} : Hits r (.password segment) →
    decodedId? segment = some id → Ground o r (.notFound (credentialNamed id))

/-! ## What a request comes to -/

section Answered
variable (sealer : Sealer) (o : Occasion) (r : Request)

/-- What a request comes to for the user of its session, on the tables where the use of the session is
recorded. -/
inductive InSession (user : String) (t : Tables) : Except ServiceError Response × Tables → Prop where
  | refused {e : ServiceError} : Ground o r e → InSession user t (.error e, t)
  | loggedOut : Hits r .logout → InSession user t (.ok Response.noContent, t.revokeToken user)
  | told {id : String} {found : User} : t.users[id]? = some found →
    InSession user t (.ok (Response.ok (Api.user.encode found)), t)
  | edited {segment : List Char} {edit : ProfileEdit} {found : User} :
    Hits r (.account segment) → r.method = .patch → decodedId? segment = some user →
      r.document Api.profileEdit = .ok edit → brokenByEdit? edit.email = none →
      t.users[user]? = some found →
      InSession user t
        (.ok (Response.ok (Api.user.encode (found.apply (settledFor found edit.update.changes)))),
          t.putUser (found.apply (settledFor found edit.update.changes)))
  | removed {segment : List Char} : Hits r (.account segment) → r.method = .delete →
    decodedId? segment = some user → InSession user t (.ok Response.noContent, t.without user)
  | passwordChanged {segment : List Char} {doc : Api.PasswordChange} {c : Credential}
      {secret : SealedPassword} :
    Hits r (.password segment) → decodedId? segment = some user →
      r.document Api.passwordChange = .ok doc → t.credentials[user]? = some c →
      checkPassword doc.oldPassword c.hash c.salt = .ok true →
      sealPassword sealer.cost doc.newPassword o.salt = .ok secret →
      InSession user t (.ok passwordChanged,
        (t.putCredential ⟨user, c.login, secret.hash, secret.salt⟩).revokeToken user)

/-- Who is let in without a session, and the tables before a session token is issued. -/
inductive LetIn (t : Tables) : Tables → Prop where
  | registered {doc : Api.Registration} {secret : SealedPassword} :
    Hits r .register → r.document Api.registration = .ok doc → brokenByRegistration? doc = none →
      t.LoginFree doc.login → sealPassword sealer.cost doc.password o.salt = .ok secret →
      o.userId ∉ t.users → LetIn t (withRegistered t o doc secret)
  | loggedIn {doc : Api.PasswordLogin} {id : String} {c : Credential} {user : User} :
    Hits r .login → r.document Api.passwordLogin = .ok doc → t.credentials[id]? = some c →
      c.login = doc.login → checkPassword doc.password c.hash c.salt = .ok true →
      t.users[id]? = some user → LetIn t (t.putUser (user.apply (Changes.touch o.first)))

/-- What a request comes to. -/
inductive Answered (t : Tables) : Except ServiceError Response × Tables → Prop where
  | unknownPath : Endpoint.ofPath? r.path = none → Answered t (.ok Response.unknownPath, t)
  | wrongMethod {endpoint : Endpoint} : Endpoint.ofPath? r.path = some endpoint →
    r.method ∉ endpoint.methods → Answered t (.ok (Response.wrongMethod endpoint.allow), t)
  | badQuery {fault : Mismatch} : r.queriedLogin = .error fault →
    Answered t (.ok (Response.complaint ("Failed to deserialize query string: " ++ fault.message)), t)
  | badId {segment : List Char} : Hits r (.account segment) ∨ Hits r (.password segment) →
    decodedId? segment = none →
    Answered t (.ok (Response.complaint "Invalid URL: Invalid UTF-8 in `id`"), t)
  | health : Hits r .health → Answered t (.ok health, t)
  | available {login : String} {isFree : Bool} : Hits r .loginAvailable → r.queriedLogin = .ok login →
    (isFree = true ↔ t.LoginFree login) →
    Answered t (.ok (Response.ok (Api.availability.encode ⟨login, isFree⟩)), t)
  | refused {e : ServiceError} : Ground o r e → Answered t (.error e, t)
  /-- The token that was drawn is another user's. -/
  | collided {t' : Tables} : LetIn sealer o r t t' → ¬ t.TokenFree o.token →
    Answered t (.error (.duplicate tokenNamed), t')
  | registered {doc : Api.Registration} {secret : SealedPassword} {token : Option String} {t' : Tables} :
    Hits r .register → r.document Api.registration = .ok doc → brokenByRegistration? doc = none →
      t.LoginFree doc.login → sealPassword sealer.cost doc.password o.salt = .ok secret →
      o.userId ∉ t.users →
      IssuedIf doc.remember o.later o.userId (withRegistered t o doc secret) (.ok token, t') →
      Answered t
        (.ok (Response.created (Api.session.encode ⟨User.fresh o.userId o.first doc.email, token⟩)), t')
  | loggedIn {doc : Api.PasswordLogin} {id : String} {c : Credential} {user : User}
      {token : Option String} {t' : Tables} :
    Hits r .login → r.document Api.passwordLogin = .ok doc → t.credentials[id]? = some c →
      c.login = doc.login → checkPassword doc.password c.hash c.salt = .ok true →
      t.users[id]? = some user →
      IssuedIf doc.remember o.later id (t.putUser (user.apply (Changes.touch o.first))) (.ok token, t') →
      Answered t
        (.ok (Response.ok (Api.session.encode ⟨user.apply (Changes.touch o.first), token⟩)), t')
  | resumed {doc : Api.TokenLogin} {id : String} {row : SessionToken} {user : User} :
    Hits r .tokenLogin → r.document Api.tokenLogin = .ok doc → Opens t doc.token id row →
      t.users[id]? = some user →
      Answered t
        (.ok (Response.ok (Api.session.encode ⟨user.apply (Changes.touch o.second), some doc.token⟩)),
          (t.putToken (row.used o.first)).putUser (user.apply (Changes.touch o.second)))
  | inSession {endpoint : Endpoint} {action : String → Action Response} {id : String}
      {row : SessionToken} {result : Except ServiceError Response × Tables} :
    Hits r endpoint → forUser? sealer o r endpoint = some action → Bears t r id row →
      InSession sealer o r id (t.putToken (row.used o.first)) result → Answered t result

end Answered

/-! ## Endpoints without a session -/

section Dispatch
variable {sealer : Sealer} {o : Occasion} {r : Request}

/-- A document that cannot be read is a ground for a refusal. -/
theorem bodyOf_cases {α : Type} (codec : Codec α) (next : α → Action Response) (t : Tables) :
    (∃ doc, r.document codec = .ok doc ∧ (bodyOf r codec >>= next).eval t = (next doc).eval t) ∨
      ∃ e, Ground o r e ∧ (bodyOf r codec >>= next).eval t = (.error e, t) := by
  cases hd : r.document codec with
  | ok doc => exact .inl ⟨doc, rfl, eval_bind_ok (eval_bodyOf_ok hd t)⟩
  | error fault => exact .inr ⟨fault.error, .body hd, eval_bind_error (eval_bodyOf_error hd t)⟩

theorem answered_loginAvailable (h : t.Sound) (hr : Hits r .loginAvailable) :
    ∃ result, Answered sealer o r t result ∧
      (dispatch sealer o r .loginAvailable).eval t = (responseTo result.1, result.2) := by
  rw [dispatch, loginAvailable]
  cases hq : r.queriedLogin with
  | error fault => exact ⟨_, .badQuery hq, rfl⟩
  | ok login =>
    refine ⟨_, ?_, eval_respond _ t⟩
    have hout := isLoginFree_outcome h login
    generalize hres : (isLoginFree login).eval t = result at hout
    cases hout with
    | ruleBroken _ =>
      rw [eval_bind_error hres]
      exact .refused (.rule _)
    | taken _ hc hl =>
      rw [eval_bind_ok hres, eval_pure]
      exact .available hr hq
        ⟨fun hfalse => absurd hfalse Bool.false_ne_true, fun hfree => absurd hl (hfree hc)⟩
    | free _ hfree =>
      rw [eval_bind_ok hres, eval_pure]
      exact .available hr hq ⟨fun _ => hfree, fun _ => rfl⟩

/-- A session token is refused if it is another user's, in tables with the same sessions as before. -/
theorem of_token_refused {wanted : Bool} {id : String} {e : ServiceError}
    (hsame : t'.tokens = t.tokens) {t'' : Tables} (hissued : IssuedIf wanted o id t' (.error e, t'')) :
    e = .duplicate tokenNamed ∧ t'' = t' ∧ ¬ t.TokenFree o.token := by
  cases hissued with
  | taken _ htaken =>
    refine ⟨rfl, rfl, fun hfree => htaken ?_⟩
    intro other row hr he
    rw [hsame] at hr
    exact absurd he (hfree hr)

theorem answered_register (h : t.Sound) (hr : Hits r .register) :
    Answered sealer o r t ((registration sealer o r).eval t) := by
  rw [registration]
  rcases bodyOf_cases (o := o) Api.registration _ t with ⟨doc, hd, hnext⟩ | ⟨e, he, hnext⟩
  · rw [hnext]
    have hout := register_outcome h sealer o doc
    generalize hres : (register sealer o doc).eval t = result at hout
    cases hout with
    | ruleBroken _ =>
      rw [eval_bind_error hres]
      exact .refused (.rule _)
    | taken _ _ _ =>
      rw [eval_bind_error hres]
      exact .refused (.loginTaken hd)
    | unsealed _ _ _ =>
      rw [eval_bind_error hres]
      exact .refused (.unsealed _)
    | known _ _ _ _ =>
      rw [eval_bind_error hres]
      exact .refused .idTaken
    | @registered secret token t' hrules hfree hseal hn hissued =>
      cases token with
      | ok token =>
        rw [eval_bind_ok hres, eval_pure]
        exact .registered hr hd hrules hfree hseal hn hissued
      | error e =>
        obtain ⟨rfl, rfl, htaken⟩ := of_token_refused (o := o.later) rfl hissued
        rw [eval_bind_error hres]
        exact .collided (.registered hr hd hrules hfree hseal hn) htaken
  · rw [hnext]
    exact .refused he

theorem answered_login (h : t.Sound) (hr : Hits r .login) :
    Answered sealer o r t ((passwordLogin o r).eval t) := by
  rw [passwordLogin]
  rcases bodyOf_cases (o := o) Api.passwordLogin _ t with ⟨doc, hd, hnext⟩ | ⟨e, he, hnext⟩
  · rw [hnext]
    have hout := loginWithPassword_outcome h o doc
    generalize hres : (loginWithPassword o doc).eval t = result at hout
    cases hout with
    | unknown _ =>
      rw [eval_bind_error hres]
      exact .refused .credentials
    | refused _ _ _ =>
      rw [eval_bind_error hres]
      exact .refused .credentials
    | @granted id c user token t' hc hl hp hu hissued =>
      cases token with
      | ok token =>
        rw [eval_bind_ok hres, eval_pure]
        exact .loggedIn hr hd hc hl hp hu hissued
      | error e =>
        obtain ⟨rfl, rfl, htaken⟩ := of_token_refused (o := o.later) rfl hissued
        rw [eval_bind_error hres]
        exact .collided (.loggedIn hr hd hc hl hp hu) htaken
  · rw [hnext]
    exact .refused he

theorem answered_tokenLogin (h : t.Sound) (hr : Hits r .tokenLogin) :
    Answered sealer o r t ((tokenLogin o r).eval t) := by
  rw [tokenLogin]
  rcases bodyOf_cases (o := o) Api.tokenLogin _ t with ⟨doc, hd, hnext⟩ | ⟨e, he, hnext⟩
  · rw [hnext]
    have hout := loginWithToken_outcome h o doc.token
    generalize hres : (loginWithToken o doc.token).eval t = result at hout
    cases hout with
    | refused _ =>
      rw [eval_bind_error hres]
      exact .refused .token
    | granted ho hu =>
      rw [eval_bind_ok hres, eval_pure]
      exact .resumed hr hd ho hu
  · rw [hnext]
    exact .refused he

/-! ## Endpoints with a session -/

section Session
variable {segment : List Char} {user id : String}

/-- Others than the owner are refused, on the ground that they are. -/
theorem inSession_owning {verb : String} {next : Unit → Action Response} (hverb : verb ∈ ownersActions)
    (hnext : user = id → InSession sealer o r user t ((next ()).eval t)) :
    InSession sealer o r user t ((owning user id verb >>= next).eval t) := by
  by_cases hown : user = id
  · subst hown
    rw [eval_bind_ok (eval_owning_self user verb t)]
    exact hnext rfl
  · rw [eval_bind_error (eval_owning_other hown verb t)]
    exact .refused (.notOwner hverb)

theorem inSession_read (hr : Hits r (.account segment)) (hid : decodedId? segment = some id) :
    InSession sealer o r user t ((getUser id >>= fun found =>
      (pure (Response.ok (Api.user.encode found)) : Action Response)).eval t) := by
  rcases getUser_outcome t id with ⟨found, hu, hres⟩ | ⟨_, hres⟩
  · rw [eval_bind_ok hres, eval_pure]
    exact .told hu
  · rw [eval_bind_error hres]
    exact .refused (.noUser hr hid)

theorem inSession_edit (h : t.Sound) (hr : Hits r (.account segment)) (hm : r.method = .patch)
    (hid : decodedId? segment = some user) :
    InSession sealer o r user t ((bodyOf r Api.profileEdit >>= fun edit => updateProfile user edit >>=
      fun found => (pure (Response.ok (Api.user.encode found)) : Action Response)).eval t) := by
  rcases bodyOf_cases (o := o) Api.profileEdit _ t with ⟨edit, hd, hnext⟩ | ⟨e, he, hnext⟩
  · rw [hnext, updateProfile]
    have hout := updateUser_outcome h user edit.update
    generalize hres : (updateUser user edit.update).eval t = result at hout
    cases hout with
    | ruleBroken _ =>
      rw [eval_bind_error hres]
      exact .refused (.rule _)
    | absent _ _ =>
      rw [eval_bind_error hres]
      exact .refused (.noUser hr hid)
    | updated hrule hu =>
      rw [eval_bind_ok hres, eval_pure]
      exact .edited hr hm hid hd hrule hu
  · rw [hnext]
    exact .refused he

theorem inSession_remove (hr : Hits r (.account segment)) (hm : r.method = .delete)
    (hid : decodedId? segment = some user) :
    InSession sealer o r user t ((deleteUser user >>= fun _ =>
      (pure Response.noContent : Action Response)).eval t) := by
  rcases deleteUser_outcome t user with ⟨_, hres⟩ | ⟨_, hres⟩
  · rw [eval_bind_ok hres, eval_pure]
    exact .removed hr hm hid
  · rw [eval_bind_error hres]
    exact .refused (.noUser hr hid)

theorem inSession_editPassword (h : t.Sound) (hr : Hits r (.password segment))
    (hid : decodedId? segment = some user) :
    InSession sealer o r user t ((bodyOf r Api.passwordChange >>= fun doc =>
      changePassword sealer o user doc >>= fun _ => (pure passwordChanged : Action Response)).eval t) := by
  rcases bodyOf_cases (o := o) Api.passwordChange _ t with ⟨doc, hd, hnext⟩ | ⟨e, he, hnext⟩
  · rw [hnext]
    have hout := changePassword_outcome h sealer o user doc
    generalize hres : (changePassword sealer o user doc).eval t = result at hout
    cases hout with
    | ruleBroken _ =>
      rw [eval_bind_error hres]
      exact .refused (.rule _)
    | absent _ _ =>
      rw [eval_bind_error hres]
      exact .refused (.noCredential hr hid)
    | wrong _ _ _ =>
      rw [eval_bind_error hres]
      exact .refused .credentials
    | unsealed _ _ _ _ =>
      rw [eval_bind_error hres]
      exact .refused (.unsealed _)
    | changed _ hc hp hseal =>
      rw [eval_bind_ok hres, eval_pure]
      exact .passwordChanged hr hid hd hc hp hseal
  · rw [hnext]
    exact .refused he

theorem inSession_forUser (h : t.Sound) {endpoint : Endpoint} {action : String → Action Response}
    (hr : Hits r endpoint) (ha : forUser? sealer o r endpoint = some action) (hm : user ∈ t.users) :
    InSession sealer o r user t ((action user).eval t) := by
  cases endpoint with
  | logout =>
    cases ha
    rw [eval_bind_ok (logout_eval t user), eval_pure]
    exact .loggedOut hr
  | me =>
    cases ha
    rcases getUser_outcome t user with ⟨found, hu, hres⟩ | ⟨hn, _⟩
    · rw [eval_bind_ok hres, eval_pure]
      exact .told hu
    · exact absurd hm hn
  | account segment =>
    obtain ⟨id, hid, rfl⟩ := Option.map_eq_some_iff.mp ha
    cases hm : r.method with
    | patch =>
      exact inSession_owning (by decide) fun hown => hown ▸ inSession_edit h hr hm (hown ▸ hid)
    | delete =>
      exact inSession_owning (by decide) fun hown => hown ▸ inSession_remove hr hm (hown ▸ hid)
    | _ => exact inSession_read hr hid
  | password segment =>
    obtain ⟨id, hid, rfl⟩ := Option.map_eq_some_iff.mp ha
    exact inSession_owning (by decide) fun hown => hown ▸ inSession_editPassword h hr (hown ▸ hid)
  | _ => cases ha

end Session

/-- Nobody's session is shown on one of two grounds, or somebody's is and its use is recorded. -/
theorem sessionUser_cases (h : t.Sound) :
    (∃ e, Ground o r e ∧ (sessionUser o r).eval t = (.error e, t)) ∨
      ∃ id row, Bears t r id row ∧
        (sessionUser o r).eval t = (.ok id, t.putToken (row.used o.first)) := by
  cases hb : r.bearer with
  | error e =>
    have he : e = .invalidTokenFormat := bearer_error hb
    refine .inl ⟨e, he ▸ .tokenFormat, ?_⟩
    rw [sessionUser, hb]
    rfl
  | ok token =>
    rw [eval_sessionUser hb]
    have hout := validateToken_outcome h o.first token
    generalize (validateToken o.first token).eval t = result at hout ⊢
    cases hout with
    | refused _ => exact .inl ⟨_, .token, rfl⟩
    | granted ho => exact .inr ⟨_, _, ⟨token, hb, ho⟩, rfl⟩

theorem answered_of_session (h : t.Sound) {endpoint : Endpoint} {action : String → Action Response}
    (hr : Hits r endpoint) (ha : forUser? sealer o r endpoint = some action) :
    Answered sealer o r t ((sessionUser o r >>= action).eval t) := by
  rcases sessionUser_cases (o := o) (r := r) h with ⟨e, he, hres⟩ | ⟨id, row, hb, hres⟩
  · rw [eval_bind_error hres]
    exact .refused he
  · rw [eval_bind_ok hres]
    have hm : id ∈ (t.putToken (row.used o.first)).users := by
      obtain ⟨token, -, ho⟩ := hb
      exact h.token_user ho.found
    exact .inSession hr ha hb (inSession_forUser (hb.used_sound h o.first) hr ha hm)

/-! ## Requests -/

variable (sealer o)

theorem answered_dispatch (h : t.Sound) {endpoint : Endpoint} (hr : Hits r endpoint) :
    ∃ result, Answered sealer o r t result ∧
      (dispatch sealer o r endpoint).eval t = (responseTo result.1, result.2) := by
  cases ha : forUser? sealer o r endpoint with
  | some action => exact ⟨_, answered_of_session h hr ha, by rw [dispatch_of_session ha, eval_respond]⟩
  | none =>
    cases endpoint with
    | health => exact ⟨_, .health hr, rfl⟩
    | loginAvailable => exact answered_loginAvailable h hr
    | register => exact ⟨_, answered_register h hr, eval_respond _ t⟩
    | login => exact ⟨_, answered_login h hr, eval_respond _ t⟩
    | tokenLogin => exact ⟨_, answered_tokenLogin h hr, eval_respond _ t⟩
    | logout => cases ha
    | me => cases ha
    | account segment =>
      have hid : decodedId? segment = none := Option.map_eq_none_iff.mp ha
      refine ⟨_, .badId (.inl hr) hid, ?_⟩
      rw [dispatch, withId, hid]
      rfl
    | password segment =>
      have hid : decodedId? segment = none := Option.map_eq_none_iff.mp ha
      refine ⟨_, .badId (.inr hr) hid, ?_⟩
      rw [dispatch, withId, hid]
      rfl

end Dispatch

/-- Every request comes to one of these results; where it wants no body, the response has none. -/
theorem answered_served (h : t.Sound) (sealer : Sealer) (o : Occasion) (r : Request) :
    ∃ result, Answered sealer o r t result ∧
      served sealer o r t = (trimmed r (responseTo result.1), result.2) := by
  cases hp : Endpoint.ofPath? r.path with
  | none =>
    refine ⟨_, .unknownPath hp, ?_⟩
    have hbare : trimmed r Response.unknownPath = Response.unknownPath := trimmed_of_bodyless r rfl
    rw [served_eq, handle, hp, responseTo, hbare]
    rfl
  | some endpoint =>
    by_cases hm : r.method ∈ endpoint.methods
    · obtain ⟨result, hanswered, hres⟩ := answered_dispatch sealer o h ⟨hp, hm⟩
      exact ⟨result, hanswered, by rw [served_of_hit sealer o t ⟨hp, hm⟩, hres]⟩
    · refine ⟨_, .wrongMethod hp hm, ?_⟩
      have hbare : trimmed r (Response.wrongMethod endpoint.allow) = .wrongMethod endpoint.allow :=
        trimmed_of_bodyless r rfl
      rw [served_of_wrongMethod sealer o t hp hm, responseTo, hbare]

end PlayerAccounts.Http
