import PlayerAccounts.Proofs.Http.Answers
import PlayerAccounts.Proofs.Service.Secrecy
/-!
# Secrets stay secret

What a request is answered does not depend on the secrets of users whom it is not about: on the hash and
the salt of a credential that it does not log in with, and on a session token that it does not name. No
response is made of anything else than users' rows, the request, and what was drawn for it.
-/
namespace PlayerAccounts.Http
set_option autoImplicit false

open PlayerAccounts.Account
open PlayerAccounts.Json
open PlayerAccounts.Service
open PlayerAccounts.Service.Action
open PlayerAccounts.Store
open PlayerAccounts.Store.Tables (SameButSecrets Veiled TokenHidden)

variable {t t' : Tables}

/-! ## What responses are made of -/

/-- A user's row as responses tell it: as it is stored, or as the request has just changed it. -/
inductive Shown (users : Table User) (o : Occasion) (r : Request) : User → Prop where
  | stored {id : String} {user : User} : users[id]? = some user → Shown users o r user
  | touched {id : String} {user : User} {now : Time.Instant} : users[id]? = some user →
    now = o.first ∨ now = o.second → Shown users o r (user.apply (Changes.touch now))
  | edited {id : String} {user : User} {edit : ProfileEdit} : users[id]? = some user →
    r.document Api.profileEdit = .ok edit → Shown users o r (user.apply (settledFor user edit.update.changes))

/-- Responses that are made of users' rows, the request, and the id and the token that were drawn for it.
Neither credentials nor session tokens that are stored have a part in them. -/
inductive Told (users : Table User) (o : Occasion) (r : Request) : Response → Prop where
  | unknownPath : Told users o r Response.unknownPath
  | wrongMethod (endpoint : Endpoint) : Told users o r (Response.wrongMethod endpoint.allow)
  | badQuery {fault : Mismatch} : r.queriedLogin = .error fault →
    Told users o r (Response.complaint ("Failed to deserialize query string: " ++ fault.message))
  | badId : Told users o r (Response.complaint "Invalid URL: Invalid UTF-8 in `id`")
  | health : Told users o r health
  | noContent : Told users o r Response.noContent
  | passwordChanged : Told users o r passwordChanged
  | available {login : String} (isFree : Bool) : r.queriedLogin = .ok login →
    Told users o r (Response.ok (Api.availability.encode ⟨login, isFree⟩))
  | refused {e : ServiceError} : Ground o r e → Told users o r (Response.ofError e)
  | user {user : User} : Shown users o r user → Told users o r (Response.ok (Api.user.encode user))
  | registered {doc : Api.Registration} {token : Option String} :
    r.document Api.registration = .ok doc → token = none ∨ token = some o.token →
      Told users o r (Response.created (Api.session.encode ⟨User.fresh o.userId o.first doc.email, token⟩))
  | loggedIn {user : User} {token : Option String} : Shown users o r user →
    token = none ∨ token = some o.token →
      Told users o r (Response.ok (Api.session.encode ⟨user, token⟩))
  | resumed {user : User} {doc : Api.TokenLogin} : Shown users o r user →
    r.document Api.tokenLogin = .ok doc →
      Told users o r (Response.ok (Api.session.encode ⟨user, some doc.token⟩))

section Told
variable {sealer : Sealer} {o : Occasion} {r : Request}

theorem issuedIf_token {wanted : Bool} {id : String} {token : Option String}
    (hissued : IssuedIf wanted o id t (.ok token, t')) : token = none ∨ token = some o.token := by
  cases hissued with
  | unwanted _ => exact .inl rfl
  | issued _ _ => exact .inr rfl

theorem told_of_inSession {user : String} {result : Except ServiceError Response × Tables}
    (hin : InSession sealer o r user t result) : Told t.users o r (responseTo result.1) := by
  cases hin with
  | refused hground => exact .refused hground
  | loggedOut _ => exact .noContent
  | told hu => exact .user (.stored hu)
  | edited _ _ _ hd _ hu => exact .user (.edited hu hd)
  | removed _ _ _ => exact .noContent
  | passwordChanged _ _ _ _ _ _ => exact .passwordChanged

theorem told_of_answered {result : Except ServiceError Response × Tables}
    (hanswered : Answered sealer o r t result) : Told t.users o r (responseTo result.1) := by
  cases hanswered with
  | unknownPath _ => exact .unknownPath
  | wrongMethod _ _ => exact .wrongMethod _
  | badQuery hq => exact .badQuery hq
  | badId _ _ => exact .badId
  | health _ => exact .health
  | available _ hq _ => exact .available _ hq
  | refused hground => exact .refused hground
  | collided _ _ => exact .refused .tokenTaken
  | registered _ hd _ _ _ _ hissued => exact .registered hd (issuedIf_token (o := o.later) hissued)
  | loggedIn _ _ _ _ _ hu hissued =>
    exact .loggedIn (.touched hu (.inl rfl)) (issuedIf_token (o := o.later) hissued)
  | resumed _ hd _ hu => exact .resumed (.touched hu (.inr rfl)) hd
  | inSession _ _ _ hin =>
    have htold := told_of_inSession hin
    exact htold

end Told

/-! ## Requests that keep clear of secrets -/

/-- The request names this token: it shows it, as its session or for a login, or it is drawn for it. -/
def Names (o : Occasion) (r : Request) (token : String) : Prop :=
  r.bearer = .ok token ∨ (Hits r .tokenLogin ∧ r.document Api.tokenLogin = .ok ⟨token⟩) ∨ o.token = token

/-- The request does not name the token of this user, and does not log in with the user's login. -/
structure KeepsClear (id : String) (t : Tables) (o : Occasion) (r : Request) : Prop where
  token : ∀ row, t.tokens[id]? = some row → ¬ Names o r row.token
  login : ∀ c doc, t.credentials[id]? = some c → Hits r .login →
    r.document Api.passwordLogin = .ok doc → c.login ≠ doc.login

section Agreement
variable {id : String} {sealer : Sealer} {o : Occasion} {r : Request}

/-- On both tables the program has the same response, and leaves tables that differ in the same secrets. -/
structure AnsweredAlike (id : String) (o : Occasion) (r : Request) (p : Program Response)
    (t t' : Tables) : Prop where
  response : (p.eval t').1 = (p.eval t).1
  veiled : Veiled id (Names o r) (p.eval t).2 (p.eval t').2

theorem answeredAlike_done (w : Veiled id (Names o r) t t') (response : Response) :
    AnsweredAlike id o r (.done response) t t' := ⟨rfl, w⟩

theorem answeredAlike_respond {a : Action Response} (ha : Agrees id (Names o r) a t t') :
    AnsweredAlike id o r (respond a) t t' := by
  constructor
  · rw [eval_respond, eval_respond]
    exact congrArg responseTo ha.result
  · rw [eval_respond, eval_respond]
    exact ha.veiled

theorem agrees_bodyOf {α : Type} {codec : Codec α} {next : α → Action Response}
    (w : Veiled id (Names o r) t t')
    (hnext : ∀ doc, r.document codec = .ok doc → Agrees id (Names o r) (next doc) t t') :
    Agrees id (Names o r) (bodyOf r codec >>= next) t t' := by
  cases hd : r.document codec with
  | ok doc =>
    have hdoc := hnext doc hd
    constructor
    · rw [eval_bind_ok (eval_bodyOf_ok hd t), eval_bind_ok (eval_bodyOf_ok hd t')]
      exact hdoc.result
    · rw [eval_bind_ok (eval_bodyOf_ok hd t), eval_bind_ok (eval_bodyOf_ok hd t')]
      exact hdoc.veiled
  | error fault =>
    constructor
    · rw [eval_bind_error (eval_bodyOf_error hd t), eval_bind_error (eval_bodyOf_error hd t')]
    · rw [eval_bind_error (eval_bodyOf_error hd t), eval_bind_error (eval_bodyOf_error hd t')]
      exact w

/-- What is made of a result is the same if the result is. -/
theorem agrees_then {α : Type} {a : Action α} (ha : Agrees id (Names o r) a t t') (g : α → Response) :
    Agrees id (Names o r) (a >>= fun x => pure (g x)) t t' :=
  agrees_bind ha fun x _ _ _ w => agrees_pure w (g x)

theorem agrees_owning (w : Veiled id (Names o r) t t') (user account verb : String)
    {next : Unit → Action Response} (hnext : user = account → Agrees id (Names o r) (next ()) t t') :
    Agrees id (Names o r) (owning user account verb >>= next) t t' := by
  by_cases hown : user = account
  · subst hown
    have hres := hnext rfl
    constructor
    · rw [eval_bind_ok (eval_owning_self user verb t), eval_bind_ok (eval_owning_self user verb t')]
      exact hres.result
    · rw [eval_bind_ok (eval_owning_self user verb t), eval_bind_ok (eval_owning_self user verb t')]
      exact hres.veiled
  · constructor
    · rw [eval_bind_error (eval_owning_other hown verb t),
        eval_bind_error (eval_owning_other hown verb t')]
    · rw [eval_bind_error (eval_owning_other hown verb t),
        eval_bind_error (eval_owning_other hown verb t')]
      exact w

/-! ## Endpoints with a session -/

theorem agrees_sessionUser (w : Veiled id (Names o r) t t') :
    Agrees id (Names o r) (sessionUser o r) t t' := by
  unfold sessionUser
  cases hb : r.bearer with
  | ok token => exact agrees_validateToken w o.first (.inl hb)
  | error e => exact agrees_throw w e

/-- What is done for another user spares the secrets. -/
theorem agrees_forUser (w : Veiled id (Names o r) t t') {endpoint : Endpoint}
    {action : String → Action Response} (ha : forUser? sealer o r endpoint = some action)
    {user : String} (hne : user ≠ id) : Agrees id (Names o r) (action user) t t' := by
  cases endpoint with
  | logout =>
    cases ha
    exact agrees_then (agrees_logout w user) _
  | me =>
    cases ha
    exact agrees_then (agrees_getUser w user) _
  | account segment =>
    obtain ⟨account, _, rfl⟩ := Option.map_eq_some_iff.mp ha
    cases hm : r.method with
    | patch =>
      refine agrees_owning w user account "update" fun _ => ?_
      exact agrees_bodyOf w fun edit _ => agrees_then (agrees_updateUser w account edit.update) _
    | delete =>
      refine agrees_owning w user account "delete" fun _ => ?_
      exact agrees_then (agrees_deleteUser w account) fun _ => Response.noContent
    | _ => exact agrees_then (agrees_getUser w account) _
  | password segment =>
    obtain ⟨account, _, rfl⟩ := Option.map_eq_some_iff.mp ha
    refine agrees_owning w user account "change the password of" fun hown => ?_
    refine agrees_bodyOf w fun doc _ => ?_
    exact agrees_then (agrees_changePassword w sealer o (hown ▸ hne) doc) fun _ => passwordChanged
  | _ => cases ha

theorem agrees_of_session (w : Veiled id (Names o r) t t') (hclear : KeepsClear id t o r)
    {endpoint : Endpoint} {action : String → Action Response}
    (ha : forUser? sealer o r endpoint = some action) :
    Agrees id (Names o r) (sessionUser o r >>= action) t t' := by
  refine agrees_bind (agrees_sessionUser w) fun user s s' hres w' => ?_
  have hne : user ≠ id := by
    rintro rfl
    rcases sessionUser_cases (o := o) (r := r) w.sound with ⟨e, _, herror⟩ | ⟨shown, row, hb, hok⟩
    · rw [hres] at herror
      cases herror
    · rw [hres] at hok
      cases hok
      obtain ⟨token, hbearer, ho⟩ := hb
      exact hclear.token row ho.found (.inl (ho.token_eq ▸ hbearer))
  exact agrees_forUser w' ha hne

/-! ## Requests -/

variable (sealer)

theorem dispatch_alike (w : Veiled id (Names o r) t t') (hclear : KeepsClear id t o r)
    {endpoint : Endpoint} (hr : Hits r endpoint) :
    AnsweredAlike id o r (dispatch sealer o r endpoint) t t' := by
  cases ha : forUser? sealer o r endpoint with
  | some action =>
    rw [dispatch_of_session ha]
    exact answeredAlike_respond (agrees_of_session w hclear ha)
  | none =>
    cases endpoint with
    | health => exact answeredAlike_done w health
    | loginAvailable =>
      rw [dispatch, loginAvailable]
      cases r.queriedLogin with
      | error fault => exact answeredAlike_done w _
      | ok login => exact answeredAlike_respond (agrees_then (agrees_isLoginFree w login) _)
    | register =>
      refine answeredAlike_respond (agrees_bodyOf w fun doc _ => ?_)
      exact agrees_then (agrees_register w sealer (.inr (.inr rfl)) doc) _
    | login =>
      refine answeredAlike_respond (agrees_bodyOf w fun doc hd => ?_)
      have hlogin := fun c hc => hclear.login c doc hc hr hd
      exact agrees_then (agrees_loginWithPassword w (.inr (.inr rfl)) hlogin) _
    | tokenLogin =>
      refine answeredAlike_respond (agrees_bodyOf w fun doc hd => ?_)
      exact agrees_then (agrees_loginWithToken w o (.inr (.inl ⟨hr, hd⟩))) _
    | logout => cases ha
    | me => cases ha
    | account segment =>
      rw [dispatch, withId, Option.map_eq_none_iff.mp ha]
      exact answeredAlike_done w _
    | password segment =>
      rw [dispatch, withId, Option.map_eq_none_iff.mp ha]
      exact answeredAlike_done w _

theorem handle_alike (w : Veiled id (Names o r) t t') (hclear : KeepsClear id t o r) :
    AnsweredAlike id o r (handle sealer o r) t t' := by
  unfold handle
  cases hp : Endpoint.ofPath? r.path with
  | none => exact answeredAlike_done w _
  | some endpoint =>
    change AnsweredAlike id o r (if _ then _ else _) t t'
    by_cases hm : r.method ∈ endpoint.methods
    · rw [if_pos hm]
      have halike := dispatch_alike sealer w hclear ⟨hp, hm⟩
      constructor
      · rw [Program.eval_bind, Program.eval_bind]
        exact congrArg (trimmed r) halike.response
      · rw [Program.eval_bind, Program.eval_bind]
        exact halike.veiled
    · rw [if_neg hm]
      exact answeredAlike_done w _

end Agreement

/-! ## The result -/

/-- Whatever the secrets of a user are, a request that keeps clear of them is answered the same, and the
tables after it differ in these secrets only. No response has any of the stored secrets in it. -/
theorem secrets_not_told (id : String) (h : t.Sound) (h' : t'.Sound) (hsame : SameButSecrets id t t')
    (sealer : Sealer) (o : Occasion) (r : Request) (hclear : KeepsClear id t o r)
    (hclear' : KeepsClear id t' o r) :
    let result := serve Tables.backend sealer o r t
    let result' := serve Tables.backend sealer o r t'
    result'.response = result.response ∧ SameButSecrets id result.state result'.state ∧
      ∃ response, Told t.users o r response ∧ result.response = trimmed r response := by
  intro result result'
  have hhidden : TokenHidden id (Names o r) t t' :=
    .inr fun row hrow => hrow.elim (hclear.token row) (hclear'.token row)
  have halike := handle_alike sealer ⟨hsame, h, h', hhidden⟩ hclear
  obtain ⟨answer, hanswered, hserved⟩ := answered_served h sealer o r
  have hresponse := halike.response
  have hveiled := halike.veiled
  rw [← served_eq, ← served_eq] at hresponse hveiled
  exact ⟨hresponse, hveiled.toSameButSecrets, _, told_of_answered hanswered, congrArg Prod.fst hserved⟩

/-! ## Somebody else's account -/

/-- Ann and Bob, who has no secrets yet, while Ann is logged in. -/
def annInSession : Tables :=
  ((Tables.empty.putUser (User.fresh "ann" default none)).putUser (User.fresh "bob" default none)).putToken
    (SessionToken.issued "ann" "A" default)

/-- The same two when Bob has secrets. -/
def bobWith (hash salt token : String) : Tables :=
  (annInSession.putCredential ⟨"bob", "Bob", hash, salt⟩).putToken (SessionToken.issued "bob" token default)

def annReadsBob : Request :=
  ⟨.get, "/users/bob", [("authorization", Text.utf8Bytes "Bearer A".toList)], []⟩

theorem sound_annInSession : annInSession.Sound := by
  have hplayers := (Tables.Sound.empty.putUser (User.fresh "ann" default none)).putUser
    (User.fresh "bob" default none)
  refine hplayers.putToken _ ((Tables.mem_putUser ..).mpr (.inr (Tables.mem_putUser_self _ _))) ?_ le_rfl
  intro other row hr
  simp [Tables.empty] at hr

theorem sound_bobWith (hash salt token : String) (hne : token ≠ "A") :
    (bobWith hash salt token).Sound := by
  have hbob : "bob" ∈ annInSession.users := Tables.mem_putUser_self _ _
  have hfree : annInSession.LoginFreeFor "bob" "Bob" := by
    intro other c hc
    simp [annInSession, Tables.empty] at hc
  refine (sound_annInSession.putCredential (c := ⟨"bob", "Bob", hash, salt⟩) hbob hfree).putToken _ hbob
    ?_ le_rfl
  intro other row hr he
  simp only [annInSession, Tables.empty, Tables.tokens_putCredential, Tables.tokens_putToken,
    Tables.tokens_putUser] at hr
  split at hr
  · rw [← Option.some.inj hr] at he
    exact absurd he.symm hne
  · simp at hr

theorem sameButSecrets_bobWith (hash hash' salt salt' token token' : String) :
    SameButSecrets "bob" (bobWith hash salt token) (bobWith hash' salt' token') := by
  constructor
  · rfl
  · intro other hne
    simp [bobWith, hne.symm]
  · intro other hne
    simp [bobWith, SessionToken.issued, hne.symm]
  · simp [bobWith, Tables.openPart]
  · simp [bobWith, SessionToken.issued, Tables.openRow]

theorem path_annReadsBob : Endpoint.ofPath? annReadsBob.path = some (.account "bob".toList) := by
  decide +kernel

theorem bearer_annReadsBob : annReadsBob.bearer = .ok "A" := ok_of_toOption (by decide +kernel)

theorem keepsClear_annReadsBob (hash salt token : String) (hne : token ≠ "A")
    (hfull : token ≠ "") : KeepsClear "bob" (bobWith hash salt token) default annReadsBob := by
  constructor
  · intro row hr
    have hown : (SessionToken.issued "bob" token default).userId = "bob" := rfl
    rw [bobWith, Tables.tokens_putToken, if_pos hown] at hr
    rw [← Option.some.inj hr]
    rintro (hshown | ⟨hlogin, -⟩ | hdrawn)
    · rw [bearer_annReadsBob] at hshown
      exact hne (Except.ok.inj hshown).symm
    · cases path_annReadsBob.symm.trans hlogin.path
    · exact hfull hdrawn.symm
  · intro c doc _ hlogin
    cases path_annReadsBob.symm.trans hlogin.path

/-- Ann reads Bob's account: she is told his name and balances, whatever his password and his token. -/
theorem anothers_account_read :
    let result := serve Tables.backend ⟨4⟩ default annReadsBob (bobWith "h" "s" "B")
    let result' := serve Tables.backend ⟨4⟩ default annReadsBob (bobWith "k" "t" "C")
    ((bobWith "h" "s" "B").Sound ∧ (bobWith "k" "t" "C").Sound ∧
      SameButSecrets "bob" (bobWith "h" "s" "B") (bobWith "k" "t" "C") ∧
      KeepsClear "bob" (bobWith "h" "s" "B") default annReadsBob ∧
      KeepsClear "bob" (bobWith "k" "t" "C") default annReadsBob) ∧
    result.response.status = 200 ∧ result'.response = result.response ∧
      SameButSecrets "bob" result.state result'.state ∧
      ∃ response, Told annInSession.users default annReadsBob response ∧
        result.response = trimmed annReadsBob response := by
  intro result result'
  have hb := sound_bobWith "h" "s" "B" (by decide)
  have hb' := sound_bobWith "k" "t" "C" (by decide)
  have hsame := sameButSecrets_bobWith "h" "k" "s" "t" "B" "C"
  have hc := keepsClear_annReadsBob "h" "s" "B" (by decide) (by decide)
  have hc' := keepsClear_annReadsBob "k" "t" "C" (by decide) (by decide)
  have hstatus : result.response.status = 200 := by
    subst result
    decide +kernel
  exact ⟨⟨hb, hb', hsame, hc, hc'⟩, hstatus, secrets_not_told "bob" hb hb' hsame ⟨4⟩ default _ hc hc'⟩

end PlayerAccounts.Http
