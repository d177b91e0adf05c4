import PlayerAccounts.Proofs.Http.Answers
/-!
# What requests do to the tables

All that a request can do to the tables of the store in memory: the rows that it puts or takes away, each
with the reason why it may. What no request may do is read off this list.
-/
namespace PlayerAccounts.Http
set_option autoImplicit false

open PlayerAccounts.Account
open PlayerAccounts.Json
open PlayerAccounts.Service
open PlayerAccounts.Service.Action
open PlayerAccounts.Store

variable {t t' : Tables}

/-! ## The list -/

/-- What a request does to sound tables. -/
inductive Effect (sealer : Sealer) (o : Occasion) (r : Request) (t : Tables) : Tables → Prop where
  | nothing : Effect sealer o r t t
  | registered {doc : Api.Registration} {secret : SealedPassword} {t' : Tables} :
    Hits r .register → r.document Api.registration = .ok doc → brokenByRegistration? doc = none →
      t.LoginFree doc.login → sealPassword sealer.cost doc.password o.salt = .ok secret →
      o.userId ∉ t.users →
      (t' = withRegistered t o doc secret ∨
        t' = (withRegistered t o doc secret).putToken (SessionToken.issued o.userId o.token o.second)) →
      Effect sealer o r t t'
  | loggedIn {doc : Api.PasswordLogin} {id : String} {c : Credential} {user : User} {t' : Tables} :
    Hits r .login → r.document Api.passwordLogin = .ok doc → t.credentials[id]? = some c →
      c.login = doc.login → checkPassword doc.password c.hash c.salt = .ok true →
      t.users[id]? = some user →
      (t' = t.putUser (user.apply (Changes.touch o.first)) ∨
        t' = (t.putUser (user.apply (Changes.touch o.first))).putToken
          (SessionToken.issued id o.token o.second)) →
      Effect sealer o r t t'
  | resumed {doc : Api.TokenLogin} {id : String} {row : SessionToken} {user : User} :
    Hits r .tokenLogin → r.document Api.tokenLogin = .ok doc → Opens t doc.token id row →
      t.users[id]? = some user →
      Effect sealer o r t
        ((t.putToken (row.used o.first)).putUser (user.apply (Changes.touch o.second)))
  | shown {endpoint : Endpoint} {action : String → Action Response} {id : String} {row : SessionToken} :
    Hits r endpoint → forUser? sealer o r endpoint = some action → Bears t r id row →
      Effect sealer o r t (t.putToken (row.used o.first))
  | loggedOut {id : String} {row : SessionToken} : Hits r .logout → Bears t r id row →
      Effect sealer o r t ((t.putToken (row.used o.first)).revokeToken id)
  | edited {segment : List Char} {id : String} {row : SessionToken} {edit : ProfileEdit} {user : User} :
    Hits r (.account segment) → r.method = .patch → decodedId? segment = some id → Bears t r id row →
      r.document Api.profileEdit = .ok edit → brokenByEdit? edit.email = none →
      t.users[id]? = some user →
      Effect sealer o r t
        ((t.putToken (row.used o.first)).putUser (user.apply (settledFor user edit.update.changes)))
  | removed {segment : List Char} {id : String} {row : SessionToken} :
    Hits r (.account segment) → r.method = .delete → decodedId? segment = some id → Bears t r id row →
      Effect sealer o r t ((t.putToken (row.used o.first)).without id)
  | passwordChanged {segment : List Char} {id : String} {row : SessionToken} {doc : Api.PasswordChange}
      {c : Credential} {secret : SealedPassword} :
    Hits r (.password segment) → decodedId? segment = some id → Bears t r id row →
      r.document Api.passwordChange = .ok doc → t.credentials[id]? = some c →
      checkPassword doc.oldPassword c.hash c.salt = .ok true →
      sealPassword sealer.cost doc.newPassword o.salt = .ok secret →
      Effect sealer o r t
        (((t.putToken (row.used o.first)).putCredential
          ⟨id, c.login, secret.hash, secret.salt⟩).revokeToken id)

/-! ## What the list is read off -/

theorem issuedIf_tables {wanted : Bool} {o : Occasion} {id : String}
    {token : Except ServiceError (Option String)} (hissued : IssuedIf wanted o id t (token, t')) :
    t' = t ∨ t' = t.putToken (SessionToken.issued id o.token o.first) := by
  cases hissued with
  | unwanted _ => exact .inl rfl
  | taken _ _ => exact .inl rfl
  | issued _ _ => exact .inr rfl

section Results
variable {sealer : Sealer} {o : Occasion} {r : Request}

/-- Who is let in, but gets no session token, has come all the same. -/
theorem effect_of_letIn (hlet : LetIn sealer o r t t') : Effect sealer o r t t' := by
  cases hlet with
  | registered hr hd hrules hl hseal hn => exact .registered hr hd hrules hl hseal hn (.inl rfl)
  | loggedIn hr hd hc hl hp hu => exact .loggedIn hr hd hc hl hp hu (.inl rfl)

theorem effect_of_inSession {endpoint : Endpoint} {action : String → Action Response} {id : String}
    {row : SessionToken} {result : Except ServiceError Response × Tables} (hr : Hits r endpoint)
    (ha : forUser? sealer o r endpoint = some action) (hb : Bears t r id row)
    (hin : InSession sealer o r id (t.putToken (row.used o.first)) result) :
    Effect sealer o r t result.2 := by
  cases hin with
  | refused _ => exact .shown hr ha hb
  | told _ => exact .shown hr ha hb
  | loggedOut hout => exact .loggedOut hout hb
  | edited hown hm hid hd hrule hu => exact .edited hown hm hid hb hd hrule hu
  | removed hown hm hid => exact .removed hown hm hid hb
  | passwordChanged hown hid hd hc hp hseal => exact .passwordChanged hown hid hb hd hc hp hseal

/-- What a request is answered tells its effect. -/
theorem effect_of_answered {result : Except ServiceError Response × Tables}
    (hanswered : Answered sealer o r t result) : Effect sealer o r t result.2 := by
  cases hanswered with
  | collided hlet _ => exact effect_of_letIn hlet
  | registered hr hd hrules hl hseal hn hissued =>
    exact .registered hr hd hrules hl hseal hn (issuedIf_tables hissued)
  | loggedIn hr hd hc hl hp hu hissued => exact .loggedIn hr hd hc hl hp hu (issuedIf_tables hissued)
  | resumed hr hd ho hu => exact .resumed hr hd ho hu
  | inSession hr ha hb hin => exact effect_of_inSession hr ha hb hin
  | _ => exact .nothing

end Results

/-- Every request has one of these effects. -/
theorem effect_served (h : t.Sound) (sealer : Sealer) (o : Occasion) (r : Request) :
    Effect sealer o r t (served sealer o r t).2 := by
  obtain ⟨answer, hanswered, hserved⟩ := answered_served h sealer o r
  rw [hserved]
  exact effect_of_answered hanswered

end PlayerAccounts.Http
