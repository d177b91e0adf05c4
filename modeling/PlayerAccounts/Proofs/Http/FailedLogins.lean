import PlayerAccounts.Proofs.Account.StoredHashes
import PlayerAccounts.Proofs.Http.Answers
/-!
# Failed logins

A login with a password fails because nobody has the login, or because the password does not open the
account, for whatever reason. The client is told the same in all these cases, whatever is stored, and
nothing is stored.
-/
namespace PlayerAccounts.Http
set_option autoImplicit false

open PlayerAccounts.Account
open PlayerAccounts.Service
open PlayerAccounts.Service.Action
open PlayerAccounts.Store

variable {t t' : Tables} {sealer : Sealer} {o o' : Occasion} {r : Request} {doc : Api.PasswordLogin}

/-! ## Why logins fail -/

inductive LoginFault (t : Tables) (doc : Api.PasswordLogin) : Prop where
  | unknownLogin : t.LoginFree doc.login → LoginFault t doc
  | unfit {id : String} {c : Credential} : t.credentials[id]? = some c → c.login = doc.login →
    Unfit doc.password c.hash c.salt → LoginFault t doc

/-- A login fails on the one ground that its credentials are wrong, or it succeeds. -/
theorem loginWithPassword_cases (h : t.Sound) (hfresh : t.TokenFree o.token) (doc : Api.PasswordLogin) :
    (LoginFault t doc ∧ (loginWithPassword o doc).eval t = (.error .invalidCredentials, t)) ∨
      (¬ LoginFault t doc ∧ ∃ session, ((loginWithPassword o doc).eval t).1 = .ok session) := by
  have hout := loginWithPassword_outcome h o doc
  generalize (loginWithPassword o doc).eval t = result at hout
  cases hout with
  | unknown hfree => exact .inl ⟨.unknownLogin hfree, rfl⟩
  | refused hc hl hno => exact .inl ⟨.unfit hc hl (unfit_iff.mpr hno), rfl⟩
  | @granted id c user token t' hc hl hp hu hissued =>
    have hfit : ¬ LoginFault t doc := by
      rintro (hfree | ⟨hd, hl', hunfit⟩)
      · exact hfree hc hl
      · obtain rfl := h.login_unique hd hc (hl'.trans hl.symm)
        obtain rfl := Option.some.inj (hd.symm.trans hc)
        exact unfit_iff.mp hunfit hp
    refine .inr ⟨hfit, ?_⟩
    cases token with
    | ok token => exact ⟨_, rfl⟩
    | error e =>
      -- The only thing left to fail is a session token that is another user's, and this one is nobody's.
      have htokens : (t.putUser (user.apply (Changes.touch o.first))).tokens = t.tokens := rfl
      obtain ⟨-, -, htaken⟩ := of_token_refused htokens hissued
      exact (htaken hfresh).elim

/-! ## Requests -/

theorem served_login (hr : Hits r .login) (hd : r.document Api.passwordLogin = .ok doc) :
    served sealer o r t = (respond (loginWithPassword o doc >>= fun session =>
      pure (Response.ok (Api.session.encode session)))).eval t := by
  have hm : r.method ≠ .head := by
    rw [List.mem_singleton.mp hr.method]
    decide
  rw [served_of_hit sealer o t hr, trimmed_of_ne_head hm]
  exact eval_respond_congr (eval_bind_ok (eval_bodyOf_ok hd t))

/-- The request asks for a login with a password, its document is read, and it is refused all the same. -/
structure LoginRefused (sealer : Sealer) (o : Occasion) (r : Request) (t : Tables) : Prop where
  hits : Hits r .login
  document : ∃ doc, r.document Api.passwordLogin = .ok doc
  status : 400 ≤ (served sealer o r t).1.status

section Refused
variable (h : t.Sound) (hfresh : t.TokenFree o.token)
include h hfresh

theorem served_loginFault (hr : Hits r .login) (hd : r.document Api.passwordLogin = .ok doc)
    (hfault : LoginFault t doc) :
    served sealer o r t = (Response.ofError .invalidCredentials, t) := by
  rcases loginWithPassword_cases h hfresh doc with ⟨-, hres⟩ | ⟨hfit, -⟩
  · rw [served_login hr hd, eval_respond_error (eval_bind_error hres)]
  · exact absurd hfault hfit

theorem loginRefused_iff (hr : Hits r .login) (hd : r.document Api.passwordLogin = .ok doc) :
    LoginRefused sealer o r t ↔ LoginFault t doc := by
  constructor
  · rintro ⟨-, -, hstatus⟩
    rcases loginWithPassword_cases h hfresh doc with ⟨hfault, -⟩ | ⟨-, session, hres⟩
    · exact hfault
    · have hok : (loginWithPassword o doc).eval t = (.ok session, ((loginWithPassword o doc).eval t).2) :=
        Prod.ext hres rfl
      rw [served_login hr hd, eval_respond_ok (eval_bind_ok hok)] at hstatus
      exact absurd hstatus (by decide : ¬ 400 ≤ 200)
  · intro hfault
    refine ⟨hr, ⟨doc, hd⟩, ?_⟩
    rw [served_loginFault h hfresh hr hd hfault]
    exact (by decide : 400 ≤ 401)

theorem served_loginRefused (hrefused : LoginRefused sealer o r t) :
    served sealer o r t = (Response.ofError .invalidCredentials, t) := by
  obtain ⟨doc, hd⟩ := hrefused.document
  exact served_loginFault h hfresh hrefused.hits hd ((loginRefused_iff h hfresh hrefused.hits hd).mp hrefused)

end Refused

/-! ## The result -/

/-- A login with a password succeeds, or it is refused for its credentials and changes nothing; it is refused
exactly if there is a fault in login, password or what is stored. So two requests that are refused, each on
tables of its own, get the same response. -/
theorem failed_logins_look_alike (h : t.Sound) (h' : t'.Sound) (hfresh : t.TokenFree o.token)
    (hfresh' : t'.TokenFree o'.token) (sealer sealer' : Sealer) :
    (∀ doc : Api.PasswordLogin,
      (LoginFault t doc ∧ (loginWithPassword o doc).eval t = (.error .invalidCredentials, t)) ∨
        (¬ LoginFault t doc ∧ ∃ session, ((loginWithPassword o doc).eval t).1 = .ok session)) ∧
      (∀ r doc, Hits r .login → r.document Api.passwordLogin = .ok doc →
        (LoginRefused sealer o r t ↔ LoginFault t doc)) ∧
      ∀ r r', LoginRefused sealer o r t → LoginRefused sealer' o' r' t' →
        (served sealer o r t).1 = (served sealer' o' r' t').1 ∧
          (served sealer o r t).2 = t ∧ (served sealer' o' r' t').2 = t' := by
  refine ⟨loginWithPassword_cases h hfresh, fun r doc => loginRefused_iff h hfresh, ?_⟩
  intro r r' hrefused hrefused'
  rw [served_loginRefused h hfresh hrefused, served_loginRefused h' hfresh' hrefused']
  exact ⟨rfl, rfl, rfl⟩

def asksToLogIn (login : String) : Request where
  method := .post
  target := "/auth/login"
  headers := [("content-type", Text.utf8Bytes "application/json".toList)]
  body := Text.utf8Bytes (Api.passwordLogin.encode ⟨login, "correct horse", true⟩).toList

/-- Ann's hash names a cost which there is not, and Bob has no account. -/
theorem impossible_cost_looks_like_no_account :
    let o : Occasion := { (default : Occasion) with token := drawnToken 7 }
    let t := (Tables.empty.putUser (User.fresh "ann" default none)).putCredential
      ⟨"ann", "Ann", "$2b$99$", "0123456789abcdef"⟩
    (t.Sound ∧ Tables.empty.Sound ∧ t.TokenFree o.token ∧ Tables.empty.TokenFree o.token) ∧
      LoginRefused ⟨4⟩ o (asksToLogIn "Ann") t ∧ LoginRefused ⟨12⟩ o (asksToLogIn "Bob") .empty ∧
      (served ⟨4⟩ o (asksToLogIn "Ann") t).1 = (served ⟨12⟩ o (asksToLogIn "Bob") .empty).1 ∧
      (served ⟨4⟩ o (asksToLogIn "Ann") t).2 = t := by
  intro o t
  have hm : "ann" ∈ (Tables.empty.putUser (User.fresh "ann" default none)).users :=
    Tables.empty.mem_putUser_self _
  have ht : t.Sound := (Tables.Sound.empty.putUser _).putCredential hm fun hc => nomatch hc
  have hfresh : t.TokenFree o.token := fun hr => nomatch hr
  have hfresh' : Tables.empty.TokenFree o.token := fun hr => nomatch hr
  have hann : LoginFault t ⟨"Ann", "correct horse", true⟩ := by
    have hc : t.credentials["ann"]? = some ⟨"ann", "Ann", "$2b$99$", "0123456789abcdef"⟩ :=
      (Tables.credentials_putCredential ..).trans (if_pos rfl)
    have hcost : storedCost? "$2b$99$".toList = some 99 := by decide +kernel
    exact .unfit hc rfl (.noSuchCost hcost rfl)
  have hbob : LoginFault .empty ⟨"Bob", "correct horse", true⟩ := .unknownLogin fun hc => nomatch hc
  obtain ⟨-, hrefused, halike⟩ :=
    failed_logins_look_alike ht .empty hfresh hfresh' ⟨4⟩ ⟨12⟩
  obtain ⟨-, hrefused', -⟩ := failed_logins_look_alike .empty .empty hfresh' hfresh' ⟨12⟩ ⟨12⟩
  have hfirst : LoginRefused ⟨4⟩ o (asksToLogIn "Ann") t := by
    refine (hrefused _ _ ⟨?_, ?_⟩ (ok_of_toOption ?_)).mpr hann <;> decide +kernel
  have hsecond : LoginRefused ⟨12⟩ o (asksToLogIn "Bob") .empty := by
    refine (hrefused' _ _ ⟨?_, ?_⟩ (ok_of_toOption ?_)).mpr hbob <;> decide +kernel
  obtain ⟨hresponse, hunchanged, -⟩ := halike _ _ hfirst hsecond
  exact ⟨⟨ht, .empty, hfresh, hfresh'⟩, hfirst, hsecond, hresponse, hunchanged⟩

end PlayerAccounts.Http
