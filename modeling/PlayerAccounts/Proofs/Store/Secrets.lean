import PlayerAccounts.Proofs.Store.Runs
/-!
# Tables that differ in secrets

Two states of the tables that are the same but for the secrets of one user: the hash and the salt in the
credential, and the session token. A call that has nothing to do with these secrets is answered alike in
both, and leaves tables that differ in them only.
-/
namespace PlayerAccounts.Store.Tables
set_option autoImplicit false

open PlayerAccounts.Account
open PlayerAccounts.Time (Instant)

/-! ## Secrets -/

/-- A credential without its secrets. -/
def openPart (c : Credential) : Credential := { c with hash := "", salt := "" }

/-- A session token's row without the token. -/
def openRow (row : SessionToken) : SessionToken := { row with token := "" }

/-- The tables are the same, but for the hash, the salt and the token of one user. -/
structure SameButSecrets (id : String) (t t' : Tables) : Prop where
  users : t'.users = t.users
  credentials : ∀ other, other ≠ id → t'.credentials[other]? = t.credentials[other]?
  tokens : ∀ other, other ≠ id → t'.tokens[other]? = t.tokens[other]?
  ownCredential : t'.credentials[id]?.map openPart = t.credentials[id]?.map openPart
  ownToken : t'.tokens[id]?.map openRow = t.tokens[id]?.map openRow

namespace SameButSecrets
variable {id : String} {t t' : Tables}

theorem refl (id : String) (t : Tables) : SameButSecrets id t t :=
  ⟨rfl, fun _ _ => rfl, fun _ _ => rfl, rfl, rfl⟩

theorem symm (h : SameButSecrets id t t') : SameButSecrets id t' t where
  users := h.users.symm
  credentials other hne := (h.credentials other hne).symm
  tokens other hne := (h.tokens other hne).symm
  ownCredential := h.ownCredential.symm
  ownToken := h.ownToken.symm

/-! ## What goes on in both -/

theorem putUser (h : SameButSecrets id t t') (user : User) :
    SameButSecrets id (t.putUser user) (t'.putUser user) where
  users := congrArg (·.insert user.id user) h.users
  credentials := h.credentials
  tokens := h.tokens
  ownCredential := h.ownCredential
  ownToken := h.ownToken

theorem putCredential (h : SameButSecrets id t t') (c : Credential) :
    SameButSecrets id (t.putCredential c) (t'.putCredential c) where
  users := h.users
  credentials other hne := by
    rw [credentials_putCredential, credentials_putCredential, h.credentials other hne]
  tokens := h.tokens
  ownCredential := by
    rw [credentials_putCredential, credentials_putCredential]
    split
    · rfl
    · exact h.ownCredential
  ownToken := h.ownToken

theorem putToken (h : SameButSecrets id t t') (row : SessionToken) :
    SameButSecrets id (t.putToken row) (t'.putToken row) where
  users := h.users
  credentials := h.credentials
  tokens other hne := by
    rw [tokens_putToken, tokens_putToken, h.tokens other hne]
  ownCredential := h.ownCredential
  ownToken := by
    rw [tokens_putToken, tokens_putToken]
    split
    · rfl
    · exact h.ownToken

theorem revokeToken (h : SameButSecrets id t t') (user : String) :
    SameButSecrets id (t.revokeToken user) (t'.revokeToken user) where
  users := h.users
  credentials := h.credentials
  tokens other hne := by
    rw [tokens_revokeToken, tokens_revokeToken, h.tokens other hne]
  ownCredential := h.ownCredential
  ownToken := by
    rw [tokens_revokeToken, tokens_revokeToken]
    split
    · rfl
    · exact h.ownToken

theorem without (h : SameButSecrets id t t') (user : String) :
    SameButSecrets id (t.without user) (t'.without user) where
  users := congrArg (·.erase user) h.users
  credentials other hne := by
    rw [credentials_without, credentials_without, h.credentials other hne]
  tokens other hne := by
    rw [tokens_without, tokens_without, h.tokens other hne]
  ownCredential := by
    rw [credentials_without, credentials_without]
    split
    · rfl
    · exact h.ownCredential
  ownToken := by
    rw [tokens_without, tokens_without]
    split
    · rfl
    · exact h.ownToken

/-! ## What is found in both -/

theorem mem_iff (h : SameButSecrets id t t') (user : String) : user ∈ t'.users ↔ user ∈ t.users := by
  rw [h.users]

/-- Every credential has a counterpart with the same login, which is the same if it is another user's. -/
theorem exists_credential (h : SameButSecrets id t t') {user : String} {c : Credential}
    (hc : t.credentials[user]? = some c) :
    ∃ c', t'.credentials[user]? = some c' ∧ c'.login = c.login ∧ (user ≠ id → c' = c) := by
  by_cases hid : user = id
  · have hown := h.ownCredential
    rw [← hid, hc, Option.map_some] at hown
    obtain ⟨c', hc', hopen⟩ := Option.map_eq_some_iff.mp hown
    have hlogin : (openPart c').login = (openPart c).login := congrArg Credential.login hopen
    exact ⟨c', hc', hlogin, fun hne => absurd hid hne⟩
  · exact ⟨c, (h.credentials user hid).trans hc, rfl, fun _ => rfl⟩

theorem loginFree (h : SameButSecrets id t t') {login : String} (hl : t'.LoginFree login) :
    t.LoginFree login := by
  intro user c hc he
  obtain ⟨c', hc', hlogin, -⟩ := h.exists_credential hc
  exact hl hc' (hlogin.trans he)

theorem loginFreeFor (h : SameButSecrets id t t') {user login : String} (hl : t'.LoginFreeFor user login) :
    t.LoginFreeFor user login := by
  intro other c hc he
  obtain ⟨c', hc', hlogin, -⟩ := h.exists_credential hc
  exact hl hc' (hlogin.trans he)

end SameButSecrets

/-! ## Calls -/

/-- If a user's token is not the same in both tables, it is none of the tokens that calls name. -/
def TokenHidden (id : String) (named : String → Prop) (t t' : Tables) : Prop :=
  t'.tokens[id]? = t.tokens[id]? ∨
    ∀ row, t.tokens[id]? = some row ∨ t'.tokens[id]? = some row → ¬ named row.token

/-- Sound tables that differ in the secrets of one user only, whose token stays hidden from calls. -/
structure Veiled (id : String) (named : String → Prop) (t t' : Tables) : Prop
    extends SameButSecrets id t t' where
  sound : t.Sound
  sound' : t'.Sound
  hidden : TokenHidden id named t t'

/-- The call has nothing to do with the secrets of the user: it looks for somebody else's credential, and
names no token of the user. -/
def Spares (id : String) (named : String → Prop) (t : Tables) : Call → Prop
  | .credentialOfLogin login => ∀ c, t.credentials[id]? = some c → c.login ≠ login
  | .credentialOfUser user => user ≠ id
  | .issueToken _ token _ | .useToken token _ => named token
  | _ => True

section Hidden
variable {id : String} {named : String → Prop} {t t' : Tables}

theorem tokenHidden_putToken (h : TokenHidden id named t t') (row : SessionToken) :
    TokenHidden id named (t.putToken row) (t'.putToken row) := by
  unfold TokenHidden
  rw [tokens_putToken, tokens_putToken]
  split
  · exact .inl rfl
  · exact h

theorem tokenHidden_revokeToken (h : TokenHidden id named t t') (user : String) :
    TokenHidden id named (t.revokeToken user) (t'.revokeToken user) := by
  unfold TokenHidden
  rw [tokens_revokeToken, tokens_revokeToken]
  split
  · exact .inl rfl
  · exact h

theorem tokenHidden_without (h : TokenHidden id named t t') (user : String) :
    TokenHidden id named (t.without user) (t'.without user) := by
  unfold TokenHidden
  rw [tokens_without, tokens_without]
  split
  · exact .inl rfl
  · exact h

end Hidden

namespace Veiled
variable {id : String} {named : String → Prop} {t t' : Tables}

theorem symm (w : Veiled id named t t') : Veiled id named t' t where
  toSameButSecrets := w.toSameButSecrets.symm
  sound := w.sound'
  sound' := w.sound
  hidden := w.hidden.imp Eq.symm fun hnot row hrow => hnot row hrow.symm

/-- A row whose token a call names is the same in both tables. -/
theorem found (w : Veiled id named t t') {user : String} {row : SessionToken} (hnamed : named row.token)
    (hr : t.tokens[user]? = some row) : t'.tokens[user]? = some row := by
  by_cases hid : user = id
  · rcases w.hidden with hsame | hnot
    · rw [hid] at hr ⊢
      exact hsame.trans hr
    · exact absurd hnamed (hnot row (.inl (hid ▸ hr)))
  · exact (w.tokens user hid).trans hr

theorem tokenFree (w : Veiled id named t t') {token : String} (hnamed : named token)
    (hk : t.TokenFree token) : t'.TokenFree token := by
  intro user row hr he
  exact hk (w.symm.found (he ▸ hnamed) hr) he

theorem tokenFreeFor_iff (w : Veiled id named t t') (user : String) {token : String}
    (hnamed : named token) : t'.TokenFreeFor user token ↔ t.TokenFreeFor user token := by
  constructor
  · intro hk other row hr he
    exact hk (w.found (he ▸ hnamed) hr) he
  · intro hk other row hr he
    exact hk (w.symm.found (he ▸ hnamed) hr) he

theorem loginFreeFor_iff (w : Veiled id named t t') (user login : String) :
    t'.LoginFreeFor user login ↔ t.LoginFreeFor user login :=
  ⟨fun hl => w.loginFreeFor hl, fun hl => w.symm.loginFreeFor hl⟩

/-- What a call that is answered alike leaves behind. -/
structure Agreeing (id : String) (named : String → Prop) (t t' : Tables) (call : Call) : Prop where
  answer : (t'.answer call).1 = (t.answer call).1
  same : SameButSecrets id (t.answer call).2 (t'.answer call).2
  hidden : TokenHidden id named (t.answer call).2 (t'.answer call).2

theorem Agreeing.of_eq {call : Call} {answer : Except StoreError call.Answer} {s s' : Tables}
    (hcall : t.answer call = (answer, s)) (hcall' : t'.answer call = (answer, s'))
    (hsame : SameButSecrets id s s') (hhidden : TokenHidden id named s s') : Agreeing id named t t' call := by
  constructor
  · rw [hcall, hcall']
  · rw [hcall, hcall']
    exact hsame
  · rw [hcall, hcall']
    exact hhidden

theorem agreeing_unchanged (w : Veiled id named t t') {call : Call}
    {answer : Except StoreError call.Answer} (hcall : t.answer call = (answer, t))
    (hcall' : t'.answer call = (answer, t')) : Agreeing id named t t' call :=
  .of_eq hcall hcall' w.toSameButSecrets w.hidden

/-- A call that spares the user's secrets is answered alike. -/
theorem agreeing (w : Veiled id named t t') (call : Call) (hspares : Spares id named t call) :
    Agreeing id named t t' call := by
  have hmem : ∀ user, user ∈ t'.users ↔ user ∈ t.users := w.mem_iff
  cases call with
  | addUser user =>
    by_cases hm : user.id ∈ t.users
    · exact w.agreeing_unchanged (addUser_of_known hm) (addUser_of_known ((hmem _).mpr hm))
    · exact .of_eq (addUser_of_new hm) (addUser_of_new (mt (hmem _).mp hm))
        (w.putUser user) w.hidden
  | findUser user =>
    refine w.agreeing_unchanged rfl ?_
    rw [answer, findUser, findUser, w.users]
  | amendUser user changes =>
    by_cases hm : user ∈ t.users
    · obtain ⟨found, hu⟩ := exists_lookup_of_mem hm
      have hu' : t'.users[user]? = some found := by rw [w.users, hu]
      exact .of_eq (w.sound.amendUser_of_row hu changes) (w.sound'.amendUser_of_row hu' changes)
        (w.putUser _) w.hidden
    · exact w.agreeing_unchanged (amendUser_of_absent hm changes)
        (amendUser_of_absent (mt (hmem _).mp hm) changes)
  | removeUser user =>
    by_cases hm : user ∈ t.users
    · exact .of_eq (removeUser_of_mem hm) (removeUser_of_mem ((hmem _).mpr hm))
        (w.without user) (tokenHidden_without w.hidden user)
    · exact w.agreeing_unchanged (removeUser_of_absent hm) (removeUser_of_absent (mt (hmem _).mp hm))
  | setCredential c =>
    by_cases hm : c.userId ∈ t.users
    · have hm' : c.userId ∈ t'.users := (hmem _).mpr hm
      have hiff := w.loginFreeFor_iff c.userId c.login
      by_cases hl : t.LoginFreeFor c.userId c.login
      · exact .of_eq (w.sound.setCredential_of_free hm hl)
          (w.sound'.setCredential_of_free hm' (hiff.mpr hl)) (w.putCredential c) w.hidden
      · exact w.agreeing_unchanged (w.sound.setCredential_of_taken hm hl)
          (w.sound'.setCredential_of_taken hm' (mt hiff.mp hl))
    · exact w.agreeing_unchanged (setCredential_of_absent hm)
        (setCredential_of_absent (mt (hmem _).mp hm))
  | credentialOfLogin login =>
    rcases w.sound.answer_credentialOfLogin login with ⟨hfree, hcall⟩ | ⟨user, c, hc, rfl, hcall⟩
    · have hfree' : t'.LoginFree login := w.symm.loginFree hfree
      exact w.agreeing_unchanged hcall (by rw [answer, credentialOfLogin_of_free hfree'])
    · have hne : user ≠ id := fun he => hspares c (he ▸ hc) rfl
      have hc' : t'.credentials[user]? = some c := (w.credentials user hne).trans hc
      exact w.agreeing_unchanged hcall (by rw [answer, w.sound'.credentialOfLogin_of_row hc'])
  | credentialOfUser user =>
    refine w.agreeing_unchanged rfl ?_
    rw [answer, credentialOfUser, credentialOfUser, w.credentials user hspares]
  | issueToken user token now =>
    by_cases hm : user ∈ t.users
    · have hm' : user ∈ t'.users := (hmem _).mpr hm
      have hiff := w.tokenFreeFor_iff user hspares
      by_cases hk : t.TokenFreeFor user token
      · exact .of_eq (w.sound.issueToken_of_free hm hk now)
          (w.sound'.issueToken_of_free hm' (hiff.mpr hk) now) (w.putToken _)
          (tokenHidden_putToken w.hidden _)
      · exact w.agreeing_unchanged (w.sound.issueToken_of_taken hm hk now)
          (w.sound'.issueToken_of_taken hm' (mt hiff.mp hk) now)
    · exact w.agreeing_unchanged (issueToken_of_absent hm token now)
        (issueToken_of_absent (mt (hmem _).mp hm) token now)
  | useToken token now =>
    rcases t.exists_token token with hfree | ⟨user, row, hr, rfl⟩
    · exact w.agreeing_unchanged (useToken_of_free hfree now)
        (useToken_of_free (w.tokenFree hspares hfree) now)
    · exact .of_eq (w.sound.useToken_of_row hr now)
        (w.sound'.useToken_of_row (w.found hspares hr) now) (w.putToken _)
        (tokenHidden_putToken w.hidden _)
  | revokeToken user =>
    exact .of_eq rfl rfl (w.revokeToken user) (tokenHidden_revokeToken w.hidden user)

/-- The tables after such a call differ in the same secrets only. -/
theorem answer (w : Veiled id named t t') (call : Call) (hspares : Spares id named t call) :
    Veiled id named (t.answer call).2 (t'.answer call).2 where
  toSameButSecrets := (w.agreeing call hspares).same
  sound := w.sound.answer call
  sound' := w.sound'.answer call
  hidden := (w.agreeing call hspares).hidden

end Veiled
end PlayerAccounts.Store.Tables
