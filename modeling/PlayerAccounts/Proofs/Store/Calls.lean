import PlayerAccounts.Proofs.Store.Soundness
/-!
# What calls do

Each call to the store in memory, told by the rows it finds: what it answers, and which rows it puts or
takes away. A call that fails changes nothing.
-/
namespace PlayerAccounts.Store.Tables
set_option autoImplicit false

open PlayerAccounts.Account
open PlayerAccounts.Time (Instant)

variable {t : Tables} {id other : String}

/-! ## Users -/

theorem addUser_of_new {user : User} (hn : user.id ∉ t.users) :
    t.addUser user = (.ok user, t.putUser user) := by
  rw [addUser, if_neg hn]
  rfl

theorem addUser_of_known {user : User} (hm : user.id ∈ t.users) :
    t.addUser user = (.error (.duplicate (keyNamed user.id)), t) := by
  rw [addUser, if_pos hm]

theorem findUser_of_row {user : User} (hu : t.users[id]? = some user) : t.findUser id = .ok user := by
  rw [findUser, hu]

theorem findUser_of_absent (hn : id ∉ t.users) : t.findUser id = .error (.notFound (userNamed id)) := by
  rw [findUser, lookup_of_not_mem hn]

/-- The changed row stands under the key of the old one, whatever id is in it. -/
theorem amendUser_of_row {user : User} (hu : t.users[id]? = some user) (changes : Changes) :
    t.amendUser id changes =
      (.ok (user.apply changes), { t with users := t.users.insert id (user.apply changes) }) := by
  rw [amendUser, hu]

/-- In sound tables that key is the id in the row. -/
theorem Sound.insert_apply (h : Sound t) {user : User} (hu : t.users[id]? = some user) (changes : Changes) :
    { t with users := t.users.insert id (user.apply changes) } = t.putUser (user.apply changes) := by
  have hid : user.id = id := h.user_id hu
  have hkey : (user.apply changes).id = id := hid
  rw [Tables.putUser, hkey]

theorem Sound.amendUser_of_row (h : Sound t) {user : User} (hu : t.users[id]? = some user)
    (changes : Changes) :
    t.amendUser id changes = (.ok (user.apply changes), t.putUser (user.apply changes)) := by
  rw [Tables.amendUser_of_row hu, h.insert_apply hu]

theorem amendUser_of_absent (hn : id ∉ t.users) (changes : Changes) :
    t.amendUser id changes = (.error (.notFound (userNamed id)), t) := by
  rw [amendUser, lookup_of_not_mem hn]

theorem removeUser_of_mem (hm : id ∈ t.users) : t.removeUser id = (.ok (), t.without id) := by
  rw [removeUser, if_pos hm]
  rfl

theorem removeUser_of_absent (hn : id ∉ t.users) :
    t.removeUser id = (.error (.notFound (userNamed id)), t) := by
  rw [removeUser, if_neg hn]

/-! ## Credentials -/

/-- The scan for another user with the login comes up with one unless the login is free for the user. -/
theorem Sound.any_login (h : Sound t) (id login : String) :
    (t.credentials.values.any fun d => d.login == login && d.userId != id) = true ↔
      ¬ t.LoginFreeFor id login := any_other_iff h.credential_id id login

theorem setCredential_of_absent {c : Credential} (hn : c.userId ∉ t.users) :
    t.setCredential c = (.error (.unknownUser (userNamed c.userId)), t) := by
  rw [setCredential, if_pos hn]

theorem Sound.setCredential_of_free (h : Sound t) {c : Credential} (hm : c.userId ∈ t.users)
    (hl : t.LoginFreeFor c.userId c.login) : t.setCredential c = (.ok c, t.putCredential c) := by
  have hs := mt (h.any_login c.userId c.login).mp (not_not.mpr hl)
  rw [setCredential, if_neg (not_not.mpr hm), if_neg hs]
  rfl

theorem Sound.setCredential_of_taken (h : Sound t) {c : Credential} (hm : c.userId ∈ t.users)
    (hl : ¬ t.LoginFreeFor c.userId c.login) :
    t.setCredential c = (.error (.duplicate (loginNamed c.login)), t) := by
  rw [setCredential, if_neg (not_not.mpr hm), if_pos ((h.any_login c.userId c.login).mpr hl)]

/-- The user's own login cannot be anybody else's. -/
theorem Sound.setCredential_of_row (h : Sound t) {c : Credential} (hc : t.credentials[id]? = some c)
    (hash salt : String) :
    t.setCredential ⟨id, c.login, hash, salt⟩ =
      (.ok ⟨id, c.login, hash, salt⟩, t.putCredential ⟨id, c.login, hash, salt⟩) :=
  h.setCredential_of_free (h.credential_user hc) fun hd hl => h.login_unique hc hd hl.symm

theorem Sound.credentialOfLogin_of_row (h : Sound t) {c : Credential} (hc : t.credentials[id]? = some c) :
    t.credentialOfLogin c.login = .ok c := by
  have hf : t.credentials.values.find? (·.login == c.login) = some c := by
    apply find?_of_unique (mem_values.mpr ⟨id, hc⟩) (beq_self_eq_true c.login)
    intro d hd hl
    obtain ⟨other, hd⟩ := mem_values.mp hd
    rw [h.login_unique hd hc (beq_iff_eq.mp hl), hc] at hd
    exact (Option.some.inj hd).symm
  rw [credentialOfLogin, hf]

theorem credentialOfLogin_of_free {login : String} (hl : t.LoginFree login) :
    t.credentialOfLogin login = .error (.notFound (loginNamed login)) := by
  have hf : t.credentials.values.find? (·.login == login) = none := by
    rw [List.find?_eq_none]
    intro c hc
    obtain ⟨id, hc⟩ := mem_values.mp hc
    simpa using hl hc
  rw [credentialOfLogin, hf]

/-- Whoever looks up a login finds it free, or finds the credential that has it. -/
theorem Sound.answer_credentialOfLogin (h : Sound t) (login : String) :
    (t.LoginFree login ∧
      t.answer (.credentialOfLogin login) = (.error (.notFound (loginNamed login)), t)) ∨
    ∃ (id : String) (c : Credential), t.credentials[id]? = some c ∧ c.login = login ∧
      t.answer (.credentialOfLogin login) = (.ok c, t) := by
  rcases t.exists_login login with hfree | ⟨id, c, hc, rfl⟩
  · exact .inl ⟨hfree, by rw [answer, credentialOfLogin_of_free hfree]⟩
  · exact .inr ⟨id, c, hc, rfl, by rw [answer, h.credentialOfLogin_of_row hc]⟩

theorem credentialOfUser_of_row {c : Credential} (hc : t.credentials[id]? = some c) :
    t.credentialOfUser id = .ok c := by
  rw [credentialOfUser, hc]

theorem answer_credentialOfUser_of_row {c : Credential} (hc : t.credentials[id]? = some c) :
    t.answer (.credentialOfUser id) = (.ok c, t) := by
  rw [answer, credentialOfUser_of_row hc]

theorem credentialOfUser_of_none (hn : t.credentials[id]? = none) :
    t.credentialOfUser id = .error (.notFound (credentialNamed id)) := by
  rw [credentialOfUser, hn]

/-! ## Session tokens -/

/-- The scan for another user with the token comes up with one unless the token is free for the user. -/
theorem Sound.any_token (h : Sound t) (id token : String) :
    (t.tokens.values.any fun row => row.token == token && row.userId != id) = true ↔
      ¬ t.TokenFreeFor id token := any_other_iff h.token_id id token

theorem issueToken_of_absent (hn : id ∉ t.users) (token : String) (now : Instant) :
    t.issueToken id token now = (.error (.unknownUser (userNamed id)), t) := by
  rw [issueToken, if_pos hn]

theorem Sound.issueToken_of_free (h : Sound t) {token : String} (hm : id ∈ t.users)
    (hk : t.TokenFreeFor id token) (now : Instant) :
    t.issueToken id token now =
      (.ok (SessionToken.issued id token now), t.putToken (SessionToken.issued id token now)) := by
  have hs := mt (h.any_token id token).mp (not_not.mpr hk)
  rw [issueToken, if_neg (not_not.mpr hm), if_neg hs]
  rfl

theorem Sound.issueToken_of_taken (h : Sound t) {token : String} (hm : id ∈ t.users)
    (hk : ¬ t.TokenFreeFor id token) (now : Instant) :
    t.issueToken id token now = (.error (.duplicate tokenNamed), t) := by
  rw [issueToken, if_neg (not_not.mpr hm), if_pos ((h.any_token id token).mpr hk)]

theorem Sound.useToken_of_row (h : Sound t) {row : SessionToken} (hr : t.tokens[id]? = some row)
    (now : Instant) : t.useToken row.token now = (.ok (row.used now), t.putToken (row.used now)) := by
  have hf : t.tokens.toList.find? (·.2.token == row.token) = some (id, row) := by
    apply find?_of_unique (Std.ExtTreeMap.mem_toList_iff_getElem?_eq_some.mpr hr)
      (beq_self_eq_true row.token)
    rintro ⟨other, found⟩ hd hk
    have hd : t.tokens[other]? = some found := Std.ExtTreeMap.mem_toList_iff_getElem?_eq_some.mp hd
    have hid : other = id := h.token_unique hd hr (beq_iff_eq.mp hk)
    rw [hid, hr] at hd
    rw [hid, Option.some.inj hd]
  have hid : row.userId = id := h.token_id hr
  have hkey : (row.used now).userId = id := hid
  rw [useToken, hf, Tables.putToken, hkey]

theorem useToken_of_free {token : String} (hk : t.TokenFree token) (now : Instant) :
    t.useToken token now = (.error (.notFound tokenNamed), t) := by
  have hf : t.tokens.toList.find? (·.2.token == token) = none := by
    rw [List.find?_eq_none]
    rintro ⟨id, row⟩ hm
    simpa using hk (Std.ExtTreeMap.mem_toList_iff_getElem?_eq_some.mp hm)
  rw [useToken, hf]

end PlayerAccounts.Store.Tables
