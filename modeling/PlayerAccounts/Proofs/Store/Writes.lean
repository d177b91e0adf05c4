import PlayerAccounts.Proofs.Store.Runs
/-!
# What calls write

A call to the store in memory puts or takes away rows of one user at most. `Done` lists what a call can
come to, with the rows that make it so, the answer and the write; the theory of two calls, or of many, goes
by this list.
-/
namespace PlayerAccounts.Store
set_option autoImplicit false

open PlayerAccounts.Account
open PlayerAccounts.Time (Instant)

/-! ## Writes -/

/-- What a call does to the tables. -/
inductive Write where
  | nothing
  | user (row : User)
  | credential (row : Credential)
  | token (row : SessionToken)
  | removal (id : String)
  | revocation (id : String)

namespace Write

def applyTo (t : Tables) : Write → Tables
  | nothing => t
  | user row => t.putUser row
  | credential row => t.putCredential row
  | token row => t.putToken row
  | removal id => t.without id
  | revocation id => t.revokeToken id

/-- The user whose rows are written. -/
def owner? : Write → Option String
  | nothing => none
  | user row => some row.id
  | credential row => some row.userId
  | token row => some row.userId
  | removal id => some id
  | revocation id => some id

/-- The rows of that user after the write. -/
def onRows (rows : Rows) : Write → Rows
  | nothing => rows
  | user row => { rows with user := some row }
  | credential row => { rows with credential := some row }
  | token row => { rows with token := some row }
  | removal _ => ⟨none, none, none⟩
  | revocation _ => { rows with token := none }

theorem rowsOf_applyTo (w : Write) (t : Tables) (id : String) :
    (w.applyTo t).rowsOf id = if w.owner? = some id then w.onRows (t.rowsOf id) else t.rowsOf id := by
  cases w with
  | nothing => rfl
  | user row =>
    simp only [applyTo, owner?, onRows, Tables.rowsOf, Tables.users_putUser, Option.some.injEq]
    split <;> rfl
  | credential row =>
    simp only [applyTo, owner?, onRows, Tables.rowsOf, Tables.credentials_putCredential, Option.some.injEq]
    split <;> rfl
  | token row =>
    simp only [applyTo, owner?, onRows, Tables.rowsOf, Tables.tokens_putToken, Option.some.injEq]
    split <;> rfl
  | removal other =>
    simp only [applyTo, owner?, onRows, Tables.rowsOf, Tables.users_without, Tables.credentials_without,
      Tables.tokens_without, Option.some.injEq]
    split <;> rfl
  | revocation other =>
    simp only [applyTo, owner?, onRows, Tables.rowsOf, Tables.tokens_revokeToken, Option.some.injEq]
    split <;> rfl

theorem sameButFor_applyTo {w : Write} {id : String} (h : ∀ other, w.owner? = some other → other = id)
    (t : Tables) : Tables.SameButFor id t (w.applyTo t) := by
  intro other hne
  rw [rowsOf_applyTo, if_neg fun ho => hne (h other ho)]

/-- Writes to the rows of different users can be made in either order. -/
theorem applyTo_comm {w w' : Write} (h : ∀ id, w.owner? = some id → w'.owner? ≠ some id) (t : Tables) :
    w'.applyTo (w.applyTo t) = w.applyTo (w'.applyTo t) := by
  refine Tables.ext_rowsOf fun id => ?_
  simp only [rowsOf_applyTo]
  by_cases ho : w.owner? = some id
  · simp [ho, h id ho]
  · simp [ho]

end Write

/-! ## What calls come to -/

namespace Tables

/-- What a call on these tables can come to: the rows that make it so, the answer, and the write. -/
inductive Done (t : Tables) : (call : Call) → Except StoreError call.Answer → Write → Prop where
  | userAdded {user : User} : user.id ∉ t.users → Done t (.addUser user) (.ok user) (.user user)
  | userKnown {user : User} : user.id ∈ t.users →
      Done t (.addUser user) (.error (.duplicate (keyNamed user.id))) .nothing
  | userFound {id : String} {user : User} : t.users[id]? = some user →
      Done t (.findUser id) (.ok user) .nothing
  | userMissing {id : String} : id ∉ t.users →
      Done t (.findUser id) (.error (.notFound (userNamed id))) .nothing
  | userAmended {id : String} {changes : Changes} {user : User} : t.users[id]? = some user →
      Done t (.amendUser id changes) (.ok (user.apply changes)) (.user (user.apply changes))
  | noneAmended {id : String} {changes : Changes} : id ∉ t.users →
      Done t (.amendUser id changes) (.error (.notFound (userNamed id))) .nothing
  | userRemoved {id : String} : id ∈ t.users → Done t (.removeUser id) (.ok ()) (.removal id)
  | noneRemoved {id : String} : id ∉ t.users →
      Done t (.removeUser id) (.error (.notFound (userNamed id))) .nothing
  | credentialSet {c : Credential} : c.userId ∈ t.users → t.LoginFreeFor c.userId c.login →
      Done t (.setCredential c) (.ok c) (.credential c)
  | loginTaken {c : Credential} : c.userId ∈ t.users → ¬ t.LoginFreeFor c.userId c.login →
      Done t (.setCredential c) (.error (.duplicate (loginNamed c.login))) .nothing
  | credentialOfNobody {c : Credential} : c.userId ∉ t.users →
      Done t (.setCredential c) (.error (.unknownUser (userNamed c.userId))) .nothing
  | loginFound {id : String} {c : Credential} : t.credentials[id]? = some c →
      Done t (.credentialOfLogin c.login) (.ok c) .nothing
  | loginMissing {login : String} : t.LoginFree login →
      Done t (.credentialOfLogin login) (.error (.notFound (loginNamed login))) .nothing
  | credentialFound {id : String} {c : Credential} : t.credentials[id]? = some c →
      Done t (.credentialOfUser id) (.ok c) .nothing
  | credentialMissing {id : String} : t.credentials[id]? = none →
      Done t (.credentialOfUser id) (.error (.notFound (credentialNamed id))) .nothing
  | tokenIssued {id token : String} {now : Instant} : id ∈ t.users → t.TokenFreeFor id token →
      Done t (.issueToken id token now) (.ok (.issued id token now)) (.token (.issued id token now))
  | tokenTaken {id token : String} {now : Instant} : id ∈ t.users → ¬ t.TokenFreeFor id token →
      Done t (.issueToken id token now) (.error (.duplicate tokenNamed)) .nothing
  | tokenOfNobody {id token : String} {now : Instant} : id ∉ t.users →
      Done t (.issueToken id token now) (.error (.unknownUser (userNamed id))) .nothing
  | tokenUsed {id : String} {row : SessionToken} {now : Instant} : t.tokens[id]? = some row →
      Done t (.useToken row.token now) (.ok (row.used now)) (.token (row.used now))
  | tokenMissing {token : String} {now : Instant} : t.TokenFree token →
      Done t (.useToken token now) (.error (.notFound tokenNamed)) .nothing
  | tokenRevoked {id : String} : Done t (.revokeToken id) (.ok ()) (.revocation id)

namespace Sound
variable {t : Tables} {call : Call} {answer : Except StoreError call.Answer} {w : Write}

theorem answer_of_done (h : Sound t) (hd : Done t call answer w) : t.answer call = (answer, w.applyTo t) := by
  cases hd with
  | userAdded hn => exact addUser_of_new hn
  | userKnown hm => exact addUser_of_known hm
  | userFound hu => rw [Tables.answer, findUser_of_row hu]; rfl
  | userMissing hn => rw [Tables.answer, findUser_of_absent hn]; rfl
  | userAmended hu => exact h.amendUser_of_row hu _
  | noneAmended hn => exact amendUser_of_absent hn _
  | userRemoved hm => exact removeUser_of_mem hm
  | noneRemoved hn => exact removeUser_of_absent hn
  | credentialSet hm hl => exact h.setCredential_of_free hm hl
  | loginTaken hm hl => exact h.setCredential_of_taken hm hl
  | credentialOfNobody hn => exact setCredential_of_absent hn
  | loginFound hc => rw [Tables.answer, h.credentialOfLogin_of_row hc]; rfl
  | loginMissing hl => rw [Tables.answer, credentialOfLogin_of_free hl]; rfl
  | credentialFound hc => exact answer_credentialOfUser_of_row hc
  | credentialMissing hn => rw [Tables.answer, credentialOfUser_of_none hn]; rfl
  | tokenIssued hm hk => exact h.issueToken_of_free hm hk _
  | tokenTaken hm hk => exact h.issueToken_of_taken hm hk _
  | tokenOfNobody hn => exact issueToken_of_absent hn _ _
  | tokenUsed hr => exact h.useToken_of_row hr _
  | tokenMissing hk => exact useToken_of_free hk _
  | tokenRevoked => rfl

theorem applyTo_of_done (h : Sound t) (hd : Done t call answer w) : Sound (w.applyTo t) := by
  have hsound := h.answer call
  rwa [h.answer_of_done hd] at hsound

end Sound

/-- The list is complete. -/
theorem exists_done (t : Tables) (call : Call) : ∃ answer w, Done t call answer w := by
  cases call with
  | addUser user =>
    by_cases hm : user.id ∈ t.users
    · exact ⟨_, _, .userKnown hm⟩
    · exact ⟨_, _, .userAdded hm⟩
  | findUser id =>
    by_cases hm : id ∈ t.users
    · obtain ⟨user, hu⟩ := exists_lookup_of_mem hm
      exact ⟨_, _, .userFound hu⟩
    · exact ⟨_, _, .userMissing hm⟩
  | amendUser id changes =>
    by_cases hm : id ∈ t.users
    · obtain ⟨user, hu⟩ := exists_lookup_of_mem hm
      exact ⟨_, _, .userAmended hu⟩
    · exact ⟨_, _, .noneAmended hm⟩
  | removeUser id =>
    by_cases hm : id ∈ t.users
    · exact ⟨_, _, .userRemoved hm⟩
    · exact ⟨_, _, .noneRemoved hm⟩
  | setCredential c =>
    by_cases hm : c.userId ∈ t.users
    · by_cases hl : t.LoginFreeFor c.userId c.login
      · exact ⟨_, _, .credentialSet hm hl⟩
      · exact ⟨_, _, .loginTaken hm hl⟩
    · exact ⟨_, _, .credentialOfNobody hm⟩
  | credentialOfLogin login =>
    rcases t.exists_login login with hfree | ⟨id, c, hc, rfl⟩
    · exact ⟨_, _, .loginMissing hfree⟩
    · exact ⟨_, _, .loginFound hc⟩
  | credentialOfUser id =>
    cases hc : t.credentials[id]? with
    | none => exact ⟨_, _, .credentialMissing hc⟩
    | some c => exact ⟨_, _, .credentialFound hc⟩
  | issueToken id token now =>
    by_cases hm : id ∈ t.users
    · by_cases hk : t.TokenFreeFor id token
      · exact ⟨_, _, .tokenIssued hm hk⟩
      · exact ⟨_, _, .tokenTaken hm hk⟩
    · exact ⟨_, _, .tokenOfNobody hm⟩
  | useToken token now =>
    rcases t.exists_token token with hfree | ⟨id, row, hr, rfl⟩
    · exact ⟨_, _, .tokenMissing hfree⟩
    · exact ⟨_, _, .tokenUsed hr⟩
  | revokeToken id => exact ⟨_, _, .tokenRevoked⟩

/-! ## Calls one after the other -/

/-- The tables after calls that are made one after the other. -/
def after (t : Tables) (calls : List Call) : Tables := calls.foldl (fun t call => (t.answer call).2) t

theorem after_append (t : Tables) (calls more : List Call) :
    t.after (calls ++ more) = (t.after calls).after more := List.foldl_append

theorem Sound.after {t : Tables} (h : Sound t) (calls : List Call) : Sound (t.after calls) := by
  induction calls generalizing t with
  | nil => exact h
  | cons call calls ih => exact ih (h.answer call)

/-! ## Owners -/

/-- The users who have a login; there is one at most. -/
def ownersOfLogin (t : Tables) (login : String) : List String :=
  (t.credentials.toList.filter fun row => row.2.login == login).map Prod.fst

/-- The users who have a token; there is one at most. -/
def ownersOfToken (t : Tables) (token : String) : List String :=
  (t.tokens.toList.filter fun row => row.2.token == token).map Prod.fst

variable {t : Tables} {id : String}

theorem mem_ownersOfLogin {login : String} :
    id ∈ t.ownersOfLogin login ↔ ∃ c, t.credentials[id]? = some c ∧ c.login = login := by
  simp [ownersOfLogin, Std.ExtTreeMap.mem_toList_iff_getElem?_eq_some]

theorem mem_ownersOfToken {token : String} :
    id ∈ t.ownersOfToken token ↔ ∃ row, t.tokens[id]? = some row ∧ row.token = token := by
  simp [ownersOfToken, Std.ExtTreeMap.mem_toList_iff_getElem?_eq_some]

theorem loginFree_of_no_owner {login : String} (h : t.ownersOfLogin login = []) : t.LoginFree login :=
  fun hc hl => List.not_mem_nil (h ▸ mem_ownersOfLogin.mpr ⟨_, hc, hl⟩)

theorem tokenFree_of_no_owner {token : String} (h : t.ownersOfToken token = []) : t.TokenFree token :=
  fun hr he => List.not_mem_nil (h ▸ mem_ownersOfToken.mpr ⟨_, hr, he⟩)

end Tables
end PlayerAccounts.Store
