import Mathlib.Order.Defs.LinearOrder
import PlayerAccounts.Proofs.Store.Rows
import PlayerAccounts.Proofs.Time.Order
/-!
# Sound tables

The constraints of the store in memory: every row stands under its own id, credentials and session
tokens belong to a user who is there, logins and tokens are unique, and no token was last used before it
was issued. Each operation is told by what it finds and puts, and keeps all of them.
-/
namespace PlayerAccounts.Store.Tables
set_option autoImplicit false

open PlayerAccounts.Account
open PlayerAccounts.Time (Instant)

/-! ## The constraints -/

/-- The constraints that the tables keep. -/
structure Sound (t : Tables) : Prop where
  user_id : ∀ {id : String} {user : User}, t.users[id]? = some user → user.id = id
  credential_id : ∀ {id : String} {c : Credential}, t.credentials[id]? = some c → c.userId = id
  token_id : ∀ {id : String} {row : SessionToken}, t.tokens[id]? = some row → row.userId = id
  credential_user : ∀ {id : String} {c : Credential}, t.credentials[id]? = some c → id ∈ t.users
  token_user : ∀ {id : String} {row : SessionToken}, t.tokens[id]? = some row → id ∈ t.users
  login_unique : ∀ {id other : String} {c d : Credential}, t.credentials[id]? = some c →
    t.credentials[other]? = some d → c.login = d.login → id = other
  token_unique : ∀ {id other : String} {row found : SessionToken}, t.tokens[id]? = some row →
    t.tokens[other]? = some found → row.token = found.token → id = other
  created_le : ∀ {id : String} {row : SessionToken}, t.tokens[id]? = some row →
    row.created ≤ row.lastUsed

/-- Nobody has the login. -/
def LoginFree (t : Tables) (login : String) : Prop :=
  ∀ {id : String} {c : Credential}, t.credentials[id]? = some c → c.login ≠ login

/-- Nobody has the token. -/
def TokenFree (t : Tables) (token : String) : Prop :=
  ∀ {id : String} {row : SessionToken}, t.tokens[id]? = some row → row.token ≠ token

/-- No user but this one has the login. -/
def LoginFreeFor (t : Tables) (id login : String) : Prop :=
  ∀ {other : String} {c : Credential}, t.credentials[other]? = some c → c.login = login → id = other

/-- No user but this one has the token. -/
def TokenFreeFor (t : Tables) (id token : String) : Prop :=
  ∀ {other : String} {row : SessionToken}, t.tokens[other]? = some row → row.token = token → id = other

theorem exists_login (t : Tables) (login : String) :
    t.LoginFree login ∨ ∃ (id : String) (c : Credential), t.credentials[id]? = some c ∧ c.login = login := by
  by_cases hc : ∃ (id : String) (c : Credential), t.credentials[id]? = some c ∧ c.login = login
  · exact .inr hc
  · exact .inl fun {id c} hid hl => hc ⟨id, c, hid, hl⟩

theorem exists_token (t : Tables) (token : String) :
    t.TokenFree token ∨
      ∃ (id : String) (row : SessionToken), t.tokens[id]? = some row ∧ row.token = token := by
  by_cases hk : ∃ (id : String) (row : SessionToken), t.tokens[id]? = some row ∧ row.token = token
  · exact .inr hk
  · exact .inl fun {id row} hid he => hk ⟨id, row, hid, he⟩

namespace Sound
variable {t : Tables}

theorem empty : Sound Tables.empty := by
  constructor <;> simp [Tables.empty]

/-- Somebody who is not there has no rows at all. -/
theorem rowsOf_absent (h : Sound t) {id : String} (hn : id ∉ t.users) :
    t.rowsOf id = ⟨none, none, none⟩ := by
  have hcredential : t.credentials[id]? = none :=
    Option.eq_none_iff_forall_ne_some.mpr fun _ hc => hn (h.credential_user hc)
  have htoken : t.tokens[id]? = none :=
    Option.eq_none_iff_forall_ne_some.mpr fun _ hr => hn (h.token_user hr)
  rw [rowsOf, lookup_of_not_mem hn, hcredential, htoken]

/-! ## What keeps them -/

theorem putUser (h : Sound t) (user : User) : Sound (t.putUser user) where
  user_id {id found} hf := by
    rw [users_putUser] at hf
    split at hf
    · rename_i hid
      rw [← Option.some.inj hf]
      exact hid
    · exact h.user_id hf
  credential_id := h.credential_id
  token_id := h.token_id
  credential_user hc := (mem_putUser ..).mpr (.inr (h.credential_user hc))
  token_user hr := (mem_putUser ..).mpr (.inr (h.token_user hr))
  login_unique := h.login_unique
  token_unique := h.token_unique
  created_le := h.created_le

theorem putCredential (h : Sound t) {c : Credential} (hu : c.userId ∈ t.users)
    (hl : t.LoginFreeFor c.userId c.login) : Sound (t.putCredential c) where
  user_id := h.user_id
  credential_id {id d} hf := by
    rw [credentials_putCredential] at hf
    split at hf
    · rename_i hid
      rw [← Option.some.inj hf]
      exact hid
    · exact h.credential_id hf
  token_id := h.token_id
  credential_user {id d} hf := by
    rw [credentials_putCredential] at hf
    split at hf
    · rename_i hid
      exact hid ▸ hu
    · exact h.credential_user hf
  token_user := h.token_user
  login_unique {id other d e} hf hg he := by
    rw [credentials_putCredential] at hf hg
    split at hf <;> split at hg <;> rename_i hid hother
    · rw [← hid, ← hother]
    · rw [← Option.some.inj hf] at he
      exact hid ▸ hl hg he.symm
    · rw [← Option.some.inj hg] at he
      exact hother ▸ (hl hf he).symm
    · exact h.login_unique hf hg he
  token_unique := h.token_unique
  created_le := h.created_le

theorem putToken (h : Sound t) (row : SessionToken) (hu : row.userId ∈ t.users)
    (hk : t.TokenFreeFor row.userId row.token) (hc : row.created ≤ row.lastUsed) :
    Sound (t.putToken row) where
  user_id := h.user_id
  credential_id := h.credential_id
  token_id {id found} hf := by
    rw [tokens_putToken] at hf
    split at hf
    · rename_i hid
      rw [← Option.some.inj hf]
      exact hid
    · exact h.token_id hf
  credential_user := h.credential_user
  token_user {id found} hf := by
    rw [tokens_putToken] at hf
    split at hf
    · rename_i hid
      exact hid ▸ hu
    · exact h.token_user hf
  login_unique := h.login_unique
  token_unique {id other found found'} hf hg he := by
    rw [tokens_putToken] at hf hg
    split at hf <;> split at hg <;> rename_i hid hother
    · rw [← hid, ← hother]
    · rw [← Option.some.inj hf] at he
      exact hid ▸ hk hg he.symm
    · rw [← Option.some.inj hg] at he
      exact hother ▸ (hk hf he).symm
    · exact h.token_unique hf hg he
  created_le {id found} hf := by
    rw [tokens_putToken] at hf
    split at hf
    · rw [← Option.some.inj hf]
      exact hc
    · exact h.created_le hf

theorem putUsed (h : Sound t) {id : String} {row : SessionToken} (hr : t.tokens[id]? = some row)
    (now : Instant) : Sound (t.putToken (row.used now)) := by
  have hid : row.userId = id := h.token_id hr
  have hfree : t.TokenFreeFor row.userId row.token := fun hf he =>
    hid.trans (h.token_unique hr hf he.symm)
  have hle : row.created ≤ row.lastUsedAfter now := le_max_right _ _
  exact h.putToken (row.used now) (hid ▸ h.token_user hr) hfree hle

/-- Tables that lose rows stay sound, if no user is lost whose other rows stay. -/
theorem of_fewer_rows (h : Sound t) {t' : Tables}
    (hu : ∀ {id : String} {user : User}, t'.users[id]? = some user → t.users[id]? = some user)
    (hc : ∀ {id : String} {c : Credential}, t'.credentials[id]? = some c →
      t.credentials[id]? = some c ∧ (id ∈ t.users → id ∈ t'.users))
    (hk : ∀ {id : String} {row : SessionToken}, t'.tokens[id]? = some row →
      t.tokens[id]? = some row ∧ (id ∈ t.users → id ∈ t'.users)) : Sound t' where
  user_id hf := h.user_id (hu hf)
  credential_id hf := h.credential_id (hc hf).1
  token_id hf := h.token_id (hk hf).1
  credential_user hf := (hc hf).2 (h.credential_user (hc hf).1)
  token_user hf := (hk hf).2 (h.token_user (hk hf).1)
  login_unique hf hg := h.login_unique (hc hf).1 (hc hg).1
  token_unique hf hg := h.token_unique (hk hf).1 (hk hg).1
  created_le hf := h.created_le (hk hf).1

theorem without (h : Sound t) (id : String) : Sound (t.without id) := by
  refine h.of_fewer_rows ?_ ?_ ?_
  · intro other user hf
    rw [users_without] at hf
    exact (Option.ite_none_left_eq_some.mp hf).2
  · intro other c hf
    rw [credentials_without] at hf
    obtain ⟨hid, hf⟩ := Option.ite_none_left_eq_some.mp hf
    exact ⟨hf, fun hm => (mem_without ..).mpr ⟨hid, hm⟩⟩
  · intro other row hf
    rw [tokens_without] at hf
    obtain ⟨hid, hf⟩ := Option.ite_none_left_eq_some.mp hf
    exact ⟨hf, fun hm => (mem_without ..).mpr ⟨hid, hm⟩⟩

/-- Somebody who was not there is gone without a trace when no row of the others has moved since. -/
theorem without_of_sameButFor (h : Sound t) {id : String} {t' : Tables} (hn : id ∉ t.users)
    (hs : SameButFor id t t') : t'.without id = t := by
  refine ext_rowsOf fun other => ?_
  by_cases hid : other = id
  · rw [hid, rowsOf_without, h.rowsOf_absent hn]
  · exact hs.without other hid

/-- To remove a user who has just been added is to undo it. -/
theorem without_putUser (h : Sound t) {user : User} (hn : user.id ∉ t.users) :
    (t.putUser user).without user.id = t :=
  h.without_of_sameButFor hn ((SameButFor.refl t).putUser rfl)

/-- Nothing goes with somebody who is not there. -/
theorem without_absent (h : Sound t) {id : String} (hn : id ∉ t.users) : t.without id = t :=
  h.without_of_sameButFor hn (SameButFor.refl t)

/-- A row that is put where it is changes nothing. -/
theorem putUser_row (h : Sound t) {id : String} {user : User} (hu : t.users[id]? = some user) :
    t.putUser user = t := by
  have hkey : user.id = id := h.user_id hu
  refine ext_rowsOf fun other => ?_
  by_cases hid : other = user.id
  · rw [hid, rowsOf_putUser user rfl, rowsOf, hkey, hu]
  · exact (SameButFor.refl t).putUser rfl other hid

theorem revokeToken (h : Sound t) (id : String) : Sound (t.revokeToken id) := by
  refine h.of_fewer_rows (fun hf => hf) (fun hf => ⟨hf, fun hm => hm⟩) ?_
  intro other row hf
  rw [tokens_revokeToken] at hf
  exact ⟨(Option.ite_none_left_eq_some.mp hf).2, fun hm => hm⟩

end Sound
end PlayerAccounts.Store.Tables
