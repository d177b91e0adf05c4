import PlayerAccounts.Proofs.Store.Writes
/-!
# What a removed user leaves behind

A user is added, all kinds of calls are made that concern nobody else, some of them refused, and the user
is removed: the tables are what they were. Removal does not undo the calls one by one. Each of them leaves
the rows of the others alone, and removal takes all that is left.
-/
namespace PlayerAccounts.Store
set_option autoImplicit false

open PlayerAccounts.Account

namespace Tables

/-! ## Calls that concern one user -/

/-- A call that names this user only. A login is only looked up or asked for, so it can be anybody's; a
token that is used is this user's, or nobody's, when the call is made. -/
def ConcernsOnly (t : Tables) (id : String) : Call → Prop
  | .addUser user => user.id = id
  | .findUser other | .amendUser other _ | .removeUser other | .credentialOfUser other
  | .revokeToken other => other = id
  | .setCredential c => c.userId = id
  | .credentialOfLogin _ => True
  | .issueToken other _ _ => other = id
  | .useToken token _ => ∀ owner ∈ t.ownersOfToken token, owner = id

instance (t : Tables) (id : String) : DecidablePred (t.ConcernsOnly id)
  | .addUser user => inferInstanceAs (Decidable (user.id = id))
  | .findUser other => inferInstanceAs (Decidable (other = id))
  | .amendUser other _ => inferInstanceAs (Decidable (other = id))
  | .removeUser other => inferInstanceAs (Decidable (other = id))
  | .credentialOfUser other => inferInstanceAs (Decidable (other = id))
  | .revokeToken other => inferInstanceAs (Decidable (other = id))
  | .setCredential c => inferInstanceAs (Decidable (c.userId = id))
  | .credentialOfLogin _ => inferInstanceAs (Decidable True)
  | .issueToken other _ _ => inferInstanceAs (Decidable (other = id))
  | .useToken token _ => inferInstanceAs (Decidable (∀ owner ∈ t.ownersOfToken token, owner = id))

/-- Calls made one after the other, each of which concerns this user only by the time it is made. -/
def KeepsTo (id : String) : Tables → List Call → Prop
  | _, [] => True
  | t, call :: calls => t.ConcernsOnly id call ∧ KeepsTo id (t.answer call).2 calls

instance decidableKeepsTo (id : String) : (t : Tables) → (calls : List Call) → Decidable (KeepsTo id t calls)
  | _, [] => .isTrue trivial
  | t, call :: calls =>
    have : Decidable (KeepsTo id (t.answer call).2 calls) := decidableKeepsTo id _ calls
    inferInstanceAs (Decidable (t.ConcernsOnly id call ∧ KeepsTo id (t.answer call).2 calls))

/-! ## The rows of the others -/

namespace SameButFor
variable {id : String} {t t' : Tables}

theorem credential (h : SameButFor id t t') {other : String} (hne : other ≠ id) :
    t'.credentials[other]? = t.credentials[other]? := congrArg Rows.credential (h other hne)

theorem token (h : SameButFor id t t') {other : String} (hne : other ≠ id) :
    t'.tokens[other]? = t.tokens[other]? := congrArg Rows.token (h other hne)

end SameButFor

variable {t : Tables} {id : String} {call : Call}

theorem Done.owner_of_concernsOnly {answer : Except StoreError call.Answer} {w : Write} (h : t.Sound)
    (hd : Done t call answer w) (hc : t.ConcernsOnly id call) {other : String}
    (ho : w.owner? = some other) : other = id := by
  cases hd <;> cases ho
  case userAmended hu => exact (h.user_id hu).trans hc
  case tokenUsed hr =>
    have howner : _ ∈ t.ownersOfToken _ := mem_ownersOfToken.mpr ⟨_, hr, rfl⟩
    exact (h.token_id hr).trans (hc _ howner)
  all_goals exact hc

theorem Sound.sameButFor_answer (h : t.Sound) (hc : t.ConcernsOnly id call) :
    SameButFor id t (t.answer call).2 := by
  obtain ⟨answer, w, hd⟩ := t.exists_done call
  rw [h.answer_of_done hd]
  exact Write.sameButFor_applyTo (fun _ ho => hd.owner_of_concernsOnly h hc ho) t

theorem Sound.sameButFor_after {calls : List Call} (h : t.Sound) (hk : KeepsTo id t calls) :
    SameButFor id t (t.after calls) := by
  -- Whom a call concerns is told by the tables that it is made on, so these are any sound ones.
  induction calls generalizing t with
  | nil => exact .refl t
  | cons call calls ih => exact (h.sameButFor_answer hk.1).trans (ih (h.answer call) hk.2)

theorem KeepsTo.of_append {before rest : List Call} (hk : KeepsTo id t (before ++ rest)) :
    KeepsTo id t before := by
  induction before generalizing t with
  | nil => trivial
  | cons call before ih => exact ⟨hk.1, ih hk.2⟩

/-! ## Removal -/

/-- Whether or not there was anybody to remove. -/
theorem Sound.after_removeUser (h : t.Sound) (id : String) : (t.answer (.removeUser id)).2 = t.without id := by
  by_cases hm : id ∈ t.users
  · exact congrArg Prod.snd (removeUser_of_mem hm)
  · exact (congrArg Prod.snd (removeUser_of_absent hm)).trans (h.without_absent hm).symm

section Freed
variable {t' : Tables} (h : t.Sound) (h' : t'.Sound) (hn : id ∉ t.users) (hs : SameButFor id t t')
include h h' hn hs

/-- A login that a newcomer has was nobody's before. -/
theorem SameButFor.loginFree {c : Credential} (hc : t'.credentials[id]? = some c) : t.LoginFree c.login := by
  intro other d hd he
  have hne : other ≠ id := fun hid => hn (hid ▸ h.credential_user hd)
  have hd' : t'.credentials[other]? = some d := (hs.credential hne).trans hd
  exact hne (h'.login_unique hd' hc he)

theorem SameButFor.tokenFree {row : SessionToken} (hr : t'.tokens[id]? = some row) : t.TokenFree row.token := by
  intro other found hf he
  have hne : other ≠ id := fun hid => hn (hid ▸ h.token_user hf)
  have hf' : t'.tokens[other]? = some found := (hs.token hne).trans hf
  exact hne (h'.token_unique hf' hr he)

end Freed

end Tables

/-! ## The result -/

/-- Nothing is left of a user who was added and then removed, whatever was called for that user meanwhile.
No row of another user has moved at any time, and each login and each token that the user had at some time
is free again. -/
theorem account_leaves_no_residue {t : Tables} (h : t.Sound) (user : User) (hn : user.id ∉ t.users)
    {calls : List Call} (hk : Tables.KeepsTo user.id (t.answer (.addUser user)).2 calls) :
    let final := t.after (.addUser user :: calls ++ [.removeUser user.id])
    final = t ∧ ∀ before rest, calls = before ++ rest →
      let meanwhile := t.after (.addUser user :: before)
      t.SameButFor user.id meanwhile ∧
        (∀ c, meanwhile.credentials[user.id]? = some c → final.LoginFree c.login) ∧
        (∀ row, meanwhile.tokens[user.id]? = some row → final.TokenFree row.token) := by
  intro final
  have hkept {before : List Call} (hb : Tables.KeepsTo user.id (t.answer (.addUser user)).2 before) :
      t.SameButFor user.id (t.after (.addUser user :: before)) :=
    h.sameButFor_after ⟨rfl, hb⟩
  have hfinal : final = t := by
    have hlast : final = (t.after (.addUser user :: calls)).without user.id := by
      rw [← (h.after _).after_removeUser]
      exact Tables.after_append t (.addUser user :: calls) [.removeUser user.id]
    exact hlast.trans (h.without_of_sameButFor hn (hkept hk))
  refine ⟨hfinal, ?_⟩
  rintro before rest rfl meanwhile
  have hsame : t.SameButFor user.id meanwhile := hkept hk.of_append
  have hsound : meanwhile.Sound := h.after _
  rw [hfinal]
  exact ⟨hsame, fun _ hc => hsame.loginFree h hsound hn hc, fun _ hr => hsame.tokenFree h hsound hn hr⟩

/-- Bob, with a login and a token. -/
def bobAtHome : List Call :=
  [.addUser (User.fresh "bob" default none), .setCredential ⟨"bob", "Bob", "hash", "salt"⟩,
    .issueToken "bob" "B" default]

/-- What Ann does: she is refused Bob's login and Bob's token, has a login and a token replaced, goes and
comes back, and tries a token that she had given up. -/
def annsStay : List Call :=
  [.setCredential ⟨"ann", "Bob", "hash", "salt"⟩, .setCredential ⟨"ann", "Ann", "hash", "salt"⟩,
    .setCredential ⟨"ann", "Anna", "hash", "salt"⟩, .issueToken "ann" "B" default,
    .issueToken "ann" "A" default, .useToken "A" default, .issueToken "ann" "A2" default,
    .useToken "A" default, .removeUser "ann", .addUser (User.fresh "ann" default none),
    .amendUser "ann" (.touch default), .credentialOfLogin "Bob", .issueToken "ann" "A" default,
    .setCredential ⟨"ann", "Ann", "hash", "salt"⟩, .revokeToken "ann"]

theorem annsStay_leaves_no_residue :
    let t := Tables.empty.after bobAtHome
    let final := t.after (.addUser (User.fresh "ann" default none) :: annsStay ++ [.removeUser "ann"])
    (t.Sound ∧ "ann" ∉ t.users) ∧ final = t ∧ ∀ before rest, annsStay = before ++ rest →
      let meanwhile := t.after (.addUser (User.fresh "ann" default none) :: before)
      t.SameButFor "ann" meanwhile ∧
        (∀ c, meanwhile.credentials["ann"]? = some c → final.LoginFree c.login) ∧
        (∀ row, meanwhile.tokens["ann"]? = some row → final.TokenFree row.token) := by
  intro t
  have h : t.Sound := Tables.Sound.empty.after bobAtHome
  have hn : "ann" ∉ t.users := by subst t; decide +kernel
  have hk : Tables.KeepsTo "ann" (t.answer (.addUser (User.fresh "ann" default none))).2 annsStay := by
    subst t
    decide +kernel
  exact ⟨⟨h, hn⟩, account_leaves_no_residue h (User.fresh "ann" default none) hn hk⟩

end PlayerAccounts.Store
