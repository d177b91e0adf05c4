import PlayerAccounts.Proofs.Service.Lifecycle
/-!
# The life of a credential

A login is held by the user who was registered with it last, until that user is removed. The password of
a user is the one given at registration or at the last change. What was performed in a run says who holds
which login, and a login with a password lets in the holder, for that password.
-/
namespace PlayerAccounts.Service
set_option autoImplicit false

open PlayerAccounts.Account
open PlayerAccounts.Store

/-! ## What a step does to credentials -/

namespace Performed

/-- The user and the login of a registration that succeeded. -/
def newHolder? : Performed → Option (String × String)
  | ⟨.register r, .ok session⟩ => some (session.user.id, r.login)
  | _ => none

/-- The user to whom the step gave a password, at registration or later, and the password. -/
def newPassword? : Performed → Option (String × String)
  | ⟨.register r, .ok session⟩ => some (session.user.id, r.password)
  | ⟨.changePassword userId r, .ok _⟩ => some (userId, r.newPassword)
  | _ => none

/-- The user whom the step removed. -/
def removed? : Performed → Option String
  | ⟨.deleteUser userId, .ok _⟩ => some userId
  | _ => none

theorem newPassword_of_newHolder {id login : String} {step : Performed}
    (h : step.newHolder? = some (id, login)) : ∃ password, step.newPassword? = some (id, password) := by
  obtain ⟨operation, result⟩ := step
  cases operation with
  | register r =>
    cases result with
    | ok session => exact ⟨r.password, congrArg (fun id => some (id, r.password)) (by cases h; rfl)⟩
    | error e => cases h
  | _ => cases h

theorem operation_of_removed {op : Operation} {result : Except ServiceError op.Answer} {id : String}
    (h : removed? ⟨op, result⟩ = some id) : op = .deleteUser id := by
  cases op with
  | deleteUser userId =>
    cases result with
    | ok _ => exact congrArg Operation.deleteUser (Option.some.inj h)
    | error e => cases h
  | _ => cases h

end Performed

/-- The user was registered with the login and has not been removed since. -/
def Holder (steps : List Performed) (id login : String) : Prop :=
  Since (fun step => step.newHolder? = some (id, login)) (fun step => step.removed? = some id) steps

/-- The password is the one that the user was given last, and the user has not been removed since. -/
def CurrentPassword (steps : List Performed) (id password : String) : Prop :=
  Since (fun step => step.newPassword? = some (id, password))
    (fun step => step.removed? = some id ∨ step.newPassword?.map Prod.fst = some id) steps

instance (steps : List Performed) (id login : String) : Decidable (Holder steps id login) :=
  inferInstanceAs (Decidable (Since _ _ steps))

instance (steps : List Performed) (id password : String) : Decidable (CurrentPassword steps id password) :=
  inferInstanceAs (Decidable (Since _ _ steps))

theorem map_fst_eq_some {found : Option (String × String)} {id : String} :
    found.map Prod.fst = some id ↔ ∃ other, found = some (id, other) := by
  simp [Option.map_eq_some_iff]

/-- Every holder of a login has one current password. -/
theorem existsUnique_currentPassword {steps : List Performed} {id login : String}
    (h : Holder steps id login) : ∃! password, CurrentPassword steps id password := by
  -- The registration gave a password too, so there is a last step that gave one; and there is only one
  -- such step, after which neither another password nor the removal came.
  have hlast : Since (fun step => step.newPassword?.map Prod.fst = some id) _ steps :=
    h.latest fun _ hr => map_fst_eq_some.mpr (Performed.newPassword_of_newHolder hr)
  simp only [map_fst_eq_some] at hlast
  obtain ⟨password, hcurrent⟩ := since_exists.mp hlast
  simp only [← map_fst_eq_some] at hcurrent
  refine ⟨password, hcurrent, fun other hother => ?_⟩
  obtain ⟨step, -, hp, hq⟩ := hother.common (fun _ hp => .inr (map_fst_eq_some.mpr ⟨other, hp⟩))
    (fun _ hp => .inr (map_fst_eq_some.mpr ⟨password, hp⟩)) hcurrent
  exact (Prod.mk.inj (Option.some.inj (hp.symm.trans hq))).2

/-! ## One step -/

/-- The session token of the occasion is nobody's. -/
def FreshToken (t : Tables) (o : Occasion) : Prop := t.TokenFree o.token

/-- What is known of the credentials after a step: they are as before, or the step put or took away the
credential of one user. -/
inductive StepOnCredentials (sealer : Sealer) (o : Occasion) (t : Tables) : Performed → Tables → Prop where
  | quiet {step : Performed} {t' : Tables} : step.newHolder? = none → step.newPassword? = none →
      step.removed? = none → t'.credentials = t.credentials → StepOnCredentials sealer o t step t'
  | registered {r : Api.Registration} {session : Api.Session} {c : Credential} {t' : Tables} :
      session.user.id = c.userId → c.userId ∉ t.users → r.login = c.login →
      hashPassword sealer.cost r.password c.salt = .ok c.hash →
      t'.credentials = t.credentials.insert c.userId c →
      StepOnCredentials sealer o t ⟨.register r, .ok session⟩ t'
  | resealed {r : Api.PasswordChange} {c d : Credential} {t' : Tables} :
      t.credentials[c.userId]? = some d → d.login = c.login →
      hashPassword sealer.cost r.newPassword c.salt = .ok c.hash →
      t'.credentials = t.credentials.insert c.userId c →
      StepOnCredentials sealer o t ⟨.changePassword c.userId r, .ok ()⟩ t'
  | removed {id : String} {t' : Tables} : t'.credentials = t.credentials.erase id →
      StepOnCredentials sealer o t ⟨.deleteUser id, .ok ()⟩ t'

section Step
variable {t : Tables} (h : t.Sound) (sealer : Sealer) (o : Occasion)
include h

theorem register_credentials (hfresh : FreshToken t o) (r : Api.Registration) :
    StepOnCredentials sealer o t ⟨.register r, ((register sealer o r).eval t).1⟩
      ((register sealer o r).eval t).2 := by
  have hout := register_outcome h sealer o r
  generalize (register sealer o r).eval t = result at hout
  cases hout with
  | @registered secret _ _ _ hfree hseal hnew hissued =>
    cases hissued with
    | unwanted _ => exact .registered rfl hnew rfl (hash_of_sealPassword hseal) rfl
    -- Here the account would be there without a success to show for it.
    | taken _ hk => exact (hk fun hf he => absurd he (hfresh hf)).elim
    | issued _ _ => exact .registered rfl hnew rfl (hash_of_sealPassword hseal) rfl
  | _ => exact .quiet rfl rfl rfl rfl

theorem changePassword_credentials (user : String) (r : Api.PasswordChange) :
    StepOnCredentials sealer o t ⟨.changePassword user r, ((changePassword sealer o user r).eval t).1⟩
      ((changePassword sealer o user r).eval t).2 := by
  have hout := changePassword_outcome h sealer o user r
  generalize (changePassword sealer o user r).eval t = result at hout
  cases hout with
  | @changed d secret _ hd _ hseal =>
    exact .resealed (c := ⟨user, d.login, secret.hash, secret.salt⟩) hd rfl
      (hash_of_sealPassword hseal) rfl
  | _ => exact .quiet rfl rfl rfl rfl

theorem loginWithPassword_credentials (r : Api.PasswordLogin) :
    ((loginWithPassword o r).eval t).2.credentials = t.credentials := by
  have hout := loginWithPassword_outcome h o r
  generalize (loginWithPassword o r).eval t = result at hout
  cases hout with
  | granted _ _ _ _ hissued => cases hissued <;> rfl
  | _ => rfl

theorem updateUser_credentials (user : String) (request : UserUpdate) :
    ((updateUser user request).eval t).2.credentials = t.credentials := by
  have hout := updateUser_outcome h user request
  generalize (updateUser user request).eval t = result at hout
  cases hout <;> rfl

/-- Only for a registration does it matter whether the token is nobody's. -/
theorem perform_credentials_of {op : Operation} (hfresh : ∀ r, op = .register r → FreshToken t o) :
    StepOnCredentials sealer o t (perform sealer t o op).1 (perform sealer t o op).2 := by
  cases op with
  | register r => exact register_credentials h sealer o (hfresh r rfl) r
  | changePassword user r => exact changePassword_credentials h sealer o user r
  | deleteUser user =>
    rcases deleteUser_outcome t user with ⟨_, hres⟩ | ⟨_, hres⟩
    · change StepOnCredentials sealer o t ⟨.deleteUser user, ((deleteUser user).eval t).1⟩
        ((deleteUser user).eval t).2
      rw [hres]
      exact .removed rfl
    · change StepOnCredentials sealer o t ⟨.deleteUser user, ((deleteUser user).eval t).1⟩
        ((deleteUser user).eval t).2
      rw [hres]
      exact .quiet rfl rfl rfl rfl
  | loginWithPassword r =>
    exact .quiet rfl rfl rfl (loginWithPassword_credentials h o r)
  | updateUser user request =>
    exact .quiet rfl rfl rfl (updateUser_credentials h user request)
  | updateProfile user edit =>
    exact .quiet rfl rfl rfl (updateUser_credentials h user edit.update)
  | logout user => exact .quiet rfl rfl rfl rfl
  | isLoginFree login =>
    refine .quiet rfl rfl rfl ?_
    have hout := isLoginFree_outcome h login
    change ((isLoginFree login).eval t).2.credentials = _
    generalize (isLoginFree login).eval t = result at hout
    cases hout <;> rfl
  | loginWithToken token =>
    refine .quiet rfl rfl rfl ?_
    have hout := loginWithToken_outcome h o token
    change ((loginWithToken o token).eval t).2.credentials = _
    generalize (loginWithToken o token).eval t = result at hout
    cases hout <;> rfl
  | validateToken token =>
    refine .quiet rfl rfl rfl ?_
    have hout := validateToken_outcome h o.first token
    change ((validateToken o.first token).eval t).2.credentials = _
    generalize (validateToken o.first token).eval t = result at hout
    cases hout <;> rfl
  | issueToken user =>
    refine .quiet rfl rfl rfl ?_
    have hout := issueToken_outcome h o user
    change ((issueToken o user).eval t).2.credentials = _
    generalize (issueToken o user).eval t = result at hout
    cases hout <;> rfl
  | getUser user =>
    refine .quiet rfl rfl rfl ?_
    change ((getUser user).eval t).2.credentials = _
    rcases getUser_outcome t user with ⟨_, _, hres⟩ | ⟨_, hres⟩ <;> rw [hres]

theorem perform_credentials (hfresh : FreshToken t o) (op : Operation) :
    StepOnCredentials sealer o t (perform sealer t o op).1 (perform sealer t o op).2 :=
  perform_credentials_of h sealer o fun _ _ => hfresh

end Step

/-! ## Runs -/

/-- The login of a user, if there is one. -/
def loginOf (t : Tables) (id : String) : Option String := t.credentials[id]?.map Credential.login

/-- The credential of the user was made from the password at the cost. -/
def SealedFor (cost : Nat) (t : Tables) (id password : String) : Prop :=
  ∃ c, t.credentials[id]? = some c ∧ hashPassword cost password c.salt = .ok c.hash

theorem loginOf_eq_some {t : Tables} {id login : String} :
    loginOf t id = some login ↔ ∃ c, t.credentials[id]? = some c ∧ c.login = login := by
  rw [loginOf, Option.map_eq_some_iff]

section Insert
variable {t t' : Tables} {c : Credential} {id : String}

theorem loginOf_insert (ht : t'.credentials = t.credentials.insert c.userId c) (id : String) :
    loginOf t' id = if c.userId = id then some c.login else loginOf t id := by
  rw [loginOf, ht, lookup_insert]
  split <;> rfl

/-- The credential of a newcomer changes nobody else's login. -/
theorem loginOf_newcomer {login : String} (hs : t.Sound) (hnew : c.userId ∉ t.users)
    (ht : t'.credentials = t.credentials.insert c.userId c) (hl : loginOf t id = some login) :
    loginOf t' id = some login := by
  have hne : c.userId ≠ id := by
    rintro rfl
    obtain ⟨d, hd, -⟩ := loginOf_eq_some.mp hl
    exact hnew (hs.credential_user hd)
  rwa [loginOf_insert ht, if_neg hne]

/-- A credential that is put in place of another one with the same login changes nobody's login. -/
theorem loginOf_reinsert {d : Credential} (hd : t.credentials[c.userId]? = some d)
    (hl : d.login = c.login) (ht : t'.credentials = t.credentials.insert c.userId c) (id : String) :
    loginOf t' id = loginOf t id := by
  rw [loginOf_insert ht]
  split
  · rename_i hid
    rw [← hid, loginOf, hd, Option.map_some, hl]
  · rfl

theorem sealedFor_insert {cost : Nat} {password : String}
    (ht : t'.credentials = t.credentials.insert c.userId c)
    (hh : hashPassword cost password c.salt = .ok c.hash) : SealedFor cost t' c.userId password := by
  refine ⟨c, ?_, hh⟩
  rw [ht, lookup_insert, if_pos rfl]

theorem SealedFor.insert_of_ne {cost : Nat} {password : String} (h : SealedFor cost t id password)
    (ht : t'.credentials = t.credentials.insert c.userId c) (hne : c.userId ≠ id) :
    SealedFor cost t' id password := by
  obtain ⟨d, hd, hh⟩ := h
  refine ⟨d, ?_, hh⟩
  rw [ht, lookup_insert, if_neg hne, hd]

end Insert

section Step
variable {sealer : Sealer} {o : Occasion} {t t' : Tables} {step : Performed} {id login password : String}

theorem StepOnCredentials.loginOf_of_newHolder (h : StepOnCredentials sealer o t step t')
    (hr : step.newHolder? = some (id, login)) : loginOf t' id = some login := by
  cases h with
  | quiet hno _ _ _ =>
    rw [hno] at hr
    cases hr
  | registered hid _ hl _ ht =>
    obtain ⟨rfl, rfl⟩ := Prod.mk.inj (Option.some.inj hr)
    rw [loginOf_insert ht, if_pos hid.symm, hl]
  | resealed _ _ _ _ => cases hr
  | removed _ => cases hr

theorem StepOnCredentials.loginOf_kept (hs : t.Sound) (h : StepOnCredentials sealer o t step t')
    (hl : loginOf t id = some login) (hr : step.removed? ≠ some id) : loginOf t' id = some login := by
  cases h with
  | quiet _ _ _ ht => rwa [loginOf, ht]
  | registered _ hnew _ _ ht => exact loginOf_newcomer hs hnew ht hl
  | resealed hd hlogin _ ht => rwa [loginOf_reinsert hd hlogin ht]
  | @removed user _ ht =>
    have hne : user ≠ id := fun he => hr (congrArg some he)
    rwa [loginOf, ht, lookup_erase, if_neg hne]

theorem StepOnCredentials.loginOf_cases (h : StepOnCredentials sealer o t step t')
    (hl : loginOf t' id = some login) :
    step.newHolder? = some (id, login) ∨ loginOf t id = some login ∧ step.removed? ≠ some id := by
  cases h with
  | quiet _ _ hno ht =>
    rw [loginOf, ht] at hl
    exact .inr ⟨hl, by simp [hno]⟩
  | @registered r session c _ hid _ hlogin _ ht =>
    rw [loginOf_insert ht] at hl
    split at hl
    · rename_i he
      have hnew : (session.user.id, r.login) = (id, login) :=
        Prod.ext (hid.trans he) (hlogin.trans (Option.some.inj hl))
      exact .inl (congrArg some hnew)
    · exact .inr ⟨hl, nofun⟩
  | resealed hd hlogin _ ht =>
    rw [loginOf_reinsert hd hlogin ht] at hl
    exact .inr ⟨hl, nofun⟩
  | @removed user _ ht =>
    rw [loginOf, ht, lookup_erase] at hl
    split at hl
    · cases hl
    · rename_i hne
      exact .inr ⟨hl, fun hremoved => hne (Option.some.inj hremoved)⟩

theorem StepOnCredentials.sealed_of_newPassword (h : StepOnCredentials sealer o t step t')
    (hg : step.newPassword? = some (id, password)) : SealedFor sealer.cost t' id password := by
  cases h with
  | quiet _ hno _ _ =>
    rw [hno] at hg
    cases hg
  | registered hid _ _ hh ht =>
    obtain ⟨rfl, rfl⟩ := Prod.mk.inj (Option.some.inj hg)
    rw [hid]
    exact sealedFor_insert ht hh
  | resealed _ _ hh ht =>
    obtain ⟨rfl, rfl⟩ := Prod.mk.inj (Option.some.inj hg)
    exact sealedFor_insert ht hh
  | removed _ => cases hg

theorem StepOnCredentials.sealed_kept (h : StepOnCredentials sealer o t step t')
    (hc : SealedFor sealer.cost t id password)
    (hq : ¬ (step.removed? = some id ∨ step.newPassword?.map Prod.fst = some id)) :
    SealedFor sealer.cost t' id password := by
  rw [not_or] at hq
  cases h with
  | quiet _ _ _ ht => rwa [SealedFor, ht]
  | registered hid _ _ _ ht =>
    exact hc.insert_of_ne ht fun he => hq.2 (congrArg some (hid.trans he))
  | resealed _ _ _ ht => exact hc.insert_of_ne ht fun he => hq.2 (congrArg some he)
  | @removed user _ ht =>
    have hne : user ≠ id := fun he => hq.1 (congrArg some he)
    rwa [SealedFor, ht, lookup_erase, if_neg hne]

theorem StepOnCredentials.all_sealed (h : StepOnCredentials sealer o t step t')
    (hall : ∀ id login, loginOf t id = some login → ∃ password, SealedFor sealer.cost t id password)
    (id login : String) (hl : loginOf t' id = some login) :
    ∃ password, SealedFor sealer.cost t' id password := by
  by_cases hg : step.newPassword?.map Prod.fst = some id
  · obtain ⟨password, hg⟩ := map_fst_eq_some.mp hg
    exact ⟨password, h.sealed_of_newPassword hg⟩
  · rcases h.loginOf_cases hl with hr | ⟨hl, hr⟩
    · exact absurd (map_fst_eq_some.mpr (Performed.newPassword_of_newHolder hr)) hg
    · obtain ⟨password, hc⟩ := hall id login hl
      exact ⟨password, h.sealed_kept hc (not_or.mpr ⟨hr, hg⟩)⟩

end Step

section Runs
variable {sealer : Sealer} {run : List (Occasion × Operation)}
  (hrun : AllAlong sealer FreshToken .empty run)
include hrun

/-- After a run, the users who have a login are its holders. -/
theorem loginOf_iff_holder (id login : String) :
    loginOf (performAll sealer .empty run).2 id = some login ↔
      Holder (performAll sealer .empty run).1 id login := by
  constructor
  · intro hl
    have hlast := since_of_performAll (I := fun t => loginOf t id = some login)
      (p := fun step => step.newHolder? = some (id, login)) (q := fun step => step.removed? = some id)
      (fun _ o op hs hfresh => (perform_credentials hs sealer o hfresh op).loginOf_cases) .empty hrun hl
    rcases hlast with hholder | ⟨hnone, -⟩
    · exact hholder
    · exact nomatch hnone
  · intro hholder
    exact performAll_of_since (I := fun t => loginOf t id = some login)
      (fun _ o op hs hfresh => (perform_credentials hs sealer o hfresh op).loginOf_of_newHolder)
      (fun _ o op hs hfresh => (perform_credentials hs sealer o hfresh op).loginOf_kept hs)
      .empty hrun (.inl hholder)

theorem sealed_of_current {id password : String}
    (hc : CurrentPassword (performAll sealer .empty run).1 id password) :
    SealedFor sealer.cost (performAll sealer .empty run).2 id password :=
  performAll_of_since (I := fun t => SealedFor sealer.cost t id password)
    (fun _ o op hs hfresh => (perform_credentials hs sealer o hfresh op).sealed_of_newPassword)
    (fun _ o op hs hfresh => (perform_credentials hs sealer o hfresh op).sealed_kept)
    .empty hrun (.inl hc)

theorem all_sealed (id login : String) (hl : loginOf (performAll sealer .empty run).2 id = some login) :
    ∃ password, SealedFor sealer.cost (performAll sealer .empty run).2 id password :=
  performAll_keeps (I := fun t => ∀ id login, loginOf t id = some login →
      ∃ password, SealedFor sealer.cost t id password)
    (fun _ o op hs hfresh => (perform_credentials hs sealer o hfresh op).all_sealed) .empty hrun
    (fun _ _ hnone => nomatch hnone) id login hl

end Runs

/-- Tokens that are drawn only once in a run are nobody's when they are drawn. -/
theorem freshToken_of_nodup (sealer : Sealer) {t : Tables} (h : t.Sound)
    {run : List (Occasion × Operation)} (hdrawn : (run.map (·.1.token)).Nodup)
    (hfree : ∀ turn ∈ run, t.TokenFree turn.1.token) : AllAlong sealer FreshToken t run := by
  induction run generalizing t with
  | nil => exact True.intro
  | cons first run ih =>
    obtain ⟨o, op⟩ := first
    rw [List.map_cons, List.nodup_cons] at hdrawn
    refine ⟨hfree (o, op) List.mem_cons_self, ih (sound_perform h sealer o op) hdrawn.2 ?_⟩
    -- A token in the tables after the first step was in them before, or is the one the step drew.
    intro turn hturn id row hr he
    have htoken : tokenOf (perform sealer t o op).2 id = some turn.1.token := by
      rw [tokenOf, hr, ← he]
      rfl
    obtain ⟨hissued, hcases⟩ := perform_sessions h sealer o op id turn.1.token
    rcases hcases.mp htoken with hissues | ⟨hold, -⟩
    · exact hdrawn.1 (List.mem_map.mpr ⟨turn, hturn, hissued hissues⟩)
    · rw [tokenOf, Option.map_eq_some_iff] at hold
      obtain ⟨before, hbefore, he⟩ := hold
      exact hfree turn (List.mem_cons_of_mem _ hturn) hbefore he

/-! ## Logins with a password -/

/-- The password has the hash of the user's credential, with the salt and at the cost that stand there,
and is not too long to be told from others. -/
def Fits (t : Tables) (id password : String) : Prop :=
  ∃ c cost, t.credentials[id]? = some c ∧ storedCost? c.hash.toList = some cost ∧
    password.utf8ByteSize ≤ maxPasswordBytes ∧ hashPassword cost password c.salt = .ok c.hash

theorem SealedFor.fits {cost : Nat} {t : Tables} {id password : String}
    (h : SealedFor cost t id password) : Fits t id password := by
  obtain ⟨c, hc, hh⟩ := h
  exact ⟨c, cost, hc, storedCost?_of_hash hh, (hashPassword_ok_iff.mp hh).1, hh⟩

/-- Where a credential was made from a password, the passwords that fit are those that pass the check. -/
theorem fits_iff {cost : Nat} {t : Tables} {id : String} {c : Credential}
    (hc : t.credentials[id]? = some c) {sealed : String} (hs : SealedFor cost t id sealed)
    (password : String) : Fits t id password ↔ checkPassword password c.hash c.salt = .ok true := by
  obtain ⟨d, hd, hh⟩ := hs
  obtain rfl : c = d := Option.some.inj (hc.symm.trans hd)
  rw [checkPassword_iff hh]
  constructor
  · rintro ⟨e, other, he, hcost, -, hp⟩
    obtain rfl : c = e := Option.some.inj (hc.symm.trans he)
    rw [storedCost?_of_hash hh] at hcost
    rwa [Option.some.inj hcost]
  · intro hp
    exact ⟨c, cost, hc, storedCost?_of_hash hh, (hashPassword_ok_iff.mp hp).1, hp⟩

/-- Logins with a password follow the history: what they come to on these tables, if these steps have led
to them. -/
structure LoginsFollow (steps : List Performed) (t : Tables) : Prop where
  /-- No two users hold a login. -/
  one_holder {login id other : String} : Holder steps id login → Holder steps other login → id = other
  /-- A holder has one current password. -/
  one_current {id login : String} : Holder steps id login → ∃! password, CurrentPassword steps id password
  /-- A login is granted to its holder, for the passwords that fit. -/
  granted_iff (o : Occasion) (r : Api.PasswordLogin) (id : String) : FreshToken t o →
    ((∃ session, ((loginWithPassword o r).eval t).1 = .ok session ∧ session.user.id = id) ↔
      Holder steps id r.login ∧ Fits t id r.password)
  /-- The current password is one that fits. -/
  current_granted (o : Occasion) (r : Api.PasswordLogin) (id : String) : FreshToken t o →
    Holder steps id r.login → CurrentPassword steps id r.password →
    ∃ session, ((loginWithPassword o r).eval t).1 = .ok session ∧ session.user.id = id
  /-- A login that nobody holds is refused. -/
  refused (o : Occasion) (r : Api.PasswordLogin) : (∀ id, ¬ Holder steps id r.login) →
    (loginWithPassword o r).eval t = (.error .invalidCredentials, t)

theorem loginWithPassword_granted_iff {t : Tables} (h : t.Sound) {o : Occasion} (hfresh : FreshToken t o)
    (r : Api.PasswordLogin) (id : String) :
    (∃ session, ((loginWithPassword o r).eval t).1 = .ok session ∧ session.user.id = id) ↔
      ∃ c, t.credentials[id]? = some c ∧ c.login = r.login ∧
        checkPassword r.password c.hash c.salt = .ok true := by
  have hout := loginWithPassword_outcome h o r
  generalize (loginWithPassword o r).eval t = result at hout
  cases hout with
  | unknown hfree =>
    constructor
    · rintro ⟨session, hres, -⟩
      cases hres
    · rintro ⟨c, hc, hl, -⟩
      exact absurd hl (hfree hc)
  | refused hd hl hno =>
    constructor
    · rintro ⟨session, hres, -⟩
      cases hres
    · rintro ⟨c, hc, hl', hp⟩
      obtain rfl := h.login_unique hc hd (hl'.trans hl.symm)
      obtain rfl := Option.some.inj (hc.symm.trans hd)
      exact absurd hp hno
  | @granted user c row token _ hc hl hp hu hissued =>
    have hid : row.id = user := h.user_id hu
    have hok : ∃ issued, token = .ok issued := by
      cases hissued with
      | unwanted _ => exact ⟨_, rfl⟩
      | taken _ hk => exact (hk fun hf he => absurd he (hfresh hf)).elim
      | issued _ _ => exact ⟨_, rfl⟩
    obtain ⟨issued, rfl⟩ := hok
    constructor
    · rintro ⟨session, hres, rfl⟩
      cases hres
      change ∃ c, t.credentials[row.id]? = some c ∧ _
      rw [hid]
      exact ⟨c, hc, hl, hp⟩
    · rintro ⟨d, hd, hl', -⟩
      obtain rfl := h.login_unique hd hc (hl'.trans hl.symm)
      exact ⟨_, rfl, hid⟩

theorem loginWithPassword_unknown {t : Tables} {r : Api.PasswordLogin} (h : t.Sound)
    (hfree : t.LoginFree r.login) (o : Occasion) :
    (loginWithPassword o r).eval t = (.error .invalidCredentials, t) := by
  have hout := loginWithPassword_outcome h o r
  generalize (loginWithPassword o r).eval t = result at hout
  cases hout with
  | unknown _ => rfl
  | refused hc hl _ => exact absurd hl (hfree hc)
  | granted hc hl _ _ _ => exact absurd hl (hfree hc)

theorem logins_follow_run (sealer : Sealer) {run : List (Occasion × Operation)}
    (hrun : AllAlong sealer FreshToken .empty run) :
    LoginsFollow (performAll sealer .empty run).1 (performAll sealer .empty run).2 := by
  have h : (performAll sealer .empty run).2.Sound := sound_performAll .empty sealer run
  have hholds := loginOf_iff_holder hrun
  have hgranted : ∀ (o : Occasion) (r : Api.PasswordLogin) (id : String),
      FreshToken (performAll sealer .empty run).2 o →
      ((∃ session, ((loginWithPassword o r).eval (performAll sealer .empty run).2).1 = .ok session ∧
          session.user.id = id) ↔
        Holder (performAll sealer .empty run).1 id r.login ∧
          Fits (performAll sealer .empty run).2 id r.password) := by
    intro o r id hfresh
    rw [loginWithPassword_granted_iff h hfresh, ← hholds, loginOf_eq_some]
    constructor
    · rintro ⟨c, hc, hl, hp⟩
      obtain ⟨sealed, hs⟩ := all_sealed hrun id r.login (loginOf_eq_some.mpr ⟨c, hc, hl⟩)
      exact ⟨⟨c, hc, hl⟩, (fits_iff hc hs r.password).mpr hp⟩
    · rintro ⟨⟨c, hc, hl⟩, hf⟩
      obtain ⟨sealed, hs⟩ := all_sealed hrun id r.login (loginOf_eq_some.mpr ⟨c, hc, hl⟩)
      exact ⟨c, hc, hl, (fits_iff hc hs r.password).mp hf⟩
  constructor
  · intro login id other hid hother
    obtain ⟨c, hc, hl⟩ := loginOf_eq_some.mp ((hholds id login).mpr hid)
    obtain ⟨d, hd, hm⟩ := loginOf_eq_some.mp ((hholds other login).mpr hother)
    exact h.login_unique hc hd (hl.trans hm.symm)
  · exact fun hid => existsUnique_currentPassword hid
  · exact hgranted
  · intro o r id hfresh hid hc
    exact (hgranted o r id hfresh).mpr ⟨hid, (sealed_of_current hrun hc).fits⟩
  · intro o r hnone
    apply loginWithPassword_unknown h _ o
    intro id c hc hl
    exact hnone id ((hholds id r.login).mp (loginOf_eq_some.mpr ⟨c, hc, hl⟩))

/-- Somebody who has logged out, and whose login another one wanted, keeps the login and the password. -/
theorem logins_follow_logout :
    let first : Occasion := { (default : Occasion) with
      userId := "ann", token := drawnToken 7, salt := drawnSalt 1 }
    let second : Occasion := { first with userId := "eve", token := drawnToken 8 }
    let third : Occasion := { first with token := drawnToken 9 }
    let run := [(first, Operation.register ⟨"Ann", "correct horse", none, true⟩),
      (third, .logout "ann"), (second, .register ⟨"Ann", "battery staple", none, true⟩)]
    let history := (performAll ⟨4⟩ .empty run).1
    AllAlong ⟨4⟩ FreshToken .empty run ∧ LoginsFollow history (performAll ⟨4⟩ .empty run).2 ∧
      Holder history "ann" "Ann" ∧ CurrentPassword history "ann" "correct horse" := by
  intro first second third run history
  have hnodup : (run.map (·.1.token)).Nodup := by
    subst run first second third
    decide +kernel
  have hrun : AllAlong ⟨4⟩ FreshToken .empty run :=
    freshToken_of_nodup ⟨4⟩ .empty hnodup fun _ _ _ _ hr => nomatch hr
  refine ⟨hrun, logins_follow_run ⟨4⟩ hrun, ?_, ?_⟩
  · subst history run first second third
    decide +kernel
  · subst history run first second third
    decide +kernel

end PlayerAccounts.Service
