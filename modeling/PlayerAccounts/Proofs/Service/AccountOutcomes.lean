import PlayerAccounts.Proofs.Service.SessionOutcomes
/-!
# Outcomes of the care of accounts

For reading, updating and removing an account and for changing its password, the list of the outcomes on
sound tables.
-/
namespace PlayerAccounts.Service
set_option autoImplicit false

open PlayerAccounts.Account
open PlayerAccounts.Store
open PlayerAccounts.Service.Action

variable {t : Tables}

/-! ## Reading, removing and logging out -/

theorem getUser_outcome (t : Tables) (id : String) :
    (∃ user, t.users[id]? = some user ∧ (getUser id).eval t = (.ok user, t)) ∨
      (id ∉ t.users ∧ (getUser id).eval t = (.error (.notFound (userNamed id)), t)) := by
  by_cases hm : id ∈ t.users
  · obtain ⟨user, hu⟩ := exists_lookup_of_mem hm
    have hcall : t.answer (.findUser id) = (.ok user, t) := by
      rw [Tables.answer, Tables.findUser_of_row hu]
    exact .inl ⟨user, hu, eval_demand_ok hcall⟩
  · have hcall : t.answer (.findUser id) = (.error (.notFound (userNamed id)), t) := by
      rw [Tables.answer, Tables.findUser_of_absent hm]
    exact .inr ⟨hm, eval_demand_error hcall⟩

theorem deleteUser_outcome (t : Tables) (id : String) :
    (id ∈ t.users ∧ (deleteUser id).eval t = (.ok (), t.without id)) ∨
      (id ∉ t.users ∧ (deleteUser id).eval t = (.error (.notFound (userNamed id)), t)) := by
  by_cases hm : id ∈ t.users
  · have hcall : t.answer (.removeUser id) = _ := Tables.removeUser_of_mem hm
    exact .inl ⟨hm, eval_demand_ok hcall⟩
  · have hcall : t.answer (.removeUser id) = _ := Tables.removeUser_of_absent hm
    exact .inr ⟨hm, eval_demand_error hcall⟩

theorem logout_eval (t : Tables) (id : String) : (logout id).eval t = (.ok (), t.revokeToken id) := rfl

/-! ## Updating -/

/-- The update of a user with what follows from it for the confirmation of that user's email. -/
def settledFor (user : User) (changes : Changes) : Changes :=
  match changes.email.target?, changes.emailConfirmed with
  | some email, none =>
    if user.email = email then changes else { changes with emailConfirmed := some false }
  | _, _ => changes

/-- The outcomes of an update. -/
inductive Updated (id : String) (changes : Changes) (t : Tables) :
    Except ServiceError User × Tables → Prop where
  | ruleBroken {rule : BrokenRule} :
    brokenByEdit? changes.email = some rule → Updated id changes t (.error (.ofRule rule), t)
  | absent : brokenByEdit? changes.email = none → id ∉ t.users →
      Updated id changes t (.error (.notFound (userNamed id)), t)
  | updated {user : User} : brokenByEdit? changes.email = none → t.users[id]? = some user →
      Updated id changes t
        (.ok (user.apply (settledFor user changes)), t.putUser (user.apply (settledFor user changes)))

theorem withConfirmation_of_row (changes : Changes) {id : String} {user : User}
    (hu : t.users[id]? = some user) :
    (withConfirmation id changes).eval t = (.ok (settledFor user changes), t) := by
  have hcall : t.answer (.findUser id) = (.ok user, t) := by
    rw [Tables.answer, Tables.findUser_of_row hu]
  unfold withConfirmation settledFor
  cases changes.email.target? with
  | none => rfl
  | some email =>
    cases changes.emailConfirmed with
    | some confirmed => rfl
    | none => exact eval_bind_ok (eval_demand_ok hcall)

theorem withConfirmation_of_absent (changes : Changes) {id : String} (hn : id ∉ t.users) :
    (withConfirmation id changes).eval t = (.ok changes, t) ∨
      (withConfirmation id changes).eval t = (.error (.notFound (userNamed id)), t) := by
  have hcall : t.answer (.findUser id) = (.error (.notFound (userNamed id)), t) := by
    rw [Tables.answer, Tables.findUser_of_absent hn]
  unfold withConfirmation
  cases changes.email.target? with
  | none => exact .inl rfl
  | some email =>
    cases changes.emailConfirmed with
    | some confirmed => exact .inl rfl
    | none => exact .inr (eval_bind_error (eval_demand_error hcall))

section Update
variable {id : String} {request : UserUpdate}

theorem updateUser_of_rule {rule : BrokenRule} (hb : brokenByEdit? request.email = some rule) :
    (updateUser id request).eval t = (.error (.ofRule rule), t) := by
  rw [updateUser, eval_bind_error (eval_require_some hb t)]

theorem updateUser_of_absent (hb : brokenByEdit? request.email = none) (hn : id ∉ t.users) :
    (updateUser id request).eval t = (.error (.notFound (userNamed id)), t) := by
  rw [updateUser, eval_bind_ok (eval_require_none hb t)]
  have hcall : t.answer (.amendUser id request.changes) = _ := Tables.amendUser_of_absent hn request.changes
  rcases withConfirmation_of_absent request.changes hn with hconf | hconf
  · rw [eval_bind_ok hconf, eval_demand_error hcall]
    rfl
  · rw [eval_bind_error hconf]

theorem updateUser_of_row {user : User} (hb : brokenByEdit? request.email = none)
    (hu : t.users[id]? = some user) :
    (updateUser id request).eval t =
      (.ok (user.apply (settledFor user request.changes)),
        { t with users := t.users.insert id (user.apply (settledFor user request.changes)) }) := by
  have hcall : t.answer (.amendUser id (settledFor user request.changes)) = _ :=
    Tables.amendUser_of_row hu _
  rw [updateUser, eval_bind_ok (eval_require_none hb t),
    eval_bind_ok (withConfirmation_of_row request.changes hu), eval_demand_ok hcall]

end Update

theorem updateUser_outcome (h : t.Sound) (id : String) (request : UserUpdate) :
    Updated id request.changes t ((updateUser id request).eval t) := by
  cases hb : brokenByEdit? request.email with
  | some rule =>
    rw [updateUser_of_rule hb]
    exact .ruleBroken hb
  | none =>
    by_cases hm : id ∈ t.users
    · obtain ⟨user, hu⟩ := exists_lookup_of_mem hm
      rw [updateUser_of_row hb hu, h.insert_apply hu]
      exact .updated hb hu
    · rw [updateUser_of_absent hb hm]
      exact .absent hb hm

/-! ## Changing the password -/

/-- The outcomes of a change of password. -/
inductive PasswordChanged (sealer : Sealer) (o : Occasion) (id : String) (r : Api.PasswordChange)
    (t : Tables) : Except ServiceError Unit × Tables → Prop where
  | ruleBroken {rule : BrokenRule} : brokenByPassword? r.newPassword = some rule →
      PasswordChanged sealer o id r t (.error (.ofRule rule), t)
  | absent : brokenByPassword? r.newPassword = none → t.credentials[id]? = none →
      PasswordChanged sealer o id r t (.error (.notFound (credentialNamed id)), t)
  | wrong {c : Credential} : brokenByPassword? r.newPassword = none → t.credentials[id]? = some c →
      checkPassword r.oldPassword c.hash c.salt ≠ .ok true →
      PasswordChanged sealer o id r t (.error .invalidCredentials, t)
  | unsealed {c : Credential} {fault : PasswordFault} : brokenByPassword? r.newPassword = none →
      t.credentials[id]? = some c → checkPassword r.oldPassword c.hash c.salt = .ok true →
      sealPassword sealer.cost r.newPassword o.salt = .error fault →
      PasswordChanged sealer o id r t (.error (.ofPassword fault), t)
  | changed {c : Credential} {secret : SealedPassword} : brokenByPassword? r.newPassword = none →
      t.credentials[id]? = some c → checkPassword r.oldPassword c.hash c.salt = .ok true →
      sealPassword sealer.cost r.newPassword o.salt = .ok secret →
      PasswordChanged sealer o id r t
        (.ok (), (t.putCredential ⟨id, c.login, secret.hash, secret.salt⟩).revokeToken id)

theorem changePassword_outcome (h : t.Sound) (sealer : Sealer) (o : Occasion) (id : String)
    (r : Api.PasswordChange) :
    PasswordChanged sealer o id r t ((changePassword sealer o id r).eval t) := by
  unfold changePassword
  cases hb : brokenByPassword? r.newPassword with
  | some rule =>
    rw [eval_bind_error (eval_require_some rfl t)]
    exact .ruleBroken hb
  | none =>
  rw [eval_bind_ok (eval_require_none rfl t)]
  cases hc : t.credentials[id]? with
  | none =>
    have hcall : t.answer (.credentialOfUser id) = (.error (.notFound (credentialNamed id)), t) := by
      rw [Tables.answer, Tables.credentialOfUser_of_none hc]
    rw [eval_bind_error (eval_demand_error hcall)]
    exact .absent hb hc
  | some c =>
  rw [eval_bind_ok (eval_demand_ok (Tables.answer_credentialOfUser_of_row hc))]
  by_cases hp : checkPassword r.oldPassword c.hash c.salt = .ok true
  · have hid : c.userId = id := h.credential_id hc
    rw [hp]
    cases hseal : sealPassword sealer.cost r.newPassword o.salt with
    | error fault =>
      exact (eval_bind_error (sealNew_error hseal t)).symm ▸ .unsealed hb hc hp hseal
    | ok secret =>
      have hset : t.answer (.setCredential ⟨id, c.login, secret.hash, secret.salt⟩) = _ :=
        h.setCredential_of_row hc secret.hash secret.salt
      change PasswordChanged sealer o id r t ((sealNew sealer o r.newPassword >>= _).eval t)
      rw [eval_bind_ok (sealNew_ok hseal t), eval_bind_ok (eval_demand_ok hset)]
      exact .changed hb hc hp hseal
  · have hwrong : PasswordChanged sealer o id r t (.error .invalidCredentials, t) := .wrong hb hc hp
    split
    · exact absurd ‹_› hp
    · exact hwrong

end PlayerAccounts.Service
