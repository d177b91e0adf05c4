import PlayerAccounts.Proofs.Http.Effects
/-!
# No privilege through requests

Balances, bonuses and the confirmation of an email are granted by trusted callers only. Whatever requests
arrive in whatever order, what a user has of these stays as it is, and who registers has nothing of them.
-/
namespace PlayerAccounts.Http
set_option autoImplicit false

open PlayerAccounts.Account
open PlayerAccounts.Service
open PlayerAccounts.Store
open PlayerAccounts.Time (Instant)

variable {t t' : Tables} {user after : User}

/-! ## Users -/

/-- What no request changes of a user. A confirmation is lost exactly when the email changes. -/
structure Kept (user after : User) : Prop where
  id : after.id = user.id
  registered : after.registered = user.registered
  crystals : after.crystals = user.crystals
  doubleCrystals : after.doubleCrystals = user.doubleCrystals
  experience : after.experience = user.experience
  premium : after.premium = user.premium
  confirmed : after.emailConfirmed = true → user.emailConfirmed = true
  unconfirmed_iff : user.emailConfirmed = true → (after.emailConfirmed = false ↔ after.email ≠ user.email)

/-- A user who has been granted nothing. -/
structure Unprivileged (user : User) : Prop where
  crystals : user.crystals = 0
  experience : user.experience = 0
  doubleCrystals : user.doubleCrystals = none
  premium : user.premium = none
  emailConfirmed : user.emailConfirmed = false

theorem Kept.unprivileged (hk : Kept user after) (hu : Unprivileged user) : Unprivileged after where
  crystals := hk.crystals.trans hu.crystals
  experience := hk.experience.trans hu.experience
  doubleCrystals := hk.doubleCrystals.trans hu.doubleCrystals
  premium := hk.premium.trans hu.premium
  emailConfirmed := by
    have hn : user.emailConfirmed ≠ true := by simp [hu.emailConfirmed]
    exact Bool.eq_false_iff.mpr fun hc => hn (hk.confirmed hc)

theorem unprivileged_fresh (id : String) (now : Instant) (email : Option String) :
    Unprivileged (User.fresh id now email) := ⟨rfl, rfl, rfl, rfl, rfl⟩

theorem kept_refl (user : User) : Kept user user where
  id := rfl
  registered := rfl
  crystals := rfl
  doubleCrystals := rfl
  experience := rfl
  premium := rfl
  confirmed := fun hc => hc
  unconfirmed_iff := by
    intro hc
    simp [hc]

theorem kept_touch (user : User) (now : Instant) : Kept user (user.apply (Changes.touch now)) :=
  { kept_refl user with }

theorem settledFor_edit (user : User) (edit : ProfileEdit) :
    settledFor user edit.update.changes =
      if edit.email.apply user.email = user.email then edit.update.changes
      else { edit.update.changes with emailConfirmed := some false } := by
  obtain ⟨email⟩ := edit
  cases email with
  | keep => exact (if_pos rfl).symm
  | clear => exact if_congr eq_comm rfl rfl
  | set value => exact if_congr eq_comm rfl rfl

theorem kept_edit (user : User) (edit : ProfileEdit) :
    Kept user (user.apply (settledFor user edit.update.changes)) := by
  rw [settledFor_edit]
  by_cases he : edit.email.apply user.email = user.email
  · rw [if_pos he]
    have hemail : (user.apply edit.update.changes).email = user.email := he
    have hconfirmed : (user.apply edit.update.changes).emailConfirmed = user.emailConfirmed := rfl
    exact { kept_refl user with
      confirmed := fun hc => hc
      unconfirmed_iff := fun hc => by simp [hemail, hconfirmed, hc] }
  · rw [if_neg he]
    exact { kept_refl user with
      confirmed := fun hc => nomatch hc
      unconfirmed_iff := fun _ => ⟨fun _ => he, fun _ => rfl⟩ }

/-! ## One request -/

/-- The request is an update of the account with this id, in the session of its owner. -/
def Edits (t : Tables) (r : Request) (id : String) : Prop :=
  ∃ segment row, Hits r (.account segment) ∧ r.method = .patch ∧ decodedId? segment = some id ∧
    Bears t r id row

/-- A request grants nothing to the users who are there, and nothing to those who come. -/
structure Harmless (t : Tables) (r : Request) (t' : Tables) : Prop where
  kept : ∀ {id : String} {user after : User}, t.users[id]? = some user → t'.users[id]? = some after →
    Kept user after
  email : ∀ {id : String} {user after : User}, t.users[id]? = some user → t'.users[id]? = some after →
    after.email ≠ user.email → Edits t r id
  created : ∀ {id : String} {user : User}, id ∉ t.users → t'.users[id]? = some user →
    Unprivileged user ∧ user.active = user.registered

/-- Where the row of a user comes from when a request was served. -/
inductive Origin (t : Tables) (r : Request) (id : String) (after : User) : Prop where
  | kept {user : User} : t.users[id]? = some user → Kept user after →
      (after.email ≠ user.email → Edits t r id) → Origin t r id after
  | created : id ∉ t.users → Unprivileged after → after.active = after.registered → Origin t r id after

section Origin
variable {r : Request} {id : String}

theorem origin_same (hu : t.users[id]? = some user) : Origin t r id user :=
  .kept hu (kept_refl user) fun hne => absurd rfl hne

theorem origin_put {next : User} (hnext : Origin t r next.id next)
    (ha : (t.putUser next).users[id]? = some after) : Origin t r id after := by
  rw [Tables.users_putUser] at ha
  split at ha
  · rename_i hid
    rw [← Option.some.inj ha, ← hid]
    exact hnext
  · exact origin_same ha

end Origin

theorem harmless_of_origin {r : Request}
    (horigin : ∀ {id : String} {after : User}, t'.users[id]? = some after → Origin t r id after) :
    Harmless t r t' where
  kept {id user after} hu ha := by
    cases horigin ha with
    | kept hb hk _ =>
      cases hu.symm.trans hb
      exact hk
    | created hn _ _ => exact absurd (mem_of_lookup hu) hn
  email {id user after} hu ha hne := by
    cases horigin ha with
    | kept hb _ hedit =>
      cases hu.symm.trans hb
      exact hedit hne
    | created hn _ _ => exact absurd (mem_of_lookup hu) hn
  created {id after} hn ha := by
    cases horigin ha with
    | kept hb _ _ => exact absurd (mem_of_lookup hb) hn
    | created _ hu hactive => exact ⟨hu, hactive⟩

theorem effect_harmless (h : t.Sound) {sealer : Sealer} {o : Occasion} {r : Request}
    (heffect : Effect sealer o r t t') : Harmless t r t' := by
  apply harmless_of_origin
  intro id after ha
  -- A user who is touched keeps the email, so nobody has to have asked for another one.
  have htouched : ∀ {owner : String} {user : User} {now : Instant}, t.users[owner]? = some user →
      Origin t r (user.apply (Changes.touch now)).id (user.apply (Changes.touch now)) := by
    intro owner user now hu
    have hid : user.id = owner := h.user_id hu
    rw [← hid] at hu
    exact .kept hu (kept_touch user now) fun hne => absurd rfl hne
  cases heffect with
  | nothing => exact origin_same ha
  | @registered doc _ _ _ _ _ _ _ hn ht =>
    have hfresh : Origin t r o.userId (User.fresh o.userId o.first doc.email) :=
      .created hn (unprivileged_fresh ..) rfl
    rcases ht with rfl | rfl
    · exact origin_put hfresh ha
    · exact origin_put hfresh ha
  | loggedIn _ _ _ _ _ hu ht =>
    rcases ht with rfl | rfl
    · exact origin_put (htouched hu) ha
    · exact origin_put (htouched hu) ha
  | resumed _ _ _ hu => exact origin_put (htouched hu) ha
  | shown _ _ _ => exact origin_same ha
  | loggedOut _ _ => exact origin_same ha
  | @edited segment owner row edit user hr hm hs hb _ _ hu =>
    have hid : user.id = owner := h.user_id hu
    rw [← hid] at hu hs hb
    have hedits : Edits t r user.id := ⟨segment, row, hr, hm, hs, hb⟩
    have hedited : Origin t r user.id (user.apply (settledFor user edit.update.changes)) :=
      .kept hu (kept_edit user edit) fun _ => hedits
    exact origin_put hedited ha
  | removed _ _ _ _ =>
    rw [Tables.users_without] at ha
    exact origin_same (Option.ite_none_left_eq_some.mp ha).2
  | passwordChanged _ _ _ _ _ _ _ => exact origin_same ha

/-! ## Any number of requests -/

section Run
variable (sealer : Sealer)

theorem serve_harmless (h : t.Sound) (o : Occasion) (r : Request) :
    Harmless t r (serve Tables.backend sealer o r t).state :=
  effect_harmless h (effect_served h sealer o r)

theorem unprivileged_afterRequests (h : t.Sound)
    (ht : ∀ {id : String} {user : User}, t.users[id]? = some user → Unprivileged user)
    (run : List (Occasion × Request)) {id : String} {user : User}
    (hu : (afterRequests sealer t run).users[id]? = some user) : Unprivileged user := by
  induction run generalizing t with
  | nil => exact ht hu
  | cons first run ih =>
    obtain ⟨o, r⟩ := first
    have hstep : Harmless t r (serve Tables.backend sealer o r t).state := serve_harmless sealer h o r
    refine ih (sound_serve sealer h o r) ?_ hu
    intro other after ha
    by_cases hm : other ∈ t.users
    · obtain ⟨before, hb⟩ := exists_lookup_of_mem hm
      exact (hstep.kept hb ha).unprivileged (ht hb)
    · exact (hstep.created hm ha).1

/-- Whatever requests came before, the next one grants nothing; so nobody gets anything by requests. -/
theorem requests_grant_nothing (h : t.Sound) (run : List (Occasion × Request)) :
    (∀ o r, Harmless (afterRequests sealer t run) r
      (serve Tables.backend sealer o r (afterRequests sealer t run)).state) ∧
    ∀ (id : String) (user : User), (afterRequests sealer .empty run).users[id]? = some user →
      Unprivileged user := by
  constructor
  · intro o r
    exact serve_harmless sealer (sound_afterRequests sealer h run) o r
  · intro id user hu
    have hempty : ∀ {id : String} {user : User}, Tables.empty.users[id]? = some user → Unprivileged user :=
      fun hf => by simp [Tables.empty] at hf
    exact unprivileged_afterRequests sealer .empty hempty run hu

end Run

/-- An owner who changes the email keeps the crystals and loses the confirmation. -/
theorem email_change_grants_nothing :
    let ann : User := { User.fresh "ann" default none with crystals := 5, emailConfirmed := true }
    let t := (Tables.empty.putUser ann).putToken (SessionToken.issued "ann" "A" default)
    let r : Request := ⟨.patch, "/users/ann", [("authorization", Text.utf8Bytes "Bearer A".toList),
      ("content-type", Text.utf8Bytes "application/json".toList)],
      Text.utf8Bytes "\x7b\"email\":\"ann@home.org\"\x7d".toList⟩
    let t' := afterRequests ⟨4⟩ t [(default, r)]
    t.Sound ∧
      t'.users["ann"]? = some { ann with email := some "ann@home.org", emailConfirmed := false } ∧
      (∀ o next, Harmless t' next (serve Tables.backend ⟨4⟩ o next t').state) ∧
      ∀ (id : String) (user : User), (afterRequests ⟨4⟩ .empty [(default, r)]).users[id]? = some user →
        Unprivileged user := by
  intro ann t r t'
  have hann : (Tables.empty.putUser ann).Sound := Tables.Sound.empty.putUser ann
  have hm : "ann" ∈ (Tables.empty.putUser ann).users := Tables.empty.mem_putUser_self ann
  have hfree : (Tables.empty.putUser ann).TokenFreeFor "ann" "A" := by
    intro other row hr
    simp [Tables.empty] at hr
  have ht : t.Sound := hann.putToken _ hm hfree le_rfl
  have hchanged : t'.users["ann"]? =
      some { ann with email := some "ann@home.org", emailConfirmed := false } := by
    subst t' r t ann
    decide +kernel
  exact ⟨ht, hchanged, requests_grant_nothing ⟨4⟩ ht [(default, r)]⟩

end PlayerAccounts.Http
