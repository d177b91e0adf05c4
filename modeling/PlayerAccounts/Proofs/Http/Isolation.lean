import PlayerAccounts.Proofs.Http.Effects
/-!
# Accounts are isolated

A request changes the rows of one user at most, and that user is the one whom the request is about: who
registers, who logs in, or whose session is shown. The tables before it may be any sound ones, so all that
any run of calls can lead to.
-/
namespace PlayerAccounts.Http
set_option autoImplicit false

open PlayerAccounts.Account
open PlayerAccounts.Service
open PlayerAccounts.Store
open PlayerAccounts.Store.Tables (SameButFor)

variable {t t' : Tables}

/-! ## Whom a request is about -/

/-- The request to this endpoint is about the user with this id. -/
def About (t : Tables) (o : Occasion) (r : Request) (id : String) : Endpoint → Prop
  | .health | .loginAvailable => False
  | .register => o.userId = id ∧ id ∉ t.users
  | .login => ∃ doc c, r.document Api.passwordLogin = .ok doc ∧ t.credentials[id]? = some c ∧
    c.login = doc.login ∧ checkPassword doc.password c.hash c.salt = .ok true
  | .tokenLogin => ∃ doc row, r.document Api.tokenLogin = .ok doc ∧ Opens t doc.token id row
  | .logout | .me | .account _ | .password _ => ∃ row, Bears t r id row

theorem about_of_session {sealer : Sealer} {o : Occasion} {r : Request} {endpoint : Endpoint}
    {action : String → Action Response} {id : String} {row : SessionToken}
    (ha : forUser? sealer o r endpoint = some action) (hb : Bears t r id row) : About t o r id endpoint := by
  cases endpoint with
  | logout => exact ⟨row, hb⟩
  | me => exact ⟨row, hb⟩
  | account segment => exact ⟨row, hb⟩
  | password segment => exact ⟨row, hb⟩
  | _ => cases ha

/-- A request that has an effect has it on the user whom it is about, and on nobody else. -/
theorem effect_on_one (h : t.Sound) {sealer : Sealer} {o : Occasion} {r : Request}
    (heffect : Effect sealer o r t t') :
    t' = t ∨ ∃ id endpoint, Hits r endpoint ∧ About t o r id endpoint ∧ SameButFor id t t' := by
  have hsame : ∀ id, SameButFor id t t := fun id other _ => rfl
  have hused : ∀ {id row}, Bears t r id row → SameButFor id t (t.putToken (row.used o.first)) := by
    rintro id row ⟨token, -, ho⟩
    have hid : row.userId = id := h.token_id ho.found
    exact (hsame id).putToken hid
  cases heffect with
  | nothing => exact .inl rfl
  | @registered doc secret _ hr _ _ _ _ hn ht =>
    have hregistered : SameButFor o.userId t (withRegistered t o doc secret) :=
      sameButFor_withRegistered t o doc secret
    refine .inr ⟨o.userId, .register, hr, ⟨rfl, hn⟩, ?_⟩
    rcases ht with rfl | rfl
    · exact hregistered
    · exact hregistered.putToken rfl
  | @loggedIn doc id c user _ hr hd hc hl hp hu ht =>
    have hid : user.id = id := h.user_id hu
    have htouched : SameButFor id t (t.putUser (user.apply (Changes.touch o.first))) :=
      (hsame id).putUser hid
    refine .inr ⟨id, .login, hr, ⟨doc, c, hd, hc, hl, hp⟩, ?_⟩
    rcases ht with rfl | rfl
    · exact htouched
    · exact htouched.putToken rfl
  | @resumed doc id row user hr hd ho hu =>
    have hid : user.id = id := h.user_id hu
    have hrow : row.userId = id := h.token_id ho.found
    have hused : SameButFor id t (t.putToken (row.used o.first)) := (hsame id).putToken hrow
    exact .inr ⟨id, .tokenLogin, hr, ⟨doc, row, hd, ho⟩, hused.putUser hid⟩
  | @shown endpoint action id row hr ha hb =>
    exact .inr ⟨id, endpoint, hr, about_of_session ha hb, hused hb⟩
  | @loggedOut id row hr hb => exact .inr ⟨id, .logout, hr, ⟨row, hb⟩, (hused hb).revokeToken⟩
  | @edited segment id row edit user hr _ _ hb _ _ hu =>
    have hid : user.id = id := h.user_id hu
    exact .inr ⟨id, .account segment, hr, ⟨row, hb⟩, (hused hb).putUser hid⟩
  | @removed segment id row hr _ _ hb =>
    exact .inr ⟨id, .account segment, hr, ⟨row, hb⟩, (hused hb).without⟩
  | @passwordChanged segment id row doc c secret hr _ hb _ _ _ _ =>
    exact .inr ⟨id, .password segment, hr, ⟨row, hb⟩, ((hused hb).putCredential rfl).revokeToken⟩

/-! ## Isolation -/

/-- A request leaves the rows of all users but one as they are. The one whose rows it changes, if any, is
the user whom it is about; an account named in the path is changed only in the session of its owner. -/
structure Isolated (t : Tables) (o : Occasion) (r : Request) (t' : Tables) : Prop where
  one : ∀ id other, t'.rowsOf id ≠ t.rowsOf id → t'.rowsOf other ≠ t.rowsOf other → id = other
  about : ∀ id, t'.rowsOf id ≠ t.rowsOf id → ∃ endpoint, Hits r endpoint ∧ About t o r id endpoint
  owned : ∀ segment id, Hits r (.account segment) ∨ Hits r (.password segment) →
    decodedId? segment = some id → t'.rowsOf id ≠ t.rowsOf id → ∃ row, Bears t r id row

theorem requests_isolated (h : t.Sound) (sealer : Sealer) (o : Occasion) (r : Request) :
    Isolated t o r (serve Tables.backend sealer o r t).state := by
  have heffect : Effect sealer o r t (serve Tables.backend sealer o r t).state := effect_served h sealer o r
  generalize (serve Tables.backend sealer o r t).state = t' at heffect
  have hone := effect_on_one h heffect
  have habout : ∀ id, t'.rowsOf id ≠ t.rowsOf id →
      ∃ endpoint, Hits r endpoint ∧ About t o r id endpoint := by
    intro id hid
    rcases hone with ht | ⟨owner, endpoint, hr, ha, hsame⟩
    · exact absurd (congrArg (Tables.rowsOf · id) ht) hid
    · by_cases he : id = owner
      · exact ⟨endpoint, hr, he ▸ ha⟩
      · exact absurd (hsame id he) hid
  refine ⟨?_, habout, ?_⟩
  · intro id other hid hother
    rcases hone with ht | ⟨owner, endpoint, hr, ha, hsame⟩
    · exact absurd (congrArg (Tables.rowsOf · id) ht) hid
    · have howner : ∀ user, t'.rowsOf user ≠ t.rowsOf user → user = owner := fun user hu =>
        not_imp_comm.mp (hsame user) hu
      rw [howner id hid, howner other hother]
  · intro segment id hpath _ hid
    obtain ⟨endpoint, hr, ha⟩ := habout id hid
    rcases hpath with hp | hp
    · cases hr.unique hp
      exact ha
    · cases hr.unique hp
      exact ha

/-- A player's removal of the own account, from among two, goes through. -/
theorem removal_isolated :
    let players := (Tables.empty.putUser (User.fresh "bob" default none)).putUser
      (User.fresh "ann" default none)
    let t := players.putToken (SessionToken.issued "ann" "A" default)
    let r : Request := ⟨.delete, "/users/ann", [("authorization", Text.utf8Bytes "Bearer A".toList)], []⟩
    let t' := (serve Tables.backend ⟨4⟩ default r t).state
    t.Sound ∧ Isolated t default r t' ∧ t'.rowsOf "ann" = ⟨none, none, none⟩ := by
  intro players t r t'
  have hplayers : players.Sound := (Tables.Sound.empty.putUser _).putUser _
  have hm : "ann" ∈ players.users := Tables.mem_putUser_self _ _
  have hfree : players.TokenFreeFor "ann" "A" := by
    intro other row hr
    simp [players, Tables.empty] at hr
  have ht : t.Sound := hplayers.putToken _ hm hfree le_rfl
  have hgone : t'.rowsOf "ann" = ⟨none, none, none⟩ := by
    subst t' r t players
    decide +kernel
  exact ⟨ht, requests_isolated ht ⟨4⟩ default r, hgone⟩

end PlayerAccounts.Http
