import PlayerAccounts.Proofs.Http.Answers
/-!
# Refused requests change nothing

Whatever is wrong with a request, the tables are after the refusal as they were before it, but for the use
of the session that the request showed. A request that is granted in a session, and does not end it,
leaves the same trace among the sessions.
-/
namespace PlayerAccounts.Http
set_option autoImplicit false

open PlayerAccounts.Account
open PlayerAccounts.Service
open PlayerAccounts.Store

variable {t t' : Tables} {sealer : Sealer} {o : Occasion} {r : Request}

/-! ## The trace of a session -/

/-- The session that the request shows was used now: its row tells the latest of now, the last use and the
issue, and no other row is another one. -/
def SessionUsed (t : Tables) (o : Occasion) (r : Request) (tokens : Table SessionToken) : Prop :=
  ∃ id row, Bears t r id row ∧
    tokens = t.tokens.insert id { row with lastUsed := max (max o.first row.lastUsed) row.created }

/-- An endpoint that needs a session and leaves it open, when it grants the request. -/
def KeepsSession (r : Request) : Endpoint → Prop
  | .me => True
  | .account _ => r.method ≠ .delete
  | _ => False

theorem sessionUsed_putToken (h : t.Sound) {id : String} {row : SessionToken} (hb : Bears t r id row) :
    SessionUsed t o r (t.putToken (row.used o.first)).tokens := by
  have hid : row.userId = id := by
    obtain ⟨token, -, ho⟩ := hb
    exact h.token_id ho.found
  exact ⟨id, row, hb, by rw [← hid]; rfl⟩

/-! ## Refusals -/

theorem status_error_ge (e : ServiceError) : 400 ≤ e.status := by
  cases e <;> exact Nat.le_of_ble_eq_true rfl

/-- The tables are as they were, but for the use of a session. -/
structure UnchangedButUse (t : Tables) (o : Occasion) (r : Request) (t' : Tables) : Prop where
  users : t'.users = t.users
  credentials : t'.credentials = t.credentials
  tokens : t'.tokens = t.tokens ∨ SessionUsed t o r t'.tokens

theorem unchangedButUse_refl (t : Tables) (o : Occasion) (r : Request) : UnchangedButUse t o r t :=
  ⟨rfl, rfl, .inl rfl⟩

theorem unchanged_of_refused (h : t.Sound) (hfree : t.TokenFree o.token)
    {result : Except ServiceError Response × Tables} (hanswered : Answered sealer o r t result)
    (hstatus : 400 ≤ (responseTo result.1).status) : UnchangedButUse t o r result.2 := by
  cases hanswered with
  | collided _ htaken => exact (htaken hfree).elim
  | registered _ _ _ _ _ _ => exact absurd hstatus (by decide : ¬ 400 ≤ 201)
  | loggedIn _ _ _ _ _ _ _ => exact absurd hstatus (by decide : ¬ 400 ≤ 200)
  | resumed _ _ _ _ => exact absurd hstatus (by decide : ¬ 400 ≤ 200)
  | inSession _ _ hb hin =>
    cases hin with
    | refused _ => exact ⟨rfl, rfl, .inr (sessionUsed_putToken h hb)⟩
    | loggedOut _ => exact absurd hstatus (by decide : ¬ 400 ≤ 204)
    | told _ => exact absurd hstatus (by decide : ¬ 400 ≤ 200)
    | edited _ _ _ _ _ _ => exact absurd hstatus (by decide : ¬ 400 ≤ 200)
    | removed _ _ _ => exact absurd hstatus (by decide : ¬ 400 ≤ 204)
    | passwordChanged _ _ _ _ _ _ => exact absurd hstatus (by decide : ¬ 400 ≤ 200)
  | _ => exact unchangedButUse_refl t o r

/-! ## Grants -/

theorem used_of_granted (h : t.Sound) {endpoint : Endpoint} (hr : Hits r endpoint)
    (hkeeps : KeepsSession r endpoint) {result : Except ServiceError Response × Tables}
    (hanswered : Answered sealer o r t result) (hstatus : (responseTo result.1).status < 400) :
    SessionUsed t o r result.2.tokens := by
  have hrefused : ∀ e : ServiceError, ¬ (Response.ofError e).status < 400 := fun e =>
    Nat.not_lt.mpr (status_error_ge e)
  have hkept : ∀ {other : Endpoint}, Hits r other → KeepsSession r other := fun ho => hr.unique ho ▸ hkeeps
  cases hanswered with
  | unknownPath hp => cases hp.symm.trans hr.path
  | wrongMethod hp hm =>
    cases hp.symm.trans hr.path
    exact absurd hr.method hm
  | badQuery _ => exact absurd hstatus (by decide : ¬ 400 < 400)
  | badId _ _ => exact absurd hstatus (by decide : ¬ 400 < 400)
  | health hother => exact False.elim (hkept hother)
  | available hother _ _ => exact False.elim (hkept hother)
  | refused _ => exact absurd hstatus (hrefused _)
  | collided _ _ => exact absurd hstatus (hrefused _)
  | registered hother _ _ _ _ _ _ => exact False.elim (hkept hother)
  | loggedIn hother _ _ _ _ _ _ => exact False.elim (hkept hother)
  | resumed hother _ _ _ => exact False.elim (hkept hother)
  | inSession _ _ hb hin =>
    cases hin with
    | refused _ => exact absurd hstatus (hrefused _)
    | loggedOut hother => exact False.elim (hkept hother)
    | told _ => exact sessionUsed_putToken h hb
    | edited _ _ _ _ _ _ => exact sessionUsed_putToken h hb
    | removed hother hm _ => exact absurd hm (hkept hother)
    | passwordChanged hother _ _ _ _ _ => exact False.elim (hkept hother)

/-! ## The result -/

/-- A refused request changes nothing but the use of the session that it shows, and a request that is
granted in a session which stays open changes nothing else among the sessions. -/
theorem refusals_change_nothing (h : t.Sound) (sealer : Sealer) (o : Occasion) (r : Request)
    (hfree : t.TokenFree o.token) :
    let result := serve Tables.backend sealer o r t
    (400 ≤ result.response.status → UnchangedButUse t o r result.state) ∧
      ∀ endpoint, Hits r endpoint → KeepsSession r endpoint → result.response.status < 400 →
        SessionUsed t o r result.state.tokens := by
  intro result
  obtain ⟨answer, hanswered, hserved⟩ := answered_served h sealer o r
  have hstatus : result.response.status = (responseTo answer.1).status :=
    (congrArg (fun s => s.1.status) hserved).trans (status_trimmed r _)
  have hstate : result.state = answer.2 := congrArg Prod.snd hserved
  rw [hstatus, hstate]
  exact ⟨unchanged_of_refused h hfree hanswered, fun _ hr hkeeps =>
    used_of_granted h hr hkeeps hanswered⟩

/-- Who asks for the removal of somebody else's account is refused, and the session was used all the same;
so it is by looking at the own account. -/
theorem removal_by_another_refused :
    let ann := Tables.empty.putUser (User.fresh "ann" default none)
    let t := (ann.putUser (User.fresh "bob" default none)).putToken (SessionToken.issued "ann" "A" default)
    let now : Time.Instant := ⟨60, 0, by decide, by decide, by decide, by decide⟩
    let o : Occasion := { (default : Occasion) with first := now }
    let headers := [("authorization", Text.utf8Bytes "Bearer A".toList)]
    let removal := serve Tables.backend ⟨4⟩ o ⟨.delete, "/users/bob", headers, []⟩ t
    let reading := serve Tables.backend ⟨4⟩ o ⟨.get, "/users/me", headers, []⟩ t
    t.Sound ∧ t.TokenFree o.token ∧
      (removal.response.status = 401 ∧
        UnchangedButUse t o ⟨.delete, "/users/bob", headers, []⟩ removal.state ∧
        removal.state.tokens["ann"]? = some ⟨"ann", default, now, "A"⟩) ∧
      reading.response.status = 200 ∧
      SessionUsed t o ⟨.get, "/users/me", headers, []⟩ reading.state.tokens := by
  intro ann t now o headers removal reading
  have hplayers : (ann.putUser (User.fresh "bob" default none)).Sound :=
    (Tables.Sound.empty.putUser _).putUser _
  have hm : "ann" ∈ (ann.putUser (User.fresh "bob" default none)).users :=
    (Tables.mem_putUser ..).mpr (.inr (Tables.mem_putUser_self _ _))
  have hnone : ∀ id : String, (ann.putUser (User.fresh "bob" default none)).tokens[id]? = none := by
    intro id
    simp [ann, Tables.empty]
  have hunused : (ann.putUser (User.fresh "bob" default none)).TokenFreeFor "ann" "A" := fun hr =>
    absurd (hr.symm.trans (hnone _)) (Option.some_ne_none _)
  have ht : t.Sound := hplayers.putToken _ hm hunused le_rfl
  have hfree : t.TokenFree o.token := by
    intro id row hr
    rw [Tables.tokens_putToken] at hr
    split at hr
    · rw [← Option.some.inj hr]
      decide
    · exact absurd (hr.symm.trans (hnone id)) (Option.some_ne_none _)
  have hremoval : removal.response.status = 401 ∧
      removal.state.tokens["ann"]? = some ⟨"ann", default, now, "A"⟩ := by
    subst removal headers o now t ann
    decide +kernel
  have hreading : reading.response.status = 200 := by
    subst reading headers o now t ann
    decide +kernel
  have hhits : Hits ⟨.get, "/users/me", headers, []⟩ .me := by
    subst headers
    constructor <;> decide +kernel
  have hrefused := refusals_change_nothing ht ⟨4⟩ o ⟨.delete, "/users/bob", headers, []⟩ hfree
  have hgranted := refusals_change_nothing ht ⟨4⟩ o ⟨.get, "/users/me", headers, []⟩ hfree
  refine ⟨ht, hfree, ⟨hremoval.1, hrefused.1 (by rw [hremoval.1]; decide), hremoval.2⟩, hreading, ?_⟩
  exact hgranted.2 .me hhits trivial (by rw [hreading]; decide)

end PlayerAccounts.Http
