import PlayerAccounts.Proofs.Account.Secrets
import PlayerAccounts.Proofs.Service.History
/-!
# The life of a session token

A token is live for the user to whom it was issued last, until the session is ended: by a logout, a change
of password or the removal of the user. What was performed in a run says which tokens are live, and they
are the tokens of the table of sessions.
-/
namespace PlayerAccounts.Service
set_option autoImplicit false

open PlayerAccounts.Account
open PlayerAccounts.Store
open PlayerAccounts.Time (Instant)

/-! ## What a step does to sessions -/

namespace Performed

/-- The step issued this token to this user. -/
def Issues (id token : String) : Performed → Prop
  | ⟨.register _, .ok session⟩ => session.user.id = id ∧ session.token = some token
  | ⟨.loginWithPassword _, .ok session⟩ => session.user.id = id ∧ session.token = some token
  | ⟨.issueToken userId, .ok drawn⟩ => userId = id ∧ drawn = token
  | _ => False

/-- The step ended the session of this user. -/
def Ends (id : String) : Performed → Prop
  | ⟨.logout userId, _⟩ => userId = id
  | ⟨.changePassword userId _, .ok _⟩ => userId = id
  | ⟨.deleteUser userId, .ok _⟩ => userId = id
  | _ => False

/-- The step replaced or ended the session of this user. -/
def Affects (id : String) (step : Performed) : Prop := (∃ token, step.Issues id token) ∨ step.Ends id

end Performed

/-- The last thing that happened to the session of this user is that this token was issued. -/
def Live (steps : List Performed) (id token : String) : Prop :=
  ∃ before step after, steps = before ++ step :: after ∧ step.Issues id token ∧
    ∀ later ∈ after, ¬ later.Affects id

theorem not_live_nil (id token : String) : ¬ Live [] id token := not_since_nil _ _

theorem live_cons (first : Performed) (steps : List Performed) (id token : String) :
    Live (first :: steps) id token ↔
      Live steps id token ∨ first.Issues id token ∧ ∀ later ∈ steps, ¬ later.Affects id :=
  since_cons _ _ first steps

/-! ## One step -/

/-- The session token of a user, if there is one. -/
def tokenOf (t : Tables) (id : String) : Option String := t.tokens[id]?.map SessionToken.token

section Tables
variable (t : Tables) (id other : String) (row : SessionToken)

theorem tokenOf_putToken :
    tokenOf (t.putToken row) id = if row.userId = id then some row.token else tokenOf t id := by
  rw [tokenOf, Tables.tokens_putToken]
  split
  · rfl
  · rfl

theorem tokenOf_revokeToken :
    tokenOf (t.revokeToken other) id = if other = id then none else tokenOf t id := by
  rw [tokenOf, Tables.tokens_revokeToken]
  split
  · rfl
  · rfl

theorem tokenOf_without :
    tokenOf (t.without other) id = if other = id then none else tokenOf t id := by
  rw [tokenOf, Tables.tokens_without]
  split
  · rfl
  · rfl

/-- The use of a token leaves it where it is. -/
theorem tokenOf_used {t : Tables} {row : SessionToken} {other : String} (h : t.Sound)
    (hr : t.tokens[other]? = some row) (now : Instant) (id : String) :
    tokenOf (t.putToken (row.used now)) id = tokenOf t id := by
  have hid : row.userId = other := h.token_id hr
  rw [tokenOf_putToken]
  change (if row.userId = id then some row.token else tokenOf t id) = tokenOf t id
  split
  · rename_i he
    rw [← he, hid, tokenOf, hr]
    rfl
  · rfl

end Tables

/-- What is known of the sessions after a step: a user has the token that the step issued, or has kept
the token from before, and the step left that session alone. -/
def StepOnSessions (o : Occasion) (t : Tables) (step : Performed) (t' : Tables) : Prop :=
  ∀ id token, (step.Issues id token → token = o.token) ∧
    (tokenOf t' id = some token ↔
      step.Issues id token ∨ tokenOf t id = some token ∧ ¬ step.Affects id)

namespace StepOnSessions
variable {o : Occasion} {t t' : Tables} {step : Performed} {user : String}

theorem of_quiet (hi : ∀ id token, ¬ step.Issues id token) (he : ∀ id, ¬ step.Ends id)
    (ht : ∀ id, tokenOf t' id = tokenOf t id) : StepOnSessions o t step t' := by
  intro id token
  have haffects : ¬ step.Affects id := by
    rintro (⟨token, h⟩ | h)
    · exact hi id token h
    · exact he id h
  exact ⟨fun h => absurd h (hi id token), by simp [ht, hi, haffects]⟩

theorem of_issue (hi : ∀ id token, step.Issues id token ↔ user = id ∧ o.token = token)
    (he : ∀ id, ¬ step.Ends id)
    (ht : ∀ id, tokenOf t' id = if user = id then some o.token else tokenOf t id) :
    StepOnSessions o t step t' := by
  intro id token
  refine ⟨fun h => ((hi id token).mp h).2.symm, ?_⟩
  rw [ht, hi]
  by_cases hid : user = id
  · have haffects : step.Affects id := .inl ⟨o.token, (hi id o.token).mpr ⟨hid, rfl⟩⟩
    simp [hid, haffects]
  · have haffects : ¬ step.Affects id := by
      rintro (⟨token, h⟩ | h)
      · exact hid ((hi id token).mp h).1
      · exact he id h
    simp [hid, haffects]

theorem of_end (hi : ∀ id token, ¬ step.Issues id token) (he : ∀ id, step.Ends id ↔ user = id)
    (ht : ∀ id, tokenOf t' id = if user = id then none else tokenOf t id) :
    StepOnSessions o t step t' := by
  intro id token
  refine ⟨fun h => absurd h (hi id token), ?_⟩
  rw [ht]
  by_cases hid : user = id
  · have haffects : step.Affects id := .inr ((he id).mpr hid)
    simp [hid, hi, haffects]
  · have haffects : ¬ step.Affects id := by
      rintro (⟨token, h⟩ | h)
      · exact hi id token h
      · exact hid ((he id).mp h)
    simp [hid, hi, haffects]

end StepOnSessions
open StepOnSessions

theorem register_sessions {t : Tables} (h : t.Sound) (sealer : Sealer) (o : Occasion)
    (r : Api.Registration) :
    StepOnSessions o t ⟨.register r, ((register sealer o r).eval t).1⟩ ((register sealer o r).eval t).2 := by
  have hout := register_outcome h sealer o r
  generalize (register sealer o r).eval t = result at hout
  cases hout with
  | registered _ _ _ _ hissued =>
    cases hissued with
    | unwanted _ => exact of_quiet (fun _ _ hi => nomatch hi.2) (fun _ => id) fun _ => rfl
    | taken _ _ => exact of_quiet (fun _ _ => id) (fun _ => id) fun _ => rfl
    | issued _ _ =>
      refine of_issue (fun id token => ?_) (fun _ => id) fun id => tokenOf_putToken ..
      exact Iff.and Iff.rfl (Option.some_inj)
  | _ => exact of_quiet (fun _ _ => id) (fun _ => id) fun _ => rfl

theorem loginWithPassword_sessions {t : Tables} (h : t.Sound) (o : Occasion) (r : Api.PasswordLogin) :
    StepOnSessions o t ⟨.loginWithPassword r, ((loginWithPassword o r).eval t).1⟩
      ((loginWithPassword o r).eval t).2 := by
  have hout := loginWithPassword_outcome h o r
  generalize (loginWithPassword o r).eval t = result at hout
  cases hout with
  | @granted user _ row _ _ _ _ _ hu hissued =>
    cases hissued with
    | unwanted _ => exact of_quiet (fun _ _ hi => nomatch hi.2) (fun _ => id) fun _ => rfl
    | taken _ _ => exact of_quiet (fun _ _ => id) (fun _ => id) fun _ => rfl
    | issued _ _ =>
      have hid : row.id = user := h.user_id hu
      refine of_issue (fun id token => ?_) (fun _ => id) fun id => tokenOf_putToken ..
      exact Iff.and (Eq.congr_left hid) (Option.some_inj)
  | _ => exact of_quiet (fun _ _ => id) (fun _ => id) fun _ => rfl

theorem issueToken_sessions {t : Tables} (h : t.Sound) (o : Occasion) (user : String) :
    StepOnSessions o t ⟨.issueToken user, ((issueToken o user).eval t).1⟩
      ((issueToken o user).eval t).2 := by
  have hout := issueToken_outcome h o user
  generalize (issueToken o user).eval t = result at hout
  cases hout with
  | issued _ _ => exact of_issue (fun _ _ => Iff.rfl) (fun _ => id) fun id => tokenOf_putToken ..
  | _ => exact of_quiet (fun _ _ => id) (fun _ => id) fun _ => rfl

theorem changePassword_sessions {t : Tables} (h : t.Sound) (sealer : Sealer) (o : Occasion)
    (user : String) (r : Api.PasswordChange) :
    StepOnSessions o t ⟨.changePassword user r, ((changePassword sealer o user r).eval t).1⟩
      ((changePassword sealer o user r).eval t).2 := by
  have hout := changePassword_outcome h sealer o user r
  generalize (changePassword sealer o user r).eval t = result at hout
  cases hout with
  | changed _ _ _ _ =>
    exact of_end (fun _ _ => id) (fun _ => Iff.rfl) fun id => tokenOf_revokeToken ..
  | _ => exact of_quiet (fun _ _ => id) (fun _ => id) fun _ => rfl

theorem deleteUser_sessions (o : Occasion) (t : Tables) (user : String) :
    StepOnSessions o t ⟨.deleteUser user, ((deleteUser user).eval t).1⟩ ((deleteUser user).eval t).2 := by
  rcases deleteUser_outcome t user with ⟨_, hres⟩ | ⟨_, hres⟩
  · rw [hres]
    exact of_end (fun _ _ => id) (fun _ => Iff.rfl) fun id => tokenOf_without ..
  · rw [hres]
    exact of_quiet (fun _ _ => id) (fun _ => id) fun _ => rfl

/-- Every operation keeps the sessions in step with what was performed. -/
theorem perform_sessions {t : Tables} (h : t.Sound) (sealer : Sealer) (o : Occasion) (op : Operation) :
    StepOnSessions o t (perform sealer t o op).1 (perform sealer t o op).2 := by
  cases op with
  | register r => exact register_sessions h sealer o r
  | loginWithPassword r => exact loginWithPassword_sessions h o r
  | issueToken user => exact issueToken_sessions h o user
  | logout user =>
    exact of_end (fun _ _ => id) (fun _ => Iff.rfl) fun id => tokenOf_revokeToken ..
  | deleteUser user => exact deleteUser_sessions o t user
  | changePassword user r => exact changePassword_sessions h sealer o user r
  | isLoginFree login =>
    refine of_quiet (fun _ _ => id) (fun _ => id) fun id => ?_
    have hout := isLoginFree_outcome h login
    change tokenOf ((isLoginFree login).eval t).2 id = _
    generalize (isLoginFree login).eval t = result at hout ⊢
    cases hout <;> rfl
  | loginWithToken token =>
    refine of_quiet (fun _ _ => id) (fun _ => id) fun id => ?_
    have hout := loginWithToken_outcome h o token
    change tokenOf ((loginWithToken o token).eval t).2 id = _
    generalize (loginWithToken o token).eval t = result at hout ⊢
    cases hout with
    | refused _ => rfl
    | granted ho _ => exact tokenOf_used h ho.found o.first id
  | validateToken token =>
    refine of_quiet (fun _ _ => id) (fun _ => id) fun id => ?_
    have hout := validateToken_outcome h o.first token
    change tokenOf ((validateToken o.first token).eval t).2 id = _
    generalize (validateToken o.first token).eval t = result at hout ⊢
    cases hout with
    | refused _ => rfl
    | granted ho => exact tokenOf_used h ho.found o.first id
  | getUser user =>
    refine of_quiet (fun _ _ => id) (fun _ => id) fun id => ?_
    change tokenOf ((getUser user).eval t).2 id = _
    rcases getUser_outcome t user with ⟨_, _, hres⟩ | ⟨_, hres⟩ <;> rw [hres]
  | updateUser user request =>
    refine of_quiet (fun _ _ => id) (fun _ => id) fun id => ?_
    have hout := updateUser_outcome h user request
    change tokenOf ((updateUser user request).eval t).2 id = _
    generalize (updateUser user request).eval t = result at hout ⊢
    cases hout <;> rfl
  | updateProfile user edit =>
    refine of_quiet (fun _ _ => id) (fun _ => id) fun id => ?_
    have hout := updateUser_outcome h user edit.update
    change tokenOf ((updateUser user edit.update).eval t).2 id = _
    generalize (updateUser user edit.update).eval t = result at hout ⊢
    cases hout <;> rfl

/-! ## Runs -/

section Runs
variable (sealer : Sealer) (run : List (Occasion × Operation)) (id token : String)

/-- After a run, a user has the token that is live by it, or the one from before that it left alone. -/
theorem performAll_sessions {t : Tables} (h : t.Sound) :
    tokenOf (performAll sealer t run).2 id = some token ↔
      Live (performAll sealer t run).1 id token ∨
        tokenOf t id = some token ∧ ∀ step ∈ (performAll sealer t run).1, ¬ step.Affects id := by
  induction run generalizing t with
  | nil =>
    simp [performAll, not_live_nil]
  | cons first run ih =>
    obtain ⟨o, op⟩ := first
    -- What the first step did to the session counts only as long as no later step affects it.
    have hstep := (perform_sessions h sealer o op id token).2
    have hrun := ih (sound_perform h sealer o op)
    generalize hfirst : perform sealer t o op = first at hstep hrun
    rw [performAll, hfirst]
    change tokenOf (performAll sealer first.2 run).2 id = some token ↔
      Live (first.1 :: (performAll sealer first.2 run).1) id token ∨ tokenOf t id = some token ∧
        ∀ step ∈ first.1 :: (performAll sealer first.2 run).1, ¬ step.Affects id
    rw [hrun, hstep, live_cons, List.forall_mem_cons, or_and_right, and_assoc, or_assoc]

/-- A token that was issued in a run was drawn for it. -/
theorem drawn_of_issues {t : Tables} (h : t.Sound) {step : Performed}
    (hstep : step ∈ (performAll sealer t run).1) (hi : step.Issues id token) :
    ∃ turn ∈ run, turn.1.token = token := by
  induction run generalizing t with
  | nil => exact nomatch hstep
  | cons first run ih =>
    obtain ⟨o, op⟩ := first
    change step ∈ (perform sealer t o op).1 :: (performAll sealer (perform sealer t o op).2 run).1 at hstep
    rcases List.mem_cons.mp hstep with rfl | hlater
    · have hdrawn : token = o.token := (perform_sessions h sealer o op id token).1 hi
      exact ⟨(o, op), List.mem_cons_self, hdrawn.symm⟩
    · obtain ⟨turn, hturn, hdrawn⟩ := ih (sound_perform h sealer o op) hlater
      exact ⟨turn, List.mem_cons_of_mem _ hturn, hdrawn⟩

end Runs

/-! ## Tokens that are let in -/

/-- The tokens that let a user in are the live ones. -/
theorem opens_iff_live (sealer : Sealer) {run : List (Occasion × Operation)}
    (htokens : ∀ turn ∈ run, isToken turn.1.token = true) (id token : String) :
    (∃ row, Opens (performAll sealer .empty run).2 token id row) ↔
      Live (performAll sealer .empty run).1 id token := by
  have hrun := performAll_sessions sealer run id token Tables.Sound.empty
  have hempty : tokenOf .empty id = none := rfl
  rw [hempty] at hrun
  constructor
  · rintro ⟨row, ho⟩
    have htoken : tokenOf (performAll sealer .empty run).2 id = some token := by
      rw [tokenOf, ho.found, Option.map_some, ho.token_eq]
    rcases hrun.mp htoken with hlive | ⟨hnone, _⟩
    · exact hlive
    · exact nomatch hnone
  · intro hlive
    have htoken : tokenOf (performAll sealer .empty run).2 id = some token := hrun.mpr (.inl hlive)
    obtain ⟨before, step, after, hsteps, hissues, -⟩ := hlive
    have hmem : step ∈ (performAll sealer .empty run).1 := by
      rw [hsteps]
      exact List.mem_append_right before List.mem_cons_self
    obtain ⟨turn, hturn, rfl⟩ := drawn_of_issues sealer run id token .empty hmem hissues
    have hsize : turn.1.token.utf8ByteSize = tokenLength := utf8ByteSize_of_isToken (htokens turn hturn)
    rw [tokenOf, Option.map_eq_some_iff] at htoken
    obtain ⟨row, hr, hrow⟩ := htoken
    exact ⟨row, hr, hrow, by rw [hsize]; decide, Nat.le_of_eq hsize⟩

theorem opens_unique {t : Tables} (h : t.Sound) {token id other : String} {row found : SessionToken}
    (ho : Opens t token id row) (hf : Opens t token other found) : id = other :=
  h.token_unique ho.found hf.found (ho.token_eq.trans hf.token_eq.symm)

theorem validateToken_ok_iff {t : Tables} (h : t.Sound) (now : Instant) (token id : String) :
    ((validateToken now token).eval t).1 = .ok id ↔ ∃ row, Opens t token id row := by
  constructor
  · intro he
    have hout := validateToken_outcome h now token
    generalize (validateToken now token).eval t = result at hout he
    cases hout with
    | refused hno => cases he
    | granted ho =>
      cases he
      exact ⟨_, ho⟩
  · rintro ⟨row, ho⟩
    rw [validateToken_granted h now ho]

theorem loginWithToken_granted {t : Tables} (h : t.Sound) (o : Occasion) {token id : String}
    {row : SessionToken} (ho : Opens t token id row) :
    ∃ user t', user.id = id ∧ (loginWithToken o token).eval t = (.ok ⟨user, some token⟩, t') := by
  have hout := loginWithToken_outcome h o token
  generalize (loginWithToken o token).eval t = result at hout
  cases hout with
  | refused hno => exact absurd ho (hno id row)
  | @granted owner found user hf hu =>
    have hid : user.id = id := (h.user_id hu).trans (opens_unique h hf ho)
    exact ⟨user.apply (Changes.touch o.second), _, hid, rfl⟩

theorem loginWithToken_refused {t : Tables} (o : Occasion) {token : String}
    (hno : ∀ id row, ¬ Opens t token id row) :
    (loginWithToken o token).eval t = (.error .invalidToken, t) :=
  Action.eval_bind_error (validateToken_refused o.first hno)

end PlayerAccounts.Service
