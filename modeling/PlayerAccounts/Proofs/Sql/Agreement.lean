import PlayerAccounts.Proofs.Sql.Exchanges
import PlayerAccounts.Proofs.Sql.Stored
/-!
# The two stores agree

Over a database that gives statements their meaning, the store in the database answers calls as the store
in memory does, and holds the same rows. One call is one statement or a transaction, and what that does to
the database that holds the tables is what the call does to the tables. Runs of calls follow.
-/
namespace PlayerAccounts.Sql
set_option autoImplicit false

open PlayerAccounts.Account
open PlayerAccounts.Store
open PlayerAccounts.Time (Instant)

/-! ## Agreement -/

/-- The same answer; what is told of a session token that another user has may differ. -/
inductive SameAnswer :
    (call : Call) → Except StoreError call.Answer → Except StoreError call.Answer → Prop where
  | same (call : Call) (answer : Except StoreError call.Answer) : SameAnswer call answer answer
  | duplicate (id token : String) (now : Instant) (what what' : String) :
    SameAnswer (.issueToken id token now) (.error (.duplicate what)) (.error (.duplicate what'))

/-- Neither the check of the times of a token nor an update without anything to set stands in the way of
a statement. -/
def Exchange.IsPlain {σ : Type} (view : σ → Database) (e : Exchange σ) : Prop :=
  e.statement.isMalformed = false ∧ .check ∉ e.statement.violated (view e.before).rows

/-- At most one constraint stands against a statement. -/
def Exchange.IsSimple {σ : Type} (view : σ → Database) (e : Exchange σ) : Prop :=
  (e.statement.violated (view e.before).rows).length ≤ 1

instance {σ : Type} (view : σ → Database) (e : Exchange σ) : Decidable (e.IsSimple view) :=
  inferInstanceAs (Decidable (_ ≤ _))

section Calls
variable {σ : Type}

/-- On the store in the database and the store in memory a call comes to the same, and they hold the same
rows after it. -/
structure Agree (pool : Pool) (c : Connection σ) (view : σ → Database) (call : Call) (state : σ)
    (t : Tables) : Prop where
  answer : ∃ answer answer', ((pool.backend c).answer call state).1 = .ok answer ∧
    (Tables.backend.answer call t).1 = .ok answer' ∧ SameAnswer call answer answer'
  rows : view ((pool.backend c).answer call state).2 = stored (Tables.backend.answer call t).2
  plain : ∀ e ∈ pool.exchangesOf c call state, e.IsPlain view

variable {pool : Pool} {c : Connection σ} {view : σ → Database} {state : σ} {t : Tables} {call : Call}

theorem carryOut_of_reachable (hp : pool.isReachable = true) : pool.carryOut call = carryOut call := by
  rw [Pool.carryOut, if_pos hp]

/-- A call agrees if what it comes to, and what it sends, is known. -/
theorem agree_of_run {answer : Except StoreError call.Answer} {after : σ} {exchanges : List (Exchange σ)}
    (hp : pool.isReachable = true)
    (hrun : (carryOut call).run.run c state = (answer, after) ∧
      (carryOut call).run.exchanges c state = exchanges)
    (hsame : SameAnswer call answer (t.answer call).1) (hafter : view after = stored (t.answer call).2)
    (hplain : ∀ e ∈ exchanges, e.IsPlain view) : Agree pool c view call state t := by
  have hanswer : (pool.backend c).answer call state = (.ok answer, after) := by
    change ((Except.ok ((pool.carryOut call).run.run c state).1, _) : _ × σ) = _
    rw [carryOut_of_reachable hp, hrun.1]
  constructor
  · exact ⟨_, _, congrArg Prod.fst hanswer, rfl, hsame⟩
  · rw [hanswer]
    exact hafter
  · rw [Pool.exchangesOf, carryOut_of_reachable hp, hrun.2]
    exact hplain

/-! ## Calls of one statement -/

/-- A call agrees if the meaning of its statement does. -/
theorem agree_of_statement {statement : Statement}
    {finish : Except Refusal Reply → Except StoreError call.Answer} (hp : pool.isReachable = true)
    (hc : c.IsRelational view) (hview : view state = stored t)
    (hsimple : ∀ e ∈ pool.exchangesOf c call state, e.IsSimple view)
    (hrun : (carryOut call).run = .send statement fun reply => .done (finish reply))
    (hfits : statement.fits = true) (hformed : statement.isMalformed = false)
    (hcheck : .check ∉ statement.violated (contentsOf t))
    (hmeaning : (statement.violated (contentsOf t)).length ≤ 1 → ∀ reply after,
      Meaning statement (stored t) reply after →
      SameAnswer call (finish reply) (t.answer call).1 ∧ after = stored (t.answer call).2) :
    Agree pool c view call state t := by
  have hsent : (carryOut call).run.exchanges c state = [⟨state, statement, (c.execute statement state).1⟩] := by
    rw [hrun]
    rfl
  rw [Pool.exchangesOf, carryOut_of_reachable hp, hsent] at hsimple
  have hone : (statement.violated (view state).rows).length ≤ 1 := hsimple _ (List.mem_singleton_self _)
  have hmeans := hc state statement hfits
  rw [hview] at hone hmeans
  obtain ⟨hsame, hafter⟩ := hmeaning hone _ _ hmeans
  refine agree_of_run hp ⟨?_, hsent⟩ hsame hafter fun e he => ?_
  · rw [hrun]
    rfl
  · rw [List.mem_singleton.mp he]
    refine ⟨hformed, ?_⟩
    change Constraint.check ∉ statement.violated (view state).rows
    rw [hview]
    exact hcheck

section Statements
variable (hp : pool.isReachable = true) (hc : c.IsRelational view) (hview : view state = stored t)
include hp hc hview

/-! ### Users -/

theorem agree_addUser {u : User} (hsimple : ∀ e ∈ pool.exchangesOf c (.addUser u) state, e.IsSimple view)
    (hfits : UserFits u) : Agree pool c view (.addUser u) state t := by
  refine agree_of_statement hp hc hview hsimple (run_reworded readUser _ _) (fits_insertUser hfits) rfl ?_ ?_
  · rw [violated_addUser]
    split <;> decide
  intro _ reply after hm
  by_cases hknown : u.id ∈ t.users
  · have hviolated := (violated_addUser t u).trans (if_pos hknown)
    obtain ⟨text, rfl, rfl⟩ := hm.of_forbidden rfl rfl rfl hviolated
    rw [Tables.answer, Tables.addUser_of_known hknown]
    exact ⟨.same _ _, rfl⟩
  · have hviolated := (violated_addUser t u).trans (if_neg hknown)
    obtain ⟨rfl, rfl⟩ := hm.of_newRow (newRow_addUser t u) rfl rfl hviolated
    rw [Tables.answer, Tables.addUser_of_new hknown, firstRow_row (readUser_userRow hfits)]
    exact ⟨.same _ _, congrArg (Database.mk · none false) (put_user t u)⟩

/-- A selection leaves the database as it is. -/
theorem agree_of_select {r : Relation} {column : String} {value : Value} {name : String}
    {read : Row → Except QueryError call.Answer}
    (hsimple : ∀ e ∈ pool.exchangesOf c call state, e.IsSimple view)
    (hrun : carryOut call = lookedUp name read (.select r column value false))
    (hfits : (Statement.select r column value false).fits = true)
    (hfound : ∀ reply, (Statement.select r column value false).Answers (contentsOf t) reply →
      (foundRow name read (.ok reply), t) = t.answer call) :
    Agree pool c view call state t := by
  have hquery := (congrArg ExceptT.run hrun).trans (run_lookedUp read _ name)
  refine agree_of_statement hp hc hview hsimple hquery hfits rfl (List.not_mem_nil) ?_
  intro _ reply after hm
  obtain ⟨answer, rfl, hanswer, rfl⟩ := hm.of_allowed rfl rfl rfl rfl
  rw [← hfound answer hanswer]
  exact ⟨.same _ _, rfl⟩

theorem agree_findUser (h : t.Sound) (hfit : TablesFit t) {id : String}
    (hsimple : ∀ e ∈ pool.exchangesOf c (.findUser id) state, e.IsSimple view)
    (hid : textFits 32 id = true) : Agree pool c view (.findUser id) state t := by
  refine agree_of_select hp hc hview hsimple rfl ?_ fun reply hanswer => ?_
  · exact fits_select ⟨"user_id", .text, false⟩ rfl rfl hid false
  · rw [Tables.answer, foundRow_user h hfit hanswer]

theorem agree_amendUser (h : t.Sound) (hfit : TablesFit t) {id : String} {changes : Changes}
    (hsimple : ∀ e ∈ pool.exchangesOf c (.amendUser id changes) state, e.IsSimple view)
    (hid : textFits 32 id = true) (hchanges : ChangesFit changes) :
    Agree pool c view (.amendUser id changes) state t := by
  by_cases hempty : changes.isEmpty = true
  · have hnone : changes = Changes.none := beq_iff_eq.mp hempty
    have hrun : carryOut (.amendUser id changes) =
        lookedUp (userNamed id) readUser (.select .user keyName (.text id) false) := if_pos hempty
    refine agree_of_select hp hc hview hsimple hrun ?_ fun reply hanswer => ?_
    · exact fits_select ⟨"user_id", .text, false⟩ rfl rfl hid false
    rw [foundRow_user h hfit hanswer, Tables.answer]
    cases hu : t.users[id]? with
    | none =>
      have hn := not_mem_of_lookup hu
      rw [Tables.findUser_of_absent hn, Tables.amendUser_of_absent hn]
    | some u =>
      have hsame : u.apply changes = u := hnone ▸ rfl
      rw [Tables.findUser_of_row hu, h.amendUser_of_row hu, hsame, h.putUser_row hu]
  · have hrun : carryOut (.amendUser id changes) =
        lookedUp (userNamed id) readUser (.update .user (assignments changes) id) := if_neg hempty
    have hformed : (Statement.update .user (assignments changes) id).isMalformed = false := by
      cases ha : assignments changes with
      | nil => exact absurd (beq_iff_eq.mpr (eq_none_of_assignments ha)) hempty
      | cons first rest => rfl
    have hallowed := violated_amendUser t changes id
    refine agree_of_statement hp hc hview hsimple ((congrArg ExceptT.run hrun).trans (run_lookedUp _ _ _))
      (fits_updateUser hid hchanges) hformed (hallowed ▸ List.not_mem_nil) fun _ reply after hm => ?_
    rw [Tables.answer]
    cases hu : t.users[id]? with
    | none =>
      have hmissing : (contentsOf t .user)[id]? = none := by
        rw [lookup_user, hu]
        rfl
      obtain ⟨rfl, rfl⟩ := hm.of_missing hmissing rfl hformed
      rw [Tables.amendUser_of_absent (not_mem_of_lookup hu)]
      exact ⟨.same _ _, rfl⟩
    | some u =>
      have hnew := newRow_amendUser t changes id
      rw [hu] at hnew
      obtain ⟨rfl, rfl⟩ := hm.of_newRow hnew rfl hformed hallowed
      rw [h.amendUser_of_row hu, foundRow_row _ (readUser_userRow ((hfit.user hu).apply hchanges))]
      exact ⟨.same _ _, congrArg (Database.mk · none false) (put_user t _)⟩

theorem agree_removeUser (h : t.Sound) {id : String}
    (hsimple : ∀ e ∈ pool.exchangesOf c (.removeUser id) state, e.IsSimple view)
    (hid : textFits 32 id = true) : Agree pool c view (.removeUser id) state t := by
  refine agree_of_statement hp hc hview hsimple (run_removeUser id) hid rfl List.not_mem_nil ?_
  intro _ reply after hm
  obtain ⟨answer, rfl, hanswer, rfl⟩ := hm.of_allowed rfl rfl rfl rfl
  have hafter : (contentsOf t).without .user id = contentsOf (t.without id) := without_user t id
  by_cases hknown : id ∈ t.users
  · have hcount : answer = .affected 1 :=
      hanswer.trans (congrArg Reply.affected (if_pos ((contains_user t id).mpr hknown)))
    rw [Tables.answer, Tables.removeUser_of_mem hknown, hcount]
    exact ⟨.same _ _, congrArg (Database.mk · none false) hafter⟩
  · have hcount : answer = .affected 0 :=
      hanswer.trans (congrArg Reply.affected (if_neg (mt (contains_user t id).mp hknown)))
    rw [h.without_absent hknown] at hafter
    rw [Tables.answer, Tables.removeUser_of_absent hknown, hcount]
    exact ⟨.same _ _, congrArg (Database.mk · none false) hafter⟩

/-! ### Credentials -/

theorem agree_setCredential (h : t.Sound) {credential : Credential}
    (hsimple : ∀ e ∈ pool.exchangesOf c (.setCredential credential) state, e.IsSimple view)
    (hfits : CredentialFits credential) : Agree pool c view (.setCredential credential) state t := by
  refine agree_of_statement hp hc hview hsimple (run_reworded readCredential _ _)
    (fits_insertCredential hfits) rfl ?_ ?_
  · rw [violated_setCredential]
    exact check_not_mem_standing t _ _
  intro hone reply after hm
  rw [violated_setCredential] at hone
  rcases standing_cases (by decide) (isTaken_credential t credential) hone with
    ⟨huser, hfree, hnone⟩ | ⟨huser, htaken, hunique⟩ | ⟨hnobody, hreference⟩
  · obtain ⟨rfl, rfl⟩ := hm.of_newRow (newRow_setCredential t credential) rfl rfl
      ((violated_setCredential t credential).trans hnone)
    rw [Tables.answer, h.setCredential_of_free huser hfree]
    exact ⟨.same _ _, congrArg (Database.mk · none false) (put_credential t credential)⟩
  · obtain ⟨text, rfl, rfl⟩ :=
      hm.of_forbidden rfl rfl rfl ((violated_setCredential t credential).trans hunique)
    rw [Tables.answer, h.setCredential_of_taken huser htaken]
    exact ⟨.same _ _, rfl⟩
  · obtain ⟨text, rfl, rfl⟩ :=
      hm.of_forbidden rfl rfl rfl ((violated_setCredential t credential).trans hreference)
    rw [Tables.answer, Tables.setCredential_of_absent hnobody]
    exact ⟨.same _ _, rfl⟩

theorem agree_credentialOfLogin (h : t.Sound) {login : String}
    (hsimple : ∀ e ∈ pool.exchangesOf c (.credentialOfLogin login) state, e.IsSimple view)
    (hlogin : textFits 32 login = true) : Agree pool c view (.credentialOfLogin login) state t := by
  refine agree_of_select hp hc hview hsimple rfl ?_ fun reply hanswer => ?_
  · exact fits_select ⟨"login_user", .text, false⟩ rfl rfl hlogin false
  · rw [Tables.answer, foundRow_credentialOfLogin h hanswer]

theorem agree_credentialOfUser (h : t.Sound) {id : String}
    (hsimple : ∀ e ∈ pool.exchangesOf c (.credentialOfUser id) state, e.IsSimple view)
    (hid : textFits 32 id = true) : Agree pool c view (.credentialOfUser id) state t := by
  refine agree_of_select hp hc hview hsimple rfl ?_ fun reply hanswer => ?_
  · exact fits_select ⟨"user_id", .text, false⟩ rfl rfl hid false
  · rw [Tables.answer, foundRow_credentialOfUser h hanswer]

/-! ### Session tokens -/

theorem agree_issueToken (h : t.Sound) {id token : String} {now : Instant}
    (hsimple : ∀ e ∈ pool.exchangesOf c (.issueToken id token now) state, e.IsSimple view)
    (hfits : TokenFits (.issued id token now)) : Agree pool c view (.issueToken id token now) state t := by
  refine agree_of_statement hp hc hview hsimple (run_reworded readToken _ _) (fits_insertToken hfits) rfl
    ?_ ?_
  · rw [violated_issueToken]
    exact check_not_mem_standing t _ _
  intro hone reply after hm
  rw [violated_issueToken] at hone
  rcases standing_cases (by decide) (isTaken_token t (.issued id token now)) hone with
    ⟨(huser : id ∈ t.users), (hfree : t.TokenFreeFor id token), hnone⟩ |
    ⟨(huser : id ∈ t.users), (htaken : ¬ t.TokenFreeFor id token), hunique⟩ |
    ⟨(hnobody : id ∉ t.users), hreference⟩
  · obtain ⟨rfl, rfl⟩ := hm.of_newRow (newRow_issueToken t (.issued id token now)) rfl rfl
      ((violated_issueToken t id token now).trans hnone)
    rw [Tables.answer, h.issueToken_of_free huser hfree, firstRow_row (readToken_tokenRow hfits)]
    exact ⟨.same _ _, congrArg (Database.mk · none false) (put_token t _)⟩
  · obtain ⟨text, rfl, rfl⟩ :=
      hm.of_forbidden rfl rfl rfl ((violated_issueToken t id token now).trans hunique)
    rw [Tables.answer, h.issueToken_of_taken huser htaken]
    exact ⟨.duplicate _ _ _ _ _, rfl⟩
  · obtain ⟨text, rfl, rfl⟩ :=
      hm.of_forbidden rfl rfl rfl ((violated_issueToken t id token now).trans hreference)
    rw [Tables.answer, Tables.issueToken_of_absent hnobody]
    exact ⟨.same _ _, rfl⟩

theorem agree_revokeToken {id : String}
    (hsimple : ∀ e ∈ pool.exchangesOf c (.revokeToken id) state, e.IsSimple view)
    (hid : textFits 32 id = true) : Agree pool c view (.revokeToken id) state t := by
  refine agree_of_statement hp hc hview hsimple (run_revokeToken id) hid rfl List.not_mem_nil ?_
  intro _ reply after hm
  obtain ⟨answer, rfl, hanswer, rfl⟩ := hm.of_allowed rfl rfl rfl rfl
  exact ⟨.same _ _, congrArg (Database.mk · none false) (without_token t id)⟩

end Statements

/-! ## The use of a session token -/

section Use
variable {token : String} {now : Instant} {s₀ s₁ s₂ s₃ s₄ : σ} {begun found updated ended : Reply}
  (hbegin : c.execute .begin s₀ = (.ok begun, s₁))
  (hselect : c.execute (.select .sessionToken "token" (.text token) true) s₁ = (.ok found, s₂))
include hbegin hselect

/-- The use of a token that nobody has ends in a rollback. -/
theorem run_useToken_of_none {e : StoreError}
    (hfound : foundRow tokenNamed readToken (.ok found) = .error e)
    (hrollback : c.execute .rollback s₂ = (.ok ended, s₃)) :
    (useToken token now).run.run c s₀ = (.error e, s₃) ∧
      (useToken token now).run.exchanges c s₀ = [⟨s₀, .begin, .ok begun⟩,
        ⟨s₁, .select .sessionToken "token" (.text token) true, .ok found⟩, ⟨s₂, .rollback, .ok ended⟩] := by
  rw [run_useToken]
  simp only [Query.run, Query.exchanges, Query.run_bind, Query.exchanges_bind, ending, hbegin, hselect,
    hfound, hrollback]
  exact ⟨rfl, rfl⟩

/-- The use of a token that a user has is recorded and kept. -/
theorem run_useToken_of_row {row row' : SessionToken}
    (hfound : foundRow tokenNamed readToken (.ok found) = .ok row)
    (hupdate : c.execute (useUpdate row now) s₂ = (.ok updated, s₃))
    (hread : firstRow readToken (.ok updated) = .ok row')
    (hcommit : c.execute .commit s₃ = (.ok ended, s₄)) :
    (useToken token now).run.run c s₀ = (.ok row', s₄) ∧
      (useToken token now).run.exchanges c s₀ = [⟨s₀, .begin, .ok begun⟩,
        ⟨s₁, .select .sessionToken "token" (.text token) true, .ok found⟩,
        ⟨s₂, useUpdate row now, .ok updated⟩, ⟨s₃, .commit, .ok ended⟩] := by
  rw [run_useToken]
  unfold useUpdate at hupdate ⊢
  simp only [Query.run, Query.exchanges, Query.run_bind, Query.exchanges_bind, ending, Except.mapError,
    hbegin, hselect, hfound, hupdate, hread, hcommit]
  exact ⟨rfl, rfl⟩

end Use

theorem agree_useToken (hp : pool.isReachable = true) (hc : c.IsRelational view)
    (hview : view state = stored t) (h : t.Sound) (hfit : TablesFit t) {token : String} {now : Instant}
    (htoken : textFits 64 token = true) (hnow : InstantFits now) :
    Agree pool c view (.useToken token now) state t := by
  have hselectFits : (Statement.select .sessionToken "token" (.text token) true).fits = true :=
    fits_select ⟨"token", .text, false⟩ rfl rfl htoken true
  -- The transaction begins with the rows of the tables.
  obtain ⟨_, s₁, hbegin, hmeans⟩ := hc.step .begin rfl state
  rw [hview] at hmeans
  obtain ⟨rfl, hs₁⟩ := hmeans.of_begin
  obtain ⟨_, s₂, hselect, hmeans⟩ := hc.step _ hselectFits s₁
  rw [hs₁] at hmeans
  obtain ⟨reply, rfl, hanswer, hs₂⟩ := hmeans.of_allowed rfl rfl rfl rfl
  rcases foundRow_token hfit hanswer with ⟨hfree, hfound⟩ | ⟨id, row, hr, rfl, hfound⟩
  · obtain ⟨_, s₃, hrollback, hmeans⟩ := hc.step .rollback rfl s₂
    rw [hs₂] at hmeans
    obtain ⟨rfl, hs₃⟩ := hmeans.of_rollback
    refine agree_of_run hp (run_useToken_of_none hbegin hselect hfound hrollback) ?_ ?_ ?_
    · rw [Tables.answer, Tables.useToken_of_free hfree]
      exact .same _ _
    · rw [Tables.answer, Tables.useToken_of_free hfree]
      exact hs₃
    · simp only [List.forall_mem_cons]
      exact ⟨⟨rfl, List.not_mem_nil⟩, ⟨rfl, List.not_mem_nil⟩, ⟨rfl, List.not_mem_nil⟩, List.forall_mem_nil _⟩
  · have hrow := hfit.token hr
    have hallowed := violated_useUpdate h hrow hr hnow
    obtain ⟨_, s₃, hupdate, hmeans⟩ := hc.step _ (fits_updateToken hrow hnow) s₂
    rw [hs₂] at hmeans
    obtain ⟨rfl, hs₃⟩ := hmeans.of_newRow (newRow_useUpdate h hr now) rfl rfl hallowed
    obtain ⟨_, s₄, hcommit, hmeans⟩ := hc.step .commit rfl s₃
    rw [hs₃] at hmeans
    obtain ⟨rfl, hs₄⟩ := hmeans.of_commit
    have hread := firstRow_row (readToken_tokenRow (hrow.used hnow))
    refine agree_of_run hp (run_useToken_of_row hbegin hselect hfound hupdate hread hcommit) ?_ ?_ ?_
    · rw [Tables.answer, h.useToken_of_row hr]
      exact .same _ _
    · rw [Tables.answer, h.useToken_of_row hr]
      exact hs₄.trans (congrArg (Database.mk · none false) (put_token t _))
    · have hcheck : .check ∉ (useUpdate row now).violated (view s₂).rows := by
        rw [hs₂]
        exact hallowed ▸ List.not_mem_nil
      simp only [List.forall_mem_cons]
      exact ⟨⟨rfl, List.not_mem_nil⟩, ⟨rfl, List.not_mem_nil⟩, ⟨rfl, hcheck⟩, ⟨rfl, List.not_mem_nil⟩,
        List.forall_mem_nil _⟩

/-! ## All calls -/

/-- Every call that fits agrees, unless two constraints stand against its statement. -/
theorem agree_call (hp : pool.isReachable = true) (hc : c.IsRelational view) (hview : view state = stored t)
    (h : t.Sound) (hfit : TablesFit t) (call : Call) (hcall : CallFits call)
    (hsimple : ∀ e ∈ pool.exchangesOf c call state, e.IsSimple view) : Agree pool c view call state t := by
  cases call with
  | addUser u => exact agree_addUser hp hc hview hsimple hcall
  | findUser id => exact agree_findUser hp hc hview h hfit hsimple hcall
  | amendUser id changes => exact agree_amendUser hp hc hview h hfit hsimple hcall.1 hcall.2
  | removeUser id => exact agree_removeUser hp hc hview h hsimple hcall
  | setCredential credential => exact agree_setCredential hp hc hview h hsimple hcall
  | credentialOfLogin login => exact agree_credentialOfLogin hp hc hview h hsimple hcall
  | credentialOfUser id => exact agree_credentialOfUser hp hc hview h hsimple hcall
  | issueToken id token now => exact agree_issueToken hp hc hview h hsimple hcall
  | useToken token now => exact agree_useToken hp hc hview h hfit hcall.1 hcall.2
  | revokeToken id => exact agree_revokeToken hp hc hview hsimple hcall

end Calls

/-! ## Runs of calls -/

section Runs
variable {σ : Type}

/-- The state after calls that are made one after the other. -/
def afterCalls (b : Backend σ) (calls : List Call) (state : σ) : σ :=
  calls.foldl (fun state call => (b.answer call state).2) state

/-- The exchanges of calls that are made one after the other. -/
def Pool.exchangesOfCalls (p : Pool) (c : Connection σ) : List Call → σ → List (Exchange σ)
  | [], _ => []
  | call :: calls, state =>
    p.exchangesOf c call state ++ p.exchangesOfCalls c calls ((p.backend c).answer call state).2

/-- On a run that starts with the same rows every call agrees. -/
theorem agree_run {pool : Pool} (hp : pool.isReachable = true) {c : Connection σ} {view : σ → Database}
    (hc : c.IsRelational view) (before : List Call) {state : σ} {t : Tables} (hview : view state = stored t)
    (h : t.Sound) (hfit : TablesFit t) {call : Call} {rest : List Call}
    (hfits : ∀ k ∈ before ++ call :: rest, CallFits k)
    (hsimple : ∀ e ∈ pool.exchangesOfCalls c (before ++ call :: rest) state, e.IsSimple view) :
    Agree pool c view call (afterCalls (pool.backend c) before state)
      (afterCalls Tables.backend before t) := by
  -- The tables stay sound and their rows fit; the database holds the same rows before every call.
  induction before generalizing state t with
  | nil =>
    have hcall := hfits call List.mem_cons_self
    exact agree_call hp hc hview h hfit call hcall fun e he => hsimple e (List.mem_append_left _ he)
  | cons first before ih =>
    have hfirst := hfits first List.mem_cons_self
    have hagree := agree_call hp hc hview h hfit first hfirst fun e he =>
      hsimple e (List.mem_append_left _ he)
    exact ih hagree.rows (h.answer first) (hfit.answer h hfirst)
      (fun k hk => hfits k (List.mem_cons_of_mem _ hk)) fun e he => hsimple e (List.mem_append_right _ he)

/-- From the start, when both stores are empty, every call of a run comes to the same on both, and they
hold the same rows after it. -/
theorem stores_agree {pool : Pool} (hp : pool.isReachable = true) {c : Connection σ} {view : σ → Database}
    (hc : c.IsRelational view) {state : σ} (hempty : view state = .empty) (calls : List Call)
    (hfits : ∀ call ∈ calls, CallFits call)
    (hsimple : ∀ e ∈ pool.exchangesOfCalls c calls state, e.IsSimple view)
    {before : List Call} {call : Call} {rest : List Call} (hcalls : calls = before ++ call :: rest) :
    Agree pool c view call (afterCalls (pool.backend c) before state)
      (afterCalls Tables.backend before Tables.empty) := by
  subst hcalls
  exact agree_run hp hc before (hempty.trans stored_empty.symm) .empty .empty hfits hsimple

end Runs

/-- Ann and Bob come, Bob draws Ann's token, Ann's is used, and Ann goes. -/
def annAndBob : List Call :=
  [.addUser (User.fresh "ann" default none), .setCredential ⟨"ann", "Ann", "hash", "salt"⟩,
    .issueToken "ann" "A" default, .addUser (User.fresh "bob" default none),
    .issueToken "bob" "A" default, .useToken "A" default, .removeUser "ann", .useToken "A" default]

theorem annAndBob_agrees :
    (Database.connection.IsRelational id ∧ (∀ call ∈ annAndBob, CallFits call) ∧
      ∀ e ∈ Pool.exchangesOfCalls ⟨5, true⟩ Database.connection annAndBob Database.empty, e.IsSimple id) ∧
    ∀ {before : List Call} {call : Call} {rest : List Call}, annAndBob = before ++ call :: rest →
      Agree ⟨5, true⟩ Database.connection id call
        (afterCalls (Pool.backend ⟨5, true⟩ Database.connection) before Database.empty)
        (afterCalls Tables.backend before Tables.empty) := by
  have hepoch : InstantFits default := by decide
  have hnone {α : Type} {P : α → Prop} : ∀ a ∈ (none : Option α), P a := fun a ha =>
    absurd ha (Option.not_mem_none a)
  have huser (id : String) (hid : textFits 32 id = true) : UserFits (User.fresh id default none) :=
    ⟨hid, hnone, hepoch, hepoch, hnone, hnone⟩
  have htoken (id : String) (hid : textFits 32 id = true) : TokenFits (.issued id "A" default) :=
    ⟨hid, hepoch, hepoch, (by decide : textFits 64 "A" = true)⟩
  have hfits : ∀ call ∈ annAndBob, CallFits call := by
    simp only [annAndBob, List.forall_mem_cons]
    exact ⟨huser _ (by decide), ⟨by decide, by decide, by decide, by decide⟩, htoken _ (by decide),
      huser _ (by decide), htoken _ (by decide), ⟨by decide, hepoch⟩,
      (by decide : textFits 32 "ann" = true), ⟨by decide, hepoch⟩, List.forall_mem_nil _⟩
  have hall : (Pool.exchangesOfCalls ⟨5, true⟩ Database.connection annAndBob Database.empty).all
      (fun e => e.IsSimple id) = true := rfl
  have hsimple : ∀ e ∈ Pool.exchangesOfCalls ⟨5, true⟩ Database.connection annAndBob Database.empty,
      e.IsSimple id := fun e he => of_decide_eq_true (List.all_eq_true.mp hall e he)
  have hrelational := Database.connection_isRelational
  exact ⟨⟨hrelational, hfits, hsimple⟩, stores_agree rfl hrelational rfl annAndBob hfits hsimple⟩

/-! ## Instants that are not kept -/

/-- Ann comes at an instant. -/
def annAt (t : Instant) : Call := .addUser (User.fresh "ann" t none)

/-- 2016-12-31T23:59:60Z. -/
def leapSecond : Instant := ⟨1483228799, 1000000000, by decide, by decide, by decide, by decide⟩

/-- -5000-01-01T00:00:00Z, when no timestamps are stored yet. -/
def longAgo : Instant :=
  { Instant.epoch with
    second := -219951936000, first_le := by decide, le_last := by decide, leap_at_59 := by decide }

/-- The same answer to a call that adds a user has the same second of registration. -/
theorem SameAnswer.registered {u : User} {answer answer' : Except StoreError User}
    (h : SameAnswer (.addUser u) answer answer') :
    answer.toOption.map (·.registered.second) = answer'.toOption.map (·.registered.second) := by
  cases h with
  | same => rfl

/-- The second of registration that a store answers with when Ann comes, if it lets her in. -/
def registeredAt {σ : Type} (b : Backend σ) (t : Instant) (state : σ) : Option Int :=
  ((b.answer (annAt t) state).1.toOption.bind Except.toOption).map (·.registered.second)

theorem not_agree_annAt {t : Instant}
    (hne : registeredAt (Pool.backend ⟨5, true⟩ Database.connection) t Database.empty ≠
      registeredAt Tables.backend t Tables.empty) :
    ¬ Agree ⟨5, true⟩ Database.connection id (annAt t) Database.empty Tables.empty := by
  intro hagree
  obtain ⟨answer, answer', hanswer, hanswer', hsame⟩ := hagree.answer
  refine hne ?_
  rw [registeredAt, registeredAt, hanswer, hanswer']
  exact hsame.registered

/-- A user who comes in a leap second comes a second later for the database, and one who came long ago does
not come for the database at all, although neither instant has parts below a microsecond. -/
theorem instants_not_kept :
    (Database.connection.IsRelational id ∧ textFits 32 "ann" = true) ∧
    ∀ t ∈ [leapSecond, longAgo], t.nanos % 1000 = 0 ∧
      (∀ e ∈ Pool.exchangesOf ⟨5, true⟩ Database.connection (annAt t) Database.empty, e.IsSimple id) ∧
      ¬ Agree ⟨5, true⟩ Database.connection id (annAt t) Database.empty Tables.empty := by
  refine ⟨⟨Database.connection_isRelational, rfl⟩, List.forall_mem_cons.mpr ⟨?_, List.forall_mem_cons.mpr ⟨?_,
    List.forall_mem_nil _⟩⟩⟩
  · have hall : (Pool.exchangesOf ⟨5, true⟩ Database.connection (annAt leapSecond) Database.empty).all
        (fun e => e.IsSimple id) = true := rfl
    have hlater : registeredAt (Pool.backend ⟨5, true⟩ Database.connection) leapSecond Database.empty =
      some 1483228800 := rfl
    have hkept : registeredAt Tables.backend leapSecond Tables.empty = some 1483228799 := rfl
    refine ⟨rfl, fun e he => of_decide_eq_true (List.all_eq_true.mp hall e he), not_agree_annAt ?_⟩
    rw [hlater, hkept]
    decide
  · have hall : (Pool.exchangesOf ⟨5, true⟩ Database.connection (annAt longAgo) Database.empty).all
        (fun e => e.IsSimple id) = true := rfl
    have hrefused : registeredAt (Pool.backend ⟨5, true⟩ Database.connection) longAgo Database.empty = none :=
      rfl
    have hkept : registeredAt Tables.backend longAgo Tables.empty = some (-219951936000) := rfl
    refine ⟨rfl, fun e he => of_decide_eq_true (List.all_eq_true.mp hall e he), not_agree_annAt ?_⟩
    rw [hrefused, hkept]
    decide

end PlayerAccounts.Sql
