import PlayerAccounts.Proofs.Service.Stages
/-!
# Logins during a change of password

A change of password replaces the credential and then ends the session, in two calls. Logins that go on
meanwhile look up the credential, and issue a session token two calls later. A login that has looked up the
credential before it is replaced, and issues its token after the session is ended, overtakes the change:
its session is the only kind that may outlive the change without the new password having been shown.
-/
namespace PlayerAccounts.Service
set_option autoImplicit false

open PlayerAccounts.Account
open PlayerAccounts.Store

/-! ## One login among others -/

section One
variable {o : Occasion} {r : Api.PasswordLogin} {userId : String} {q q' : Prop} {t t' : Tables}
  {p : Program (Except ServiceError Api.Session)}

/-- How far a login has come, from what is left of its program. If it is a login of this user and the
password has been checked, then `q` holds. -/
inductive LoginStage (o : Occasion) (r : Api.PasswordLogin) (userId : String) (q : Prop) :
    Program (Except ServiceError Api.Session) → Prop where
  | looking : LoginStage o r userId q (loginWithPassword o r).run
  | touching {id : String} : (id = userId → q) → LoginStage o r userId q (touching o r id)
  | issuing {user : User} : (user.id = userId → q) → LoginStage o r userId q (opening true o.later user)
  | noting {event : Event} {result : Except ServiceError Api.Session} :
      LoginStage o r userId q (.note event (.done result))
  | done {result : Except ServiceError Api.Session} : LoginStage o r userId q (.done result)

theorem LoginStage.mono (hq : q → q') (h : LoginStage o r userId q p) : LoginStage o r userId q' p := by
  cases h with
  | looking => exact .looking
  | touching h => exact .touching fun hid => hq (h hid)
  | issuing h => exact .issuing fun hid => hq (h hid)
  | noting => exact .noting
  | done => exact .done

/-- What the next step of a login does: it goes on to another stage and leaves the credentials alone, and
a new session of the user is one for which `q` holds. -/
def Proceeds (o : Occasion) (r : Api.PasswordLogin) (userId : String) (q : Prop) (t : Tables) :
    Program (Except ServiceError Api.Session) → Prop
  | .done _ => True
  | .ask call next => LoginStage o r userId q (next (t.answer call).1) ∧
      (t.answer call).2.credentials = t.credentials ∧
      ∀ row, (t.answer call).2.tokens[userId]? = some row →
        t.tokens[userId]? = some row ∨ q ∧ row.token = o.token
  | .note _ next => LoginStage o r userId q next

theorem Proceeds.of_answer {call : Call} {answer : Except StoreError call.Answer}
    {next : Except StoreError call.Answer → Program (Except ServiceError Api.Session)}
    (hcall : t.answer call = (answer, t')) (hs : LoginStage o r userId q (next answer))
    (hc : t'.credentials = t.credentials)
    (hk : ∀ row, t'.tokens[userId]? = some row →
      t.tokens[userId]? = some row ∨ q ∧ row.token = o.token) :
    Proceeds o r userId q t (.ask call next) := by
  rw [Proceeds, hcall]
  exact ⟨hs, hc, hk⟩

theorem stage_opening (wanted : Bool) {user : User} (hq : user.id = userId → q) :
    LoginStage o r userId q (opening wanted o.later user) := by
  cases wanted with
  | false => exact .done
  | true => exact .issuing hq

theorem stage_checking {c : Credential}
    (hq : c.userId = userId → checkPassword r.password c.hash c.salt = .ok true → q) :
    LoginStage o r userId q (checking o r c) := by
  unfold checking
  cases hp : checkPassword r.password c.hash c.salt with
  | error fault => exact .noting
  | ok fits =>
    cases fits with
    | false => exact .done
    | true => exact .touching fun hid => hq hid hp

theorem looking_proceeds (h : t.Sound)
    (hq : ∀ c, t.credentials[userId]? = some c → checkPassword r.password c.hash c.salt = .ok true → q) :
    Proceeds o r userId q t (loginWithPassword o r).run := by
  rw [run_loginWithPassword]
  rcases h.answer_credentialOfLogin r.login with ⟨-, hcall⟩ | ⟨id, c, hc, -, hcall⟩
  · exact .of_answer hcall .done rfl fun row hr => .inl hr
  · have hid : c.userId = id := h.credential_id hc
    refine .of_answer hcall (stage_checking fun he hp => ?_) rfl fun row hr => .inl hr
    exact hq c ((hid.symm.trans he) ▸ hc) hp

theorem touching_proceeds (h : t.Sound) {id : String} (hq : id = userId → q) :
    Proceeds o r userId q t (touching o r id) := by
  by_cases hm : id ∈ t.users
  · obtain ⟨user, hu⟩ := exists_lookup_of_mem hm
    have hcall : t.answer (.amendUser id (Changes.touch o.first)) = _ := h.amendUser_of_row hu _
    have hid : user.id = id := h.user_id hu
    exact .of_answer hcall (stage_opening r.remember fun he => hq (hid.symm.trans he)) rfl
      fun row hr => .inl hr
  · have hcall : t.answer (.amendUser id (Changes.touch o.first)) = _ := Tables.amendUser_of_absent hm _
    exact .of_answer hcall .done rfl fun row hr => .inl hr

theorem issuing_proceeds (h : t.Sound) {user : User} (hq : user.id = userId → q) :
    Proceeds o r userId q t (opening true o.later user) := by
  by_cases hm : user.id ∈ t.users
  · by_cases hk : t.TokenFreeFor user.id o.token
    · have hcall : t.answer (.issueToken user.id o.token o.second) = _ := h.issueToken_of_free hm hk o.second
      refine .of_answer hcall .done rfl fun row hr => ?_
      rw [Tables.tokens_putToken] at hr
      split at hr
      · rename_i hid
        exact .inr ⟨hq hid, by rw [← Option.some.inj hr]; rfl⟩
      · exact .inl hr
    · have hcall : t.answer (.issueToken user.id o.token o.second) = _ := h.issueToken_of_taken hm hk o.second
      exact .of_answer hcall .done rfl fun row hr => .inl hr
  · have hcall : t.answer (.issueToken user.id o.token o.second) = _ :=
      Tables.issueToken_of_absent hm o.token o.second
    exact .of_answer hcall .done rfl fun row hr => .inl hr

/-- A login proceeds, and `q` holds of it once it has passed the check against the credential that stands
there. -/
theorem LoginStage.proceeds (hs : LoginStage o r userId q p) (h : t.Sound)
    (hq : ∀ c, t.credentials[userId]? = some c → checkPassword r.password c.hash c.salt = .ok true → q) :
    Proceeds o r userId q t p := by
  cases hs with
  | looking => exact looking_proceeds h hq
  | touching hid => exact touching_proceeds h hid
  | issuing hid => exact issuing_proceeds h hid
  | noting => exact .done
  | done => exact True.intro

end One

/-! ## All logins together -/

/-- What the callers yield: the change of password, and the logins. -/
abbrev Yields (ι : Type) : Option ι → Type
  | none => Except ServiceError Unit
  | some _ => Except ServiceError Api.Session

/-- A change of password and logins before their first turn, on the tables that they share. -/
def meeting (sealer : Sealer) (drawn : Occasion) (userId : String) (change : Api.PasswordChange) {ι : Type}
    (o : ι → Occasion) (r : ι → Api.PasswordLogin) (t : Tables) : Shared (Yields ι) where
  callers
    | none => (changePassword sealer drawn userId change).run
    | some i => (loginWithPassword (o i) (r i)).run
  tables := t

/-- What holds of the logins between the calls. -/
structure LoginsUnderway (userId : String) {ι : Type} (o : ι → Occasion) (r : ι → Api.PasswordLogin)
    (q : ι → Prop) (s : Shared (Yields ι)) : Prop where
  sound : s.tables.Sound
  logins : ∀ i, LoginStage (o i) (r i) userId (q i) (s.callers (some i))

/-- The login has not come to an end. -/
def StillOn {ι : Type} (s : Shared (Yields ι)) (i : ι) : Prop :=
  ∀ result, s.callers (some i) ≠ .done result

/-- Once the credential is replaced, it stays so. -/
structure Replaced (userId : String) {ι : Type} (o : ι → Occasion) (r : ι → Api.PasswordLogin)
    (q : ι → Prop) (new : Credential) (s : Shared (Yields ι)) : Prop
    extends LoginsUnderway userId o r q s where
  credential : s.tables.credentials[userId]? = some new
  change : s.callers none = revoking userId ∨ s.callers none = .done (.ok ())

/-- Once the session is ended, which is the case in `ended`, the user has none but those that `q` holds of
later on. -/
structure Revoked (userId : String) {ι : Type} (o : ι → Occasion) (r : ι → Api.PasswordLogin)
    (q : ι → Prop) (new : Credential) (ended s : Shared (Yields ι)) : Prop
    extends Replaced userId o r q new s where
  ended_well : s.callers none = .done (.ok ())
  still_on : ∀ i, StillOn s i → StillOn ended i
  sessions : ∀ row, s.tables.tokens[userId]? = some row → ∃ i, q i ∧ row.token = (o i).token

section All
variable {ι : Type} {userId : String} {o : ι → Occasion} {r : ι → Api.PasswordLogin} {q q' : ι → Prop}
  {new : Credential} {s : Shared (Yields ι)}

theorem Replaced.of_fits (h : Replaced userId o r q new s)
    (hq : ∀ i, StillOn s i → checkPassword (r i).password new.hash new.salt = .ok true → q i) (i : ι)
    (hon : StillOn s i) (c : Credential) (hc : s.tables.credentials[userId]? = some c)
    (hp : checkPassword (r i).password c.hash c.salt = .ok true) : q i := by
  rw [h.credential] at hc
  rw [← Option.some.inj hc] at hp
  exact hq i hon hp

variable [DecidableEq ι]

theorem StillOn.of_turn {j : Option ι} {i : ι} (h : StillOn (s.turn j) i) : StillOn s i :=
  fun _ hdone => h _ (Shared.afterTurns_of_done hdone [j])

theorem LoginsUnderway.turn_change (h : LoginsUnderway userId o r q s) :
    LoginsUnderway userId o r q (s.turn none) := by
  refine ⟨Shared.sound_turn h.sound none, fun i => ?_⟩
  rw [Shared.callers_turn_of_ne (Option.some_ne_none i)]
  exact h.logins i

theorem LoginsUnderway.of_turn_login (h : LoginsUnderway userId o r q s) (i : ι)
    (hi : LoginStage (o i) (r i) userId (q i) ((s.turn (some i)).callers (some i))) :
    LoginsUnderway userId o r q (s.turn (some i)) := by
  refine ⟨Shared.sound_turn h.sound (some i), fun j => ?_⟩
  by_cases hj : j = i
  · rwa [hj]
  · rw [Shared.callers_turn_of_ne fun he => hj (Option.some.inj he)]
    exact h.logins j

theorem LoginsUnderway.turn_login (h : LoginsUnderway userId o r q s) (i : ι)
    (hq : StillOn s i → ∀ c, s.tables.credentials[userId]? = some c →
      checkPassword (r i).password c.hash c.salt = .ok true → q i) :
    LoginsUnderway userId o r q (s.turn (some i)) ∧
      (s.turn (some i)).tables.credentials = s.tables.credentials ∧
      ∀ row, (s.turn (some i)).tables.tokens[userId]? = some row →
        s.tables.tokens[userId]? = some row ∨ q i ∧ row.token = (o i).token := by
  cases hp : s.callers (some i) with
  | done result =>
    rw [Shared.turn_of_done hp]
    exact ⟨h, rfl, fun row hr => .inl hr⟩
  | note event next =>
    have hon : StillOn s i := fun _ hdone => nomatch hp.symm.trans hdone
    have hstage : LoginStage (o i) (r i) userId (q i) (.note event next) := hp ▸ h.logins i
    have hnext : LoginStage (o i) (r i) userId (q i) next := hstage.proceeds h.sound (hq hon)
    refine ⟨h.of_turn_login i (Shared.callers_turn_of_note hp ▸ hnext), ?_, ?_⟩
    · rw [Shared.turn_of_note hp]
    · rw [Shared.turn_of_note hp]
      exact fun row hr => .inl hr
  | ask call next =>
    have hon : StillOn s i := fun _ hdone => nomatch hp.symm.trans hdone
    have hstage : LoginStage (o i) (r i) userId (q i) (.ask call next) := hp ▸ h.logins i
    obtain ⟨hnext, hcredentials, htokens⟩ := hstage.proceeds h.sound (hq hon)
    refine ⟨h.of_turn_login i (Shared.callers_turn_of_ask hp ▸ hnext), ?_, ?_⟩
    · rw [Shared.turn_of_ask hp]
      exact hcredentials
    · rw [Shared.turn_of_ask hp]
      exact htokens

/-! ## The course of the change -/

theorem Replaced.turn (h : Replaced userId o r q new s)
    (hq : ∀ i, StillOn s i → checkPassword (r i).password new.hash new.salt = .ok true → q i)
    (j : Option ι) : Replaced userId o r q new (s.turn j) := by
  cases j with
  | none =>
    rcases h.change with hask | hdone
    · have hcallers : (s.turn none).callers none = .done (.ok ()) := Shared.callers_turn_of_ask hask
      refine ⟨h.turn_change, ?_, .inr hcallers⟩
      rw [Shared.turn_of_ask hask]
      exact h.credential
    · rwa [Shared.turn_of_done hdone]
  | some i =>
    obtain ⟨hunderway, hcredentials, -⟩ := h.turn_login i (h.of_fits hq i)
    refine ⟨hunderway, hcredentials ▸ h.credential, ?_⟩
    rw [Shared.callers_turn_of_ne (Option.some_ne_none i).symm]
    exact h.change

theorem Replaced.afterTurns (h : Replaced userId o r q new s)
    (hq : ∀ i, checkPassword (r i).password new.hash new.salt = .ok true → q i) (turns : List (Option ι)) :
    Replaced userId o r q new (s.afterTurns turns) :=
  Shared.afterTurns_keeps (I := Replaced userId o r q new) (fun _ j hs => hs.turn (fun i _ => hq i) j)
    turns h

theorem Revoked.turn {ended : Shared (Yields ι)}
    (h : Revoked userId o r q new ended s)
    (hq : ∀ i, StillOn ended i → checkPassword (r i).password new.hash new.salt = .ok true → q i)
    (j : Option ι) : Revoked userId o r q new ended (s.turn j) := by
  have hqs : ∀ i, StillOn s i → checkPassword (r i).password new.hash new.salt = .ok true → q i :=
    fun i hi => hq i (h.still_on i hi)
  have hended : (s.turn j).callers none = .done (.ok ()) := Shared.afterTurns_of_done h.ended_well [j]
  refine ⟨h.toReplaced.turn hqs j, hended, fun i hi => h.still_on i hi.of_turn, ?_⟩
  cases j with
  | none =>
    rw [Shared.turn_of_done h.ended_well]
    exact h.sessions
  | some i =>
    intro row hr
    rcases (h.turn_login i (h.of_fits hqs i)).2.2 row hr with hold | hnew
    · exact h.sessions row hold
    · exact ⟨i, hnew⟩

theorem Revoked.afterTurns {ended : Shared (Yields ι)} (h : Revoked userId o r q new ended s)
    (hq : ∀ i, StillOn ended i → checkPassword (r i).password new.hash new.salt = .ok true → q i)
    (turns : List (Option ι)) : Revoked userId o r q new ended (s.afterTurns turns) :=
  Shared.afterTurns_keeps (I := Revoked userId o r q new ended) (fun _ j hs => hs.turn hq j) turns h

/-- The calls of a change that succeeds: after some turns it replaces the credential by `new`, and after
some more, all of them turns of logins, it ends the session. -/
structure Course (userId : String) (new : Credential) (start : Shared (Yields ι))
    (turns before between after : List (Option ι)) : Prop where
  turns_eq : turns = before ++ none :: (between ++ none :: after)
  replacing : ∃ secret, (start.afterTurns before).callers none = replacing userId new.login secret
  replaced : ((start.afterTurns before).turn none).tables.credentials[userId]? = some new
  waits : none ∉ between
  revoking : (start.afterTurns (before ++ none :: between)).callers none = revoking userId

/-! ### From the look-up on -/

theorem course_of_revoking {start : Shared (Yields ι)} {before rest : List (Option ι)}
    (hreplaced : ((start.afterTurns before).turn none).tables.credentials[userId]? = some new)
    (hreplacing : ∃ secret, (start.afterTurns before).callers none = replacing userId new.login secret)
    (hask : ((start.afterTurns before).turn none).callers none = revoking userId)
    (hdone : (start.afterTurns (before ++ none :: rest)).callers none = .done (.ok ())) :
    ∃ between after, Course userId new start (before ++ none :: rest) before between after := by
  rw [Shared.afterTurns_append, Shared.afterTurns_cons] at hdone
  obtain ⟨between, after, rfl, hwaits, hlast⟩ := Shared.exists_turn_of_done hask hdone
  refine ⟨between, after, rfl, hreplacing, hreplaced, hwaits, ?_⟩
  rw [Shared.afterTurns_append, Shared.afterTurns_cons]
  exact hlast

theorem credential_of_setCredential {t : Tables} (h : t.Sound) {c d : Credential}
    (hc : (t.answer (.setCredential c)).1 = .ok d) :
    (t.answer (.setCredential c)).2.credentials[c.userId]? = some c := by
  change (t.setCredential c).1 = .ok d at hc
  change (t.setCredential c).2.credentials[c.userId]? = some c
  by_cases hm : c.userId ∈ t.users
  · by_cases hl : t.LoginFreeFor c.userId c.login
    · rw [h.setCredential_of_free hm hl, Tables.credentials_putCredential, if_pos rfl]
    · rw [h.setCredential_of_taken hm hl] at hc
      cases hc
  · rw [Tables.setCredential_of_absent hm] at hc
    cases hc

theorem course_of_replacing {start : Shared (Yields ι)} {before rest : List (Option ι)}
    (hs : start.tables.Sound) {login : String} {secret : SealedPassword}
    (hask : (start.afterTurns before).callers none = replacing userId login secret)
    (hdone : (start.afterTurns (before ++ rest)).callers none = .done (.ok ())) :
    ∃ before' between after, Course userId ⟨userId, login, secret.hash, secret.salt⟩ start
      (before ++ rest) before' between after := by
  rw [Shared.afterTurns_append] at hdone
  obtain ⟨first, rest, rfl, -, hlast⟩ := Shared.exists_turn_of_done hask hdone
  rw [← Shared.afterTurns_append] at hlast
  rw [← Shared.afterTurns_append, ← List.append_assoc] at hdone
  have hturn := Shared.callers_turn_of_ask hlast
  cases hanswer : ((start.afterTurns (before ++ first)).tables.answer
      (.setCredential ⟨userId, login, secret.hash, secret.salt⟩)).1 with
  | error e =>
    rw [hanswer] at hturn
    rw [Shared.afterTurns_append, Shared.afterTurns_cons] at hdone
    cases Shared.value_of_done hturn hdone
  | ok d =>
    rw [hanswer] at hturn
    have hsound := Shared.sound_afterTurns hs (before ++ first)
    have hreplaced : ((start.afterTurns (before ++ first)).turn none).tables.credentials[userId]? =
        some ⟨userId, login, secret.hash, secret.salt⟩ := by
      rw [Shared.turn_of_ask hlast]
      exact credential_of_setCredential hsound hanswer
    obtain ⟨between, after, hcourse⟩ := course_of_revoking hreplaced ⟨secret, hlast⟩ hturn hdone
    exact ⟨before ++ first, between, after, by rwa [List.append_assoc] at hcourse⟩

/-- A change that has succeeded has taken its course, and the new credential is made from the new
password. -/
theorem exists_course {t : Tables} (h : t.Sound) {sealer : Sealer} {drawn : Occasion}
    {change : Api.PasswordChange} {turns : List (Option ι)}
    (hdone : ((meeting sealer drawn userId change o r t).afterTurns turns).callers none = .done (.ok ())) :
    ∃ before between after login secret,
      sealPassword sealer.cost change.newPassword drawn.salt = .ok secret ∧
        Course userId ⟨userId, login, secret.hash, secret.salt⟩ (meeting sealer drawn userId change o r t)
          turns before between after := by
  -- Each call is made before the change can succeed, and none of them can have failed.
  have hstart : (meeting sealer drawn userId change o r t).callers none = _ :=
    run_changePassword sealer drawn userId change
  cases hrule : brokenByPassword? change.newPassword with
  | some rule =>
    rw [hrule] at hstart
    cases Shared.value_of_done hstart hdone
  | none =>
    rw [hrule] at hstart
    obtain ⟨first, rest, rfl, -, hlast⟩ := Shared.exists_turn_of_done hstart hdone
    have hsplit : first ++ none :: rest = first ++ [none] ++ rest := by simp
    have hafter := Shared.callers_afterTurns_of_ask hlast
    rw [hsplit] at hdone ⊢
    cases hanswer : (((meeting sealer drawn userId change o r t).afterTurns first).tables.answer
        (.credentialOfUser userId)).1 with
    | error e =>
      rw [hanswer] at hafter
      rw [Shared.afterTurns_append] at hdone
      cases Shared.value_of_done hafter hdone
    | ok c =>
      rw [hanswer] at hafter
      rcases rechecking_cases sealer drawn userId change c with ⟨e, hrefused⟩ | ⟨secret, hseal, hreplacing⟩
      · rw [Shared.afterTurns_append] at hdone
        cases Shared.value_of_done (hafter.trans hrefused) hdone
      · obtain ⟨before, between, after, hcourse⟩ :=
          course_of_replacing h (hafter.trans hreplacing) hdone
        exact ⟨before, between, after, c.login, secret, hseal, hcourse⟩

/-! ## From the replacement on -/

/-- The login has looked up the credential before it was replaced, or has shown a password that fits the
new one. -/
def Admitted (r : ι → Api.PasswordLogin) (new : Credential) (before : List (Option ι)) (i : ι) : Prop :=
  some i ∈ before ∨ checkPassword (r i).password new.hash new.salt = .ok true

section Course
variable {t : Tables} {sealer : Sealer} {drawn : Occasion} {change : Api.PasswordChange}
  {turns before between after : List (Option ι)}

theorem underway_before (h : t.Sound) (turns : List (Option ι)) :
    LoginsUnderway userId o r (fun _ => True)
      ((meeting sealer drawn userId change o r t).afterTurns turns) := by
  refine Shared.afterTurns_keeps (fun s j hs => ?_) turns ⟨h, fun i => .looking⟩
  cases j with
  | none => exact hs.turn_change
  | some i => exact (hs.turn_login i fun _ _ _ _ => True.intro).1

theorem replaced_of_course (h : t.Sound)
    (hcourse : Course userId new (meeting sealer drawn userId change o r t) turns before between after) :
    Replaced userId o r (Admitted r new before) new
      (((meeting sealer drawn userId change o r t).afterTurns before).turn none) := by
  have hbefore : LoginsUnderway userId o r (Admitted r new before)
      ((meeting sealer drawn userId change o r t).afterTurns before) := by
    refine ⟨Shared.sound_afterTurns h before, fun i => ?_⟩
    by_cases hi : some i ∈ before
    · exact ((underway_before h before).logins i).mono fun _ => .inl hi
    · -- A login that has not had a turn has not looked anything up yet.
      rw [Shared.callers_afterTurns_of_not_mem hi]
      exact .looking
  have hwaiting := hcourse.revoking
  rw [Shared.afterTurns_append, Shared.afterTurns_cons,
    Shared.callers_afterTurns_of_not_mem hcourse.waits] at hwaiting
  exact ⟨hbefore.turn_change, hcourse.replaced, .inl hwaiting⟩

end Course

theorem Replaced.revoked (h : Replaced userId o r q new s) (hask : s.callers none = revoking userId) :
    Revoked userId o r (fun i => StillOn (s.turn none) i ∧ q i) new (s.turn none) (s.turn none) := by
  have hchange := h.turn_change
  have hlogins : ∀ i, LoginStage (o i) (r i) userId (StillOn (s.turn none) i ∧ q i)
      ((s.turn none).callers (some i)) := by
    intro i
    by_cases hon : StillOn (s.turn none) i
    · exact (hchange.logins i).mono fun hq => ⟨hon, hq⟩
    · simp only [StillOn, ne_eq, not_forall, not_not] at hon
      obtain ⟨result, hdone⟩ := hon
      rw [hdone]
      exact .done
  have hended : (s.turn none).callers none = .done (.ok ()) := Shared.callers_turn_of_ask hask
  have hcredential : (s.turn none).tables.credentials[userId]? = some new := by
    rw [Shared.turn_of_ask hask]
    exact h.credential
  have hsessions : (s.turn none).tables.tokens[userId]? = none := by
    rw [Shared.turn_of_ask hask]
    exact (Tables.tokens_revokeToken ..).trans (if_pos rfl)
  refine ⟨⟨⟨hchange.sound, hlogins⟩, hcredential, .inr hended⟩, hended, fun _ hon => hon, ?_⟩
  intro row hr
  rw [hsessions] at hr
  cases hr

end All

/-! ## A login that overtakes -/

section Two
variable {change : Program (Except ServiceError Unit)}
  {login : Program (Except ServiceError Api.Session)} {t t' : Tables}

/-- A change of password and one login. -/
def pair (change : Program (Except ServiceError Unit)) (login : Program (Except ServiceError Api.Session))
    (t : Tables) : Shared (Yields Unit) where
  callers
    | none => change
    | some () => login
  tables := t

theorem turn_pair_change {call : Call}
    {next : Except StoreError call.Answer → Program (Except ServiceError Unit)}
    {answer : Except StoreError call.Answer} (hcall : t.answer call = (answer, t')) :
    (pair (.ask call next) login t).turn none = pair (next answer) login t' := by
  obtain rfl : (t.answer call).1 = answer := congrArg Prod.fst hcall
  obtain rfl : (t.answer call).2 = t' := congrArg Prod.snd hcall
  have hask : (pair (.ask call next) login t).callers none = .ask call next := rfl
  rw [Shared.turn_of_ask hask]
  refine congrArg (Shared.mk · (t.answer call).2) (funext fun i => ?_)
  cases i <;> rfl

theorem turn_pair_login {call : Call}
    {next : Except StoreError call.Answer → Program (Except ServiceError Api.Session)}
    {answer : Except StoreError call.Answer} (hcall : t.answer call = (answer, t')) :
    (pair change (.ask call next) t).turn (some ()) = pair change (next answer) t' := by
  obtain rfl : (t.answer call).1 = answer := congrArg Prod.fst hcall
  obtain rfl : (t.answer call).2 = t' := congrArg Prod.snd hcall
  have hask : (pair change (.ask call next) t).callers (some ()) = .ask call next := rfl
  rw [Shared.turn_of_ask hask]
  refine congrArg (Shared.mk · (t.answer call).2) (funext fun i => ?_)
  cases i <;> rfl

variable {sealer : Sealer} {drawn o : Occasion} {userId : String} {p : Api.PasswordChange}
  {r : Api.PasswordLogin} {c : Credential} {secret : SealedPassword}

theorem change_at_once (h : t.Sound) (hc : t.credentials[userId]? = some c)
    (hold : checkPassword p.oldPassword c.hash c.salt = .ok true)
    (hseal : sealPassword sealer.cost p.newPassword drawn.salt = .ok secret) :
    (pair (reading sealer drawn userId p) login t).afterTurns [none, none, none] =
      pair (.done (.ok ())) login
        ((t.putCredential ⟨userId, c.login, secret.hash, secret.salt⟩).revokeToken userId) := by
  have hset : t.answer (.setCredential ⟨userId, c.login, secret.hash, secret.salt⟩) = _ :=
    h.setCredential_of_row hc secret.hash secret.salt
  have hpassed : rechecking sealer drawn userId p c = replacing userId c.login secret :=
    rechecking_of_fits sealer drawn userId p hold hseal
  calc (pair (reading sealer drawn userId p) login t).afterTurns [none, none, none]
    _ = (pair (rechecking sealer drawn userId p c) login t).afterTurns [none, none] :=
        congrArg (Shared.afterTurns · _) (turn_pair_change (Tables.answer_credentialOfUser_of_row hc))
    _ = (pair (revoking userId) login
          (t.putCredential ⟨userId, c.login, secret.hash, secret.salt⟩)).afterTurns [none] := by
        rw [hpassed]
        exact congrArg (Shared.afterTurns · _) (turn_pair_change hset)
    _ = pair (.done (.ok ())) login
          ((t.putCredential ⟨userId, c.login, secret.hash, secret.salt⟩).revokeToken userId) :=
        turn_pair_change rfl

theorem login_goes_on (h : t.Sound) {user : User} (hu : t.users[userId]? = some user)
    (hremember : r.remember = true) (hfree : t.TokenFree o.token) :
    (pair change (touching o r userId) t).afterTurns [some (), some ()] =
      pair change (.done (.ok ⟨user.apply (Changes.touch o.first), some o.token⟩))
        ((t.putUser (user.apply (Changes.touch o.first))).putToken
          (SessionToken.issued userId o.token o.second)) := by
  let touched : User := user.apply (Changes.touch o.first)
  have hown : user.id = userId := h.user_id hu
  have hid : touched.id = userId := hown
  have htouch : t.answer (.amendUser userId (Changes.touch o.first)) = _ := h.amendUser_of_row hu _
  have hm : userId ∈ (t.putUser touched).users := (Tables.mem_putUser ..).mpr (.inl hid)
  have hissue : (t.putUser touched).answer (.issueToken touched.id o.token o.second) =
      (.ok (SessionToken.issued userId o.token o.second),
        (t.putUser touched).putToken (SessionToken.issued userId o.token o.second)) := by
    rw [hid]
    exact (h.putUser touched).issueToken_of_free hm (fun hr he => absurd he (hfree hr)) o.second
  calc (pair change (touching o r userId) t).afterTurns [some (), some ()]
    _ = (pair change (opening true o.later touched) (t.putUser touched)).afterTurns [some ()] := by
        rw [← hremember]
        exact congrArg (Shared.afterTurns · _) (turn_pair_login htouch)
    _ = pair change (.done (.ok ⟨touched, some o.token⟩)) _ := turn_pair_login hissue

/-- The login looks up the credential, then the change makes all its calls, and then the login goes on. -/
def overtakingTurns : List (Option Unit) := some () :: ([none, none, none] ++ [some (), some ()])

theorem overtaking (h : t.Sound) (hc : t.credentials[userId]? = some c) (hlogin : c.login = r.login)
    (hold : checkPassword r.password c.hash c.salt = .ok true) (hsame : p.oldPassword = r.password)
    (hrule : brokenByPassword? p.newPassword = none)
    (hseal : sealPassword sealer.cost p.newPassword drawn.salt = .ok secret)
    (hremember : r.remember = true) (hfree : t.TokenFree o.token) :
    ∃ user t', (meeting sealer drawn userId p (fun _ => o) (fun _ => r) t).afterTurns overtakingTurns =
        pair (.done (.ok ())) (.done (.ok ⟨user, some o.token⟩)) t' ∧
      t'.tokens[userId]? = some (SessionToken.issued userId o.token o.second) := by
  have hid : c.userId = userId := h.credential_id hc
  have hown : t.LoginFreeFor userId c.login := fun hd hl => h.login_unique hc hd hl.symm
  obtain ⟨user, hu⟩ := exists_lookup_of_mem (h.credential_user hc)
  have hstart : meeting sealer drawn userId p (fun _ => o) (fun _ => r) t =
      pair (reading sealer drawn userId p) (looking o r) t := by
    refine congrArg (Shared.mk · t) (funext fun i => ?_)
    cases i with
    | none => exact (run_changePassword sealer drawn userId p).trans (by rw [hrule])
    | some _ => exact run_loginWithPassword o r
  have hlookup : t.answer (.credentialOfLogin r.login) = (.ok c, t) := by
    rw [← hlogin, Tables.answer, h.credentialOfLogin_of_row hc]
  have hpassed : checking o r c = touching o r userId := hid ▸ checking_of_fits o r hold
  -- The tables that the change leaves have the user, but no session of the user any more.
  let new : Credential := ⟨userId, c.login, secret.hash, secret.salt⟩
  have hchanged : ((t.putCredential new).revokeToken userId).Sound :=
    (h.putCredential (c := new) (h.credential_user hc) hown).revokeToken userId
  have hnobody : ((t.putCredential new).revokeToken userId).TokenFree o.token := by
    intro other row hr
    have hr' : (t.revokeToken userId).tokens[other]? = some row := hr
    rw [Tables.tokens_revokeToken] at hr'
    exact hfree (Option.ite_none_left_eq_some.mp hr').2
  have hmeet : (meeting sealer drawn userId p (fun _ => o) (fun _ => r) t).afterTurns overtakingTurns =
      (pair (.done (.ok ())) (touching o r userId)
        ((t.putCredential new).revokeToken userId)).afterTurns [some (), some ()] := by
    rw [hstart, overtakingTurns, Shared.afterTurns_cons, Shared.afterTurns_append, looking,
      turn_pair_login hlookup]
    change ((pair (reading sealer drawn userId p) (checking o r c) t).afterTurns _).afterTurns _ = _
    rw [hpassed, change_at_once h hc (hsame ▸ hold) hseal]
  have hissued : ∀ t' : Tables, (t'.putToken (SessionToken.issued userId o.token o.second)).tokens[userId]? =
      some (SessionToken.issued userId o.token o.second) :=
    fun t' => (t'.tokens_putToken _ userId).trans (if_pos rfl)
  exact ⟨_, _, hmeet.trans (login_goes_on hchanged hu hremember hnobody), hissued _⟩

end Two

/-- The first turn is one of the login, so it comes before the credential is replaced. -/
theorem login_before_course {userId : String} {new : Credential} {start : Shared (Yields Unit)}
    {before between after : List (Option Unit)}
    (hcourse : Course userId new start overtakingTurns before between after) : some () ∈ before := by
  have hturns := hcourse.turns_eq
  cases before with
  | nil => cases hturns
  | cons first before =>
    obtain rfl : some () = first := (List.cons.inj hturns).1
    exact List.mem_cons_self

/-- The user of the only account changes the password while somebody logs in with the old one. -/
theorem overtaking_oneAccount {userId login old new salt : String} {drawn o : Occasion}
    (hlen : old.utf8ByteSize ≤ maxPasswordBytes) (hsalt : salt.utf8ByteSize = saltBytes)
    (hrule : brokenByPassword? new = none) (hdrawn : isSalt drawn.salt = true) :
    ∃ user t', (meeting ⟨4⟩ drawn userId ⟨old, new⟩ (fun _ => o) (fun _ => ⟨login, old, true⟩)
        (oneAccount userId login old salt)).afterTurns overtakingTurns =
        pair (.done (.ok ())) (.done (.ok ⟨user, some o.token⟩)) t' ∧
      t'.tokens[userId]? = some (SessionToken.issued userId o.token o.second) := by
  have hsealed : ∃ secret, sealPassword 4 new drawn.salt = .ok secret :=
    sealPassword_of_rules rfl hrule hdrawn
  obtain ⟨secret, hseal⟩ := hsealed
  obtain ⟨c, hc, hlogin, -, hfits⟩ := oneAccount_row userId login hlen hsalt
  exact overtaking (oneAccount_sound ..) hc hlogin hfits rfl hrule hseal rfl fun hr => nomatch hr

/-! ## The sessions after the change -/

section All
variable {ι : Type} [DecidableEq ι] {userId : String} {o : ι → Occasion} {r : ι → Api.PasswordLogin}

/-- After a change of password has succeeded, the user has a session only from a login that was still on
when the old session was ended. Unless that login had looked up the credential before it was replaced, its
password fits the new one. -/
theorem sessions_after_change {t : Tables} (h : t.Sound) {sealer : Sealer} {drawn : Occasion}
    {change : Api.PasswordChange} {turns : List (Option ι)}
    (hdone : ((meeting sealer drawn userId change o r t).afterTurns turns).callers none = .done (.ok ())) :
    ∃ before between after login secret,
      let start := meeting sealer drawn userId change o r t
      let new : Credential := ⟨userId, login, secret.hash, secret.salt⟩
      sealPassword sealer.cost change.newPassword drawn.salt = .ok secret ∧
      Course userId new start turns before between after ∧
      (start.afterTurns turns).tables.credentials[userId]? = some new ∧
      ∀ row, (start.afterTurns turns).tables.tokens[userId]? = some row →
        ∃ i, row.token = (o i).token ∧
          StillOn (start.afterTurns (before ++ none :: (between ++ [none]))) i ∧
          (some i ∈ before ∨ checkPassword (r i).password new.hash new.salt = .ok true) := by
  obtain ⟨before, between, after, login, secret, hseal, hcourse⟩ := exists_course h hdone
  refine ⟨before, between, after, login, secret, hseal, hcourse, ?_⟩
  -- `Replaced` carries over the turns until the session is ended, `Revoked` over those that come after.
  have hadmitted : ∀ i, checkPassword (r i).password secret.hash secret.salt = .ok true →
      Admitted r ⟨userId, login, secret.hash, secret.salt⟩ before i := fun i hp => .inr hp
  have hreplaced := (replaced_of_course h hcourse).afterTurns hadmitted between
  rw [← Shared.afterTurns_cons, ← Shared.afterTurns_append] at hreplaced
  have hend := (hreplaced.revoked hcourse.revoking).afterTurns
    (fun i hon hp => ⟨hon, hadmitted i hp⟩) after
  have hended : (meeting sealer drawn userId change o r t).afterTurns
      (before ++ none :: (between ++ [none])) = Shared.turn ((meeting sealer drawn userId change o r
        t).afterTurns (before ++ none :: between)) none := by
    rw [← List.cons_append, ← List.append_assoc, Shared.afterTurns_append]
    rfl
  have hlast : (meeting sealer drawn userId change o r t).afterTurns turns = Shared.afterTurns
      (Shared.turn ((meeting sealer drawn userId change o r t).afterTurns (before ++ none :: between)) none)
      after := by
    rw [hcourse.turns_eq, ← List.cons_append, ← List.append_assoc, Shared.afterTurns_append]
    rfl
  rw [hlast, hended]
  refine ⟨hend.credential, fun row hr => ?_⟩
  obtain ⟨i, ⟨hon, hadmitted⟩, htoken⟩ := hend.sessions row hr
  exact ⟨i, htoken, hon, hadmitted⟩

end All

/-- The session that the user has in the end is one of a login that has overtaken the change. -/
theorem overtaken_change_leaves_session :
    let t := oneAccount "ann" "Ann" "correct horse" (drawnSalt 1)
    let start := meeting ⟨4⟩ { (default : Occasion) with salt := drawnSalt 2 } "ann"
      ⟨"correct horse", "battery staple"⟩ (fun _ : Unit => { (default : Occasion) with token := drawnToken 7 })
      (fun _ => ⟨"Ann", "correct horse", true⟩) t
    t.Sound ∧ (start.afterTurns overtakingTurns).callers none = .done (.ok ()) ∧
      ∃ before between, some () ∈ before ∧
        StillOn (start.afterTurns (before ++ none :: (between ++ [none]))) () := by
  intro t start
  obtain ⟨user, t', hend, htoken⟩ : ∃ user t', start.afterTurns overtakingTurns =
        pair (.done (.ok ())) (.done (.ok ⟨user, some (drawnToken 7)⟩)) t' ∧
      t'.tokens["ann"]? = some (SessionToken.issued "ann" (drawnToken 7) default) :=
    overtaking_oneAccount (by decide) (by decide) (by decide) (by decide)
  have hdone : (start.afterTurns overtakingTurns).callers none = .done (.ok ()) := by
    rw [hend]
    rfl
  have hrow : (start.afterTurns overtakingTurns).tables.tokens["ann"]? =
      some (SessionToken.issued "ann" (drawnToken 7) default) := by
    rw [hend]
    exact htoken
  obtain ⟨before, between, after, login, secret, -, hcourse, -, hsessions⟩ :=
    sessions_after_change (oneAccount_sound "ann" "Ann" "correct horse" (drawnSalt 1)) hdone
  obtain ⟨i, -, hon, -⟩ := hsessions _ hrow
  exact ⟨oneAccount_sound .., hdone, before, between, login_before_course hcourse, hon⟩

/-- In the end the user has no session of a login that looked up the credential before it was replaced. -/
def ClosesOldSessions {ι : Type} [DecidableEq ι] (userId : String) (o : ι → Occasion)
    (start : Shared (Yields ι)) (turns : List (Option ι)) : Prop :=
  ∀ before between after new i row, Course userId new start turns before between after →
    some i ∈ before → (start.afterTurns turns).tables.tokens[userId]? = some row → row.token ≠ (o i).token

/-- Whoever changes the password while somebody logs in with the old one may find that session open in the
end, when all calls have come to an end. -/
theorem old_session_outlives {userId login old new salt : String} {drawn o : Occasion}
    (hlen : old.utf8ByteSize ≤ maxPasswordBytes) (hsalt : salt.utf8ByteSize = saltBytes)
    (hrule : brokenByPassword? new = none) (hdrawn : isSalt drawn.salt = true) :
    let start := meeting ⟨4⟩ drawn userId ⟨old, new⟩ (fun _ : Unit => o) (fun _ => ⟨login, old, true⟩)
      (oneAccount userId login old salt)
    (start.afterTurns overtakingTurns).callers none = .done (.ok ()) ∧
      (∃ session, (start.afterTurns overtakingTurns).callers (some ()) = .done (.ok session)) ∧
      ¬ ClosesOldSessions userId (fun _ => o) start overtakingTurns := by
  intro start
  obtain ⟨user, t', hend, htoken⟩ : ∃ user t', start.afterTurns overtakingTurns =
        pair (.done (.ok ())) (.done (.ok ⟨user, some o.token⟩)) t' ∧
      t'.tokens[userId]? = some (SessionToken.issued userId o.token o.second) :=
    overtaking_oneAccount hlen hsalt hrule hdrawn
  have hdone : (start.afterTurns overtakingTurns).callers none = .done (.ok ()) := by
    rw [hend]
    rfl
  have hrow : (start.afterTurns overtakingTurns).tables.tokens[userId]? =
      some (SessionToken.issued userId o.token o.second) := by
    rw [hend]
    exact htoken
  refine ⟨hdone, ⟨⟨user, some o.token⟩, by rw [hend]; rfl⟩, fun hclosed => ?_⟩
  obtain ⟨before, between, after, login, secret, -, hcourse⟩ := exists_course (oneAccount_sound ..) hdone
  exact hclosed before between after _ () _ hcourse (login_before_course hcourse) hrow rfl

theorem anns_old_session_outlives :
    let o : Occasion := { (default : Occasion) with token := drawnToken 7 }
    let start := meeting ⟨4⟩ { (default : Occasion) with salt := drawnSalt 2 } "ann"
      ⟨"correct horse", "battery staple"⟩ (fun _ : Unit => o) (fun _ => ⟨"Ann", "correct horse", true⟩)
      (oneAccount "ann" "Ann" "correct horse" (drawnSalt 1))
    (start.afterTurns overtakingTurns).callers none = .done (.ok ()) ∧
      (∃ session, (start.afterTurns overtakingTurns).callers (some ()) = .done (.ok session)) ∧
      ¬ ClosesOldSessions "ann" (fun _ => o) start overtakingTurns :=
  old_session_outlives (by decide) (by decide) (by decide) (by decide)

end PlayerAccounts.Service
