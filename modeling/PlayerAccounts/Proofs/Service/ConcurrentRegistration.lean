import PlayerAccounts.Proofs.Account.Secrets
import PlayerAccounts.Proofs.Service.Stages
import PlayerAccounts.Proofs.Store.Turns
/-!
# Registrations at the same time

Any number of registrations take turns on one store, call by call, in any order. The look-up of the login
decides nothing then: two of them can find the same login free. What decides is that the store gives a
login to one user only, and that the user who does not get it is removed again.
-/
namespace PlayerAccounts.Service
set_option autoImplicit false

open PlayerAccounts.Account
open PlayerAccounts.Store

/-! ## One registration among others -/

/-- Somebody has the login. -/
def Taken (t : Tables) (login : String) : Prop := ∃ (id : String) (c : Credential), t.credentials[id]? = some c ∧ c.login = login

/-- The rows of somebody who is not there. -/
def noRows : Rows := ⟨none, none, none⟩

section One
variable (sealer : Sealer) (o : Occasion) (r : Api.Registration) (secret : SealedPassword)

/-- What a registration yields if it succeeds. -/
def newSession : Api.Session :=
  ⟨User.fresh o.userId o.first r.email, if r.remember then some o.token else none⟩

/-- The row of the new user before there are others. -/
def rowsAdded : Rows := ⟨some (User.fresh o.userId o.first r.email), none, none⟩

/-- The rows of the new user before a session token is issued. -/
def rowsEnrolled : Rows :=
  ⟨some (User.fresh o.userId o.first r.email), some ⟨o.userId, r.login, secret.hash, secret.salt⟩, none⟩

/-- The rows that a registration leaves if it succeeds. -/
def rowsRegistered : Rows :=
  { rowsEnrolled o r secret with
    token := if r.remember then some (SessionToken.issued o.userId o.token o.second) else none }

/-- How far a registration has come, from what is left of its program, and what the tables then hold of
the user it is to add. -/
inductive Reached (t : Tables) : Program (Except ServiceError Api.Session) → Prop where
  | asking : t.rowsOf o.userId = noRows → Reached t (asking sealer o r)
  | adding : t.rowsOf o.userId = noRows → Reached t (adding o r secret)
  | enrolling : t.rowsOf o.userId = rowsAdded o r →
      Reached t (enrolling o r secret (User.fresh o.userId o.first r.email))
  | removing : t.rowsOf o.userId = rowsAdded o r → Taken t r.login →
      Reached t (removing r (User.fresh o.userId o.first r.email) (.duplicate (loginNamed r.login)))
  | refused : t.rowsOf o.userId = noRows → Taken t r.login →
      Reached t (.done (.error (.loginTaken r.login)))
  | issuing : r.remember = true → t.rowsOf o.userId = rowsEnrolled o r secret →
      Reached t (opening true o.later (User.fresh o.userId o.first r.email))
  | registered : t.rowsOf o.userId = rowsRegistered o r secret →
      Reached t (.done (.ok (newSession o r)))

end One

/-- The other users keep their rows, and nobody loses a credential. -/
structure AddsOnly (id : String) (t t' : Tables) : Prop where
  same : Tables.SameButFor id t t'
  kept : ∀ {other : String} {c : Credential}, t.credentials[other]? = some c →
    t'.credentials[other]? = some c

theorem Taken.of_addsOnly {id login : String} {t t' : Tables} (h : Taken t login) (ha : AddsOnly id t t') :
    Taken t' login := by
  obtain ⟨other, c, hc, hl⟩ := h
  exact ⟨other, c, ha.kept hc, hl⟩

section One
variable {sealer : Sealer} {o : Occasion} {r : Api.Registration} {secret : SealedPassword} {t t' : Tables}
  {p : Program (Except ServiceError Api.Session)}

/-- How far a registration has come does not depend on what others add. -/
theorem Reached.of_addsOnly {id : String} (h : Reached sealer o r secret t p) (hne : o.userId ≠ id)
    (ha : AddsOnly id t t') : Reached sealer o r secret t' p := by
  have hrows : t'.rowsOf o.userId = t.rowsOf o.userId := ha.same o.userId hne
  cases h with
  | asking h => exact .asking (hrows.trans h)
  | adding h => exact .adding (hrows.trans h)
  | enrolling h => exact .enrolling (hrows.trans h)
  | removing h htaken => exact .removing (hrows.trans h) (htaken.of_addsOnly ha)
  | refused h htaken => exact .refused (hrows.trans h) (htaken.of_addsOnly ha)
  | issuing hr h => exact .issuing hr (hrows.trans h)
  | registered h => exact .registered (hrows.trans h)

theorem Reached.not_note {event : Event} {next : Program (Except ServiceError Api.Session)} :
    ¬ Reached sealer o r secret t (.note event next) := by
  intro h
  generalize hp : Program.note event next = p at h
  cases h <;> cases hp

theorem Reached.ended {result : Except ServiceError Api.Session}
    (h : Reached sealer o r secret t (.done result)) :
    (result = .ok (newSession o r) ∧ t.rowsOf o.userId = rowsRegistered o r secret) ∨
      (result = .error (.loginTaken r.login) ∧ t.rowsOf o.userId = noRows ∧ Taken t r.login) := by
  generalize hp : Program.done result = p at h
  cases h with
  | refused h htaken =>
    cases hp
    exact .inr ⟨rfl, h, htaken⟩
  | registered h =>
    cases hp
    exact .inl ⟨rfl, h⟩
  | _ => cases hp

theorem Reached.token_eq {row : SessionToken} (h : Reached sealer o r secret t p)
    (hr : t.tokens[o.userId]? = some row) : row.token = o.token := by
  have hnone : ∀ {rows : Rows}, t.rowsOf o.userId = rows → rows.token ≠ none := by
    rintro rows rfl hno
    change t.tokens[o.userId]? = none at hno
    rw [hr] at hno
    cases hno
  cases h with
  | registered h =>
    have htoken : some row = if r.remember then some (SessionToken.issued o.userId o.token o.second)
        else none := hr.symm.trans (congrArg Rows.token h)
    split at htoken
    · rw [Option.some.inj htoken]
      rfl
    · cases htoken
  | asking h => exact absurd rfl (hnone h)
  | adding h => exact absurd rfl (hnone h)
  | enrolling h => exact absurd rfl (hnone h)
  | removing h _ => exact absurd rfl (hnone h)
  | refused h _ => exact absurd rfl (hnone h)
  | issuing _ h => exact absurd rfl (hnone h)

/-! ### The calls of a registration -/

theorem AddsOnly.refl (id : String) (t : Tables) : AddsOnly id t t := ⟨fun _ _ => rfl, fun hc => hc⟩

/-- If the registration makes a call next, that takes it further, and adds rows of its user at most. -/
def Advances (sealer : Sealer) (o : Occasion) (r : Api.Registration) (secret : SealedPassword) (t : Tables) :
    Program (Except ServiceError Api.Session) → Prop
  | .done _ => True
  | .ask call next => Reached sealer o r secret (t.answer call).2 (next (t.answer call).1) ∧
      AddsOnly o.userId t (t.answer call).2
  | .note _ _ => False

theorem Advances.of_answer {call : Call} {answer : Except StoreError call.Answer}
    {next : Except StoreError call.Answer → Program (Except ServiceError Api.Session)}
    (hcall : t.answer call = (answer, t')) (hr : Reached sealer o r secret t' (next answer))
    (ha : AddsOnly o.userId t t') : Advances sealer o r secret t (.ask call next) := by
  rw [Advances, hcall]
  exact ⟨hr, ha⟩

theorem asking_advances (h : t.Sound) (hseal : sealPassword sealer.cost r.password o.salt = .ok secret)
    (hrows : t.rowsOf o.userId = noRows) : Advances sealer o r secret t (asking sealer o r) := by
  rcases h.answer_credentialOfLogin r.login with ⟨-, hcall⟩ | ⟨id, c, hc, hl, hcall⟩
  · have hsealed : sealing sealer o r = adding o r secret := by rw [sealing, hseal]
    exact .of_answer hcall (hsealed ▸ .adding hrows) (.refl o.userId t)
  · exact .of_answer hcall (.refused hrows ⟨id, c, hc, hl⟩) (.refl o.userId t)

theorem adding_advances (hrows : t.rowsOf o.userId = noRows) :
    Advances sealer o r secret t (adding o r secret) := by
  have hnew : o.userId ∉ t.users := not_mem_of_lookup (congrArg Rows.user hrows)
  have hcall : t.answer (.addUser (User.fresh o.userId o.first r.email)) = _ := Tables.addUser_of_new hnew
  have hput := Tables.rowsOf_putUser (User.fresh o.userId o.first r.email) hrows
  exact .of_answer hcall (.enrolling hput) ⟨(AddsOnly.refl o.userId t).same.putUser rfl, fun hc => hc⟩

theorem enrolling_advances (h : t.Sound) (hrows : t.rowsOf o.userId = rowsAdded o r) :
    Advances sealer o r secret t (enrolling o r secret (User.fresh o.userId o.first r.email)) := by
  have hm : o.userId ∈ t.users := mem_of_lookup (congrArg Rows.user hrows)
  have hnone : t.credentials[o.userId]? = none := congrArg Rows.credential hrows
  let c : Credential := ⟨o.userId, r.login, secret.hash, secret.salt⟩
  by_cases hlogin : t.LoginFreeFor o.userId r.login
  · have hcall : t.answer (.setCredential c) = _ := h.setCredential_of_free hm hlogin
    have hput := Tables.rowsOf_putCredential c hrows
    have ha : AddsOnly o.userId t (t.putCredential c) := by
      refine ⟨(AddsOnly.refl o.userId t).same.putCredential rfl, fun {other d} hd => ?_⟩
      have hne : o.userId ≠ other := by
        rintro rfl
        rw [hnone] at hd
        cases hd
      rw [Tables.credentials_putCredential, if_neg hne, hd]
    refine .of_answer hcall ?_ ha
    change Reached sealer o r secret _ (opening r.remember o.later (User.fresh o.userId o.first r.email))
    cases hremember : r.remember with
    | true => exact .issuing hremember hput
    | false =>
      have hdone : opening false o.later (User.fresh o.userId o.first r.email) =
          .done (.ok (newSession o r)) := by
        rw [newSession, hremember]
        rfl
      have hrows' : (t.putCredential c).rowsOf o.userId = rowsRegistered o r secret := by
        rw [rowsRegistered, hremember]
        exact hput
      rw [hdone]
      exact .registered hrows'
  · have hcall : t.answer (.setCredential c) = _ := h.setCredential_of_taken hm hlogin
    refine .of_answer hcall (.removing hrows ?_) (.refl o.userId t)
    rcases t.exists_login r.login with hfree | htaken
    · exact (hlogin fun hd hl => absurd hl (hfree hd)).elim
    · exact htaken

theorem removing_advances (hrows : t.rowsOf o.userId = rowsAdded o r) (htaken : Taken t r.login) :
    Advances sealer o r secret t
      (removing r (User.fresh o.userId o.first r.email) (.duplicate (loginNamed r.login))) := by
  have hm : o.userId ∈ t.users := mem_of_lookup (congrArg Rows.user hrows)
  have hnone : t.credentials[o.userId]? = none := congrArg Rows.credential hrows
  have hcall : t.answer (.removeUser o.userId) = _ := Tables.removeUser_of_mem hm
  have ha : AddsOnly o.userId t (t.without o.userId) := by
    refine ⟨(AddsOnly.refl o.userId t).same.without, fun {other c} hc => ?_⟩
    have hne : o.userId ≠ other := by
      rintro rfl
      rw [hnone] at hc
      cases hc
    rw [Tables.credentials_without, if_neg hne, hc]
  exact .of_answer hcall (.refused (t.rowsOf_without o.userId) (htaken.of_addsOnly ha)) ha

theorem issuing_advances (h : t.Sound) (hremember : r.remember = true)
    (hfree : t.TokenFreeFor o.userId o.token) (hrows : t.rowsOf o.userId = rowsEnrolled o r secret) :
    Advances sealer o r secret t (opening true o.later (User.fresh o.userId o.first r.email)) := by
  have hm : o.userId ∈ t.users := mem_of_lookup (congrArg Rows.user hrows)
  have hcall : t.answer (.issueToken o.userId o.token o.second) = _ := h.issueToken_of_free hm hfree o.second
  have hput := Tables.rowsOf_putToken (SessionToken.issued o.userId o.token o.second) hrows
  have hdone : newSession o r = ⟨User.fresh o.userId o.first r.email, some o.token⟩ := by
    rw [newSession, hremember]
    rfl
  have hrows' : (t.putToken (SessionToken.issued o.userId o.token o.second)).rowsOf o.userId =
      rowsRegistered o r secret := by
    rw [rowsRegistered, hremember]
    exact hput
  refine .of_answer hcall ?_ ⟨(AddsOnly.refl o.userId t).same.putToken rfl, fun hc => hc⟩
  exact hdone ▸ .registered hrows'

theorem Reached.advances (h : t.Sound) (hseal : sealPassword sealer.cost r.password o.salt = .ok secret)
    (hfree : t.TokenFreeFor o.userId o.token) (hp : Reached sealer o r secret t p) :
    Advances sealer o r secret t p := by
  cases hp with
  | asking hrows => exact asking_advances h hseal hrows
  | adding hrows => exact adding_advances hrows
  | enrolling hrows => exact enrolling_advances h hrows
  | removing hrows htaken => exact removing_advances hrows htaken
  | refused _ _ => exact True.intro
  | issuing hremember hrows => exact issuing_advances h hremember hfree hrows
  | registered _ => exact True.intro

end One

/-! ## All registrations together -/

/-- Registrations that are in order, and draw what nobody has. -/
structure Entrants (sealer : Sealer) (t : Tables) {ι : Type} (o : ι → Occasion) (r : ι → Api.Registration) :
    Prop where
  sound : t.Sound
  cost : isCost sealer.cost = true
  salts : ∀ i, isSalt (o i).salt = true
  rules : ∀ i, brokenByRegistration? (r i) = none
  users_new : ∀ i, (o i).userId ∉ t.users
  users_distinct : ∀ i j, (o i).userId = (o j).userId → i = j
  tokens_new : ∀ i, t.TokenFree (o i).token
  tokens_distinct : ∀ i j, (o i).token = (o j).token → i = j

/-- The registrations before their first turn, on the tables that they share. -/
def entering (sealer : Sealer) {ι : Type} (o : ι → Occasion) (r : ι → Api.Registration) (t : Tables) :
    Shared fun _ : ι => Except ServiceError Api.Session :=
  ⟨fun i => (register sealer (o i) (r i)).run, t⟩

/-- What holds between the calls. -/
structure Underway (sealer : Sealer) {ι : Type} (o : ι → Occasion) (r : ι → Api.Registration)
    (secret : ι → SealedPassword) (t : Tables)
    (s : Shared fun _ : ι => Except ServiceError Api.Session) : Prop where
  sound : s.tables.Sound
  reached : ∀ i, Reached sealer (o i) (r i) (secret i) s.tables (s.callers i)
  unchanged : ∀ id, (∀ i, id ≠ (o i).userId) → s.tables.rowsOf id = t.rowsOf id

section All
variable {ι : Type} {sealer : Sealer} {o : ι → Occasion} {r : ι → Api.Registration}
  {secret : ι → SealedPassword} {t : Tables} {s : Shared fun _ : ι => Except ServiceError Api.Session}

theorem Entrants.underway (he : Entrants sealer t o r) :
    Underway sealer o r secret t (entering sealer o r t) := by
  refine ⟨he.sound, fun i => ?_, fun _ _ => rfl⟩
  have hrun : (entering sealer o r t).callers i = asking sealer (o i) (r i) :=
    run_register sealer (o i) (r i) (he.rules i)
  rw [hrun]
  exact .asking (he.sound.rowsOf_absent (he.users_new i))

theorem Entrants.exists_secret (he : Entrants sealer t o r) :
    ∃ secret : ι → SealedPassword,
      ∀ i, sealPassword sealer.cost (r i).password (o i).salt = .ok (secret i) := by
  have hsealed : ∀ i, ∃ secret, sealPassword sealer.cost (r i).password (o i).salt = .ok secret := by
    intro i
    have hpassword : brokenByPassword? (r i).password = none :=
      (Option.or_eq_none_iff.mp (Option.or_eq_none_iff.mp (he.rules i)).2).1
    exact sealPassword_of_rules he.cost hpassword (he.salts i)
  exact Classical.skolem.mp hsealed

theorem Underway.tokenFreeFor (he : Entrants sealer t o r) (h : Underway sealer o r secret t s) (i : ι) :
    s.tables.TokenFreeFor (o i).userId (o i).token := by
  intro id row hr htoken
  by_cases hid : ∃ j, id = (o j).userId
  · obtain ⟨j, rfl⟩ := hid
    have hdrawn : (o i).token = (o j).token := htoken.symm.trans ((h.reached j).token_eq hr)
    rw [he.tokens_distinct i j hdrawn]
  · have hrows := h.unchanged id fun j hj => hid ⟨j, hj⟩
    have hold : t.tokens[id]? = some row := (congrArg Rows.token hrows).symm.trans hr
    exact absurd htoken (he.tokens_new i hold)

theorem Underway.turn [DecidableEq ι] (he : Entrants sealer t o r)
    (hseal : ∀ i, sealPassword sealer.cost (r i).password (o i).salt = .ok (secret i))
    (h : Underway sealer o r secret t s) (i : ι) : Underway sealer o r secret t (s.turn i) := by
  have hnext := (h.reached i).advances h.sound (hseal i) (h.tokenFreeFor he i)
  cases hi : s.callers i with
  | done result => rwa [Shared.turn_of_done hi]
  | note event next => exact absurd (hi ▸ h.reached i) Reached.not_note
  | ask call next =>
    rw [hi] at hnext
    obtain ⟨hreached, ha⟩ := hnext
    rw [Shared.turn_of_ask hi]
    constructor
    · exact h.sound.answer call
    · intro j
      change Reached _ _ _ _ _ (Function.update s.callers i _ j)
      by_cases hj : j = i
      · subst hj
        rwa [Function.update_self]
      · rw [Function.update_of_ne hj]
        exact (h.reached j).of_addsOnly (fun hid => hj (he.users_distinct j i hid)) ha
    · intro id hid
      exact (ha.same id (hid i)).trans (h.unchanged id hid)

end All

/-! ## When all have ended -/

/-- The registration has succeeded. -/
def Succeeded {ι : Type} (s : Shared fun _ : ι => Except ServiceError Api.Session) (i : ι) : Prop :=
  ∃ session, s.callers i = .done (.ok session)

/-- What registrations that ran at the same time leave behind. -/
structure Settled (sealer : Sealer) {ι : Type} (o : ι → Occasion) (r : ι → Api.Registration) (t : Tables)
    (s : Shared fun _ : ι => Except ServiceError Api.Session) : Prop where
  /-- A registration leaves all the rows of its user, or finds the login taken and leaves none. -/
  all_or_nothing : ∀ i,
    (s.callers i = .done (.ok (newSession (o i) (r i))) ∧
      ∃ secret, sealPassword sealer.cost (r i).password (o i).salt = .ok secret ∧
        s.tables.rowsOf (o i).userId = rowsRegistered (o i) (r i) secret) ∨
    (s.callers i = .done (.error (.loginTaken (r i).login)) ∧ s.tables.rowsOf (o i).userId = noRows)
  /-- Where it succeeded, nobody else has the login. -/
  login_own : ∀ i, Succeeded s i → ∀ (id : String) (c : Credential), s.tables.credentials[id]? = some c →
    c.login = (r i).login → id = (o i).userId
  /-- No two succeed with one login. -/
  one_success : ∀ i j, (r i).login = (r j).login → Succeeded s i → Succeeded s j → i = j
  /-- With a login that was free, one does. -/
  free_login : ∀ i, t.LoginFree (r i).login → ∃ j, (r j).login = (r i).login ∧ Succeeded s j
  /-- With a login that was not free, none does. -/
  taken_login : ∀ i, Taken t (r i).login → ¬ Succeeded s i
  /-- The rows of everybody else are as before. -/
  unchanged : ∀ id, (∀ i, id ≠ (o i).userId) → s.tables.rowsOf id = t.rowsOf id

section Ended
variable {ι : Type} {sealer : Sealer} {o : ι → Occasion} {r : ι → Api.Registration}
  {secret : ι → SealedPassword} {t : Tables} {s : Shared fun _ : ι => Except ServiceError Api.Session}

theorem Underway.ended (h : Underway sealer o r secret t s) {i : ι}
    (hdone : ∃ result, s.callers i = .done result) :
    (s.callers i = .done (.ok (newSession (o i) (r i))) ∧
      s.tables.rowsOf (o i).userId = rowsRegistered (o i) (r i) (secret i)) ∨
    (s.callers i = .done (.error (.loginTaken (r i).login)) ∧ s.tables.rowsOf (o i).userId = noRows ∧
      Taken s.tables (r i).login) := by
  obtain ⟨result, hi⟩ := hdone
  have hreached := h.reached i
  rw [hi] at hreached
  rcases hreached.ended with ⟨rfl, hrows⟩ | ⟨rfl, hrows⟩
  · exact .inl ⟨hi, hrows⟩
  · exact .inr ⟨hi, hrows⟩

theorem Underway.credential_of_succeeded (h : Underway sealer o r secret t s) {i : ι}
    (hi : Succeeded s i) : s.tables.credentials[(o i).userId]? =
      some ⟨(o i).userId, (r i).login, (secret i).hash, (secret i).salt⟩ := by
  obtain ⟨session, hi⟩ := hi
  rcases h.ended ⟨_, hi⟩ with ⟨-, hrows⟩ | ⟨hno, -⟩
  · exact congrArg Rows.credential hrows
  · rw [hi] at hno
    cases hno

theorem Underway.settled (he : Entrants sealer t o r)
    (hseal : ∀ i, sealPassword sealer.cost (r i).password (o i).salt = .ok (secret i))
    (h : Underway sealer o r secret t s) (hdone : ∀ i, ∃ result, s.callers i = .done result) :
    Settled sealer o r t s := by
  have hown : ∀ i, Succeeded s i → ∀ (id : String) (c : Credential), s.tables.credentials[id]? = some c →
      c.login = (r i).login → id = (o i).userId := fun i hi id c hc hl =>
    h.sound.login_unique hc (h.credential_of_succeeded hi) hl
  constructor
  · intro i
    rcases h.ended (hdone i) with ⟨hi, hrows⟩ | ⟨hi, hrows, -⟩
    · exact .inl ⟨hi, secret i, hseal i, hrows⟩
    · exact .inr ⟨hi, hrows⟩
  · exact hown
  · intro i j hl hi hj
    exact he.users_distinct i j (hown j hj _ _ (h.credential_of_succeeded hi) hl)
  · intro i hfree
    rcases h.ended (hdone i) with ⟨hi, -⟩ | ⟨-, -, id, c, hc, hl⟩
    · exact ⟨i, rfl, _, hi⟩
    · -- Whoever has the login now was registered with it, since nobody had it before.
      by_cases hid : ∃ j, id = (o j).userId
      · obtain ⟨j, rfl⟩ := hid
        rcases h.ended (hdone j) with ⟨hj, hrows⟩ | ⟨-, hrows, -⟩
        · have hcredential : some c = some _ := hc.symm.trans (congrArg Rows.credential hrows)
          rw [Option.some.inj hcredential] at hl
          exact ⟨j, hl, _, hj⟩
        · have hnone : some c = none := hc.symm.trans (congrArg Rows.credential hrows)
          cases hnone
      · have hrows := h.unchanged id fun j hj => hid ⟨j, hj⟩
        exact absurd hl (hfree ((congrArg Rows.credential hrows).symm.trans hc))
  · rintro i ⟨id, c, hc, hl⟩ hi
    have hold : ∀ j, id ≠ (o j).userId := by
      rintro j rfl
      exact he.users_new j (he.sound.credential_user hc)
    have hkept := congrArg Rows.credential (h.unchanged id hold)
    exact hold i (hown i hi id c (hkept.trans hc) hl)
  · exact h.unchanged

/-- Whatever the order of their turns, registrations that run at the same time settle. -/
theorem registrations_settle [DecidableEq ι] (he : Entrants sealer t o r) (turns : List ι)
    (hdone : ∀ i, ∃ result, ((entering sealer o r t).afterTurns turns).callers i = .done result) :
    Settled sealer o r t ((entering sealer o r t).afterTurns turns) := by
  obtain ⟨secret, hseal⟩ := he.exists_secret
  have hunderway : Underway sealer o r secret t ((entering sealer o r t).afterTurns turns) :=
    Shared.afterTurns_keeps (fun s i h => h.turn he hseal i) turns he.underway
  exact hunderway.settled he hseal hdone

/-- No order of turns keeps a registration from its end. -/
theorem registrations_end [DecidableEq ι] (sealer : Sealer) (o : ι → Occasion) (r : ι → Api.Registration)
    (t : Tables) {turns : List ι} (hturns : ∀ i, 5 ≤ turns.count i) (i : ι) :
    ∃ result, ((entering sealer o r t).afterTurns turns).callers i = .done result :=
  Shared.done_of_count (s := entering sealer o r t) (within_register sealer (o i) (r i)) (hturns i)

end Ended

/-- Two registrations find the same login free, and one of them gets it. -/
theorem rivals_settle :
    let o : Bool → Occasion := fun i => { (default : Occasion) with
      userId := if i then "ann" else "eve", token := drawnToken (if i then 7 else 8), salt := drawnSalt 1 }
    let r : Bool → Api.Registration := fun i => ⟨"Ann", "correct horse", none, i⟩
    let turns := [true, false, true, false, false, true, true, false, true, false]
    let s := (entering ⟨4⟩ o r .empty).afterTurns turns
    Entrants ⟨4⟩ .empty o r ∧ (∀ i, ∃ result, s.callers i = .done result) ∧
      Settled ⟨4⟩ o r .empty s ∧ ∃ i, Succeeded s i ∧ ∀ j, Succeeded s j → j = i := by
  intro o r turns s
  have he : Entrants ⟨4⟩ .empty o r := by
    refine ⟨.empty, rfl, ?_, ?_, ?_, ?_, ?_, ?_⟩
    · decide +kernel
    · decide +kernel
    · decide +kernel
    · decide +kernel
    · intro i id row hr
      cases hr
    · decide +kernel
  have hturns : ∀ i, 5 ≤ turns.count i := by decide
  have hdone := registrations_end ⟨4⟩ o r .empty hturns
  have hsettled := registrations_settle he turns hdone
  obtain ⟨i, -, hi⟩ := hsettled.free_login true fun hc => nomatch hc
  exact ⟨he, hdone, hsettled, i, hi, fun j hj => hsettled.one_success j i rfl hj hi⟩

end PlayerAccounts.Service
