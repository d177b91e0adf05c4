import PlayerAccounts.Proofs.Store.Turns
import PlayerAccounts.Service.Accounts
/-!
# The email that was confirmed

An update that brings a new email, and does not say itself whether it is confirmed, takes the confirmation
back. Whether the email is new is asked in one call, and the row is written in the next one. Among several
updates of a user, a confirmed email is therefore the one that was confirmed, unless an update writes what it
found in the row before.
-/
namespace PlayerAccounts.Service
set_option autoImplicit false

open PlayerAccounts.Account
open PlayerAccounts.Store

/-! ## An update call by call

Once an email is found in order, `settling` is left; a new one that is not said to be confirmed or not is
compared with the one in the row first. -/

/-- An update of a user, on behalf of a trusted caller or of the player. -/
inductive Update where
  | byService (request : UserUpdate)
  | byPlayer (edit : ProfileEdit)
deriving DecidableEq, Repr

def Update.request : Update → UserUpdate
  | byService request => request
  | byPlayer edit => edit.update

def Update.action (userId : String) : Update → Action User
  | byService request => updateUser userId request
  | byPlayer edit => updateProfile userId edit

section Stages
variable (userId : String)

def amending (changes : Changes) : Program (Except ServiceError User) :=
  .ask (.amendUser userId changes) fun
    | .error e => .done (.error (ServiceError.ofStore e))
    | .ok user => .done (.ok user)

def comparing (changes : Changes) (email : Option String) : Program (Except ServiceError User) :=
  .ask (.findUser userId) fun
    | .error e => .done (.error (ServiceError.ofStore e))
    | .ok user =>
      amending userId (if user.email = email then changes else { changes with emailConfirmed := some false })

def settling (changes : Changes) : Program (Except ServiceError User) :=
  match changes.email.target?, changes.emailConfirmed with
  | some email, none => comparing userId changes email
  | _, _ => amending userId changes

theorem run_updateUser (request : UserUpdate) :
    (updateUser userId request).run =
      match brokenByEdit? request.email with
      | some rule => .done (.error (ServiceError.ofRule rule))
      | none => settling userId request.changes := by
  have hamend : ∀ changes,
      ExceptT.run (Action.demand (.amendUser userId changes)) = amending userId changes := by
    intro changes
    refine congrArg (Program.ask _) (funext fun answer => ?_)
    cases answer <;> rfl
  unfold updateUser
  cases brokenByEdit? request.email with
  | some rule => rfl
  | none =>
    change ExceptT.run (withConfirmation userId request.changes >>= fun changes =>
      Action.demand (.amendUser userId changes)) = settling userId request.changes
    generalize request.changes = changes
    unfold withConfirmation settling
    cases changes.email.target? with
    | none => exact hamend changes
    | some email =>
      cases changes.emailConfirmed with
      | some isConfirmed => exact hamend changes
      | none =>
        refine congrArg (Program.ask _) (funext fun answer => ?_)
        cases answer with
        | error e => rfl
        | ok user => exact hamend _

end Stages

/-- How far an update has come, from what is left of it. -/
inductive UpdateStage (userId : String) : Program (Except ServiceError User) → Prop where
  | comparing {changes : Changes} {email : Option String} :
    changes.email.target? = some email → changes.emailConfirmed = none →
      UpdateStage userId (comparing userId changes email)
  | amending (changes : Changes) : UpdateStage userId (amending userId changes)
  | done (result : Except ServiceError User) : UpdateStage userId (.done result)

theorem run_action (userId : String) (u : Update) :
    (u.action userId).run = (updateUser userId u.request).run := by
  cases u <;> rfl

theorem stage_action (userId : String) (u : Update) : UpdateStage userId (u.action userId).run := by
  rw [run_action, run_updateUser]
  split
  · exact .done _
  · unfold settling
    split
    case h_1 htarget hflag => exact .comparing htarget hflag
    case h_2 => exact .amending _

theorem changes_of_amending {userId : String} {changes changes' : Changes}
    (h : amending userId changes = amending userId changes') : changes = changes' := by
  injection h with hcall
  injection hcall

/-! ## Updates that take turns -/

abbrev Updating (ι : Type) : Type := Shared fun _ : ι => Except ServiceError User

/-- Updates of a user before their first turn, on the tables that they share. -/
def updating (userId : String) {ι : Type} (u : ι → Update) (t : Tables) : Updating ι where
  callers i := ((u i).action userId).run
  tables := t

section Turns
variable {ι : Type} {userId : String} {s : Updating ι} {i j : ι} {user : User}

/-- All are updates of this user, whose row is there. -/
structure UpdatesUnderway (userId : String) (s : Updating ι) : Prop where
  stages : ∀ i, UpdateStage userId (s.callers i)
  row : ∃ user, s.tables.users[userId]? = some user

theorem underway_updating {t : Tables} (h : t.users[userId]? = some user) (u : ι → Update) :
    UpdatesUnderway userId (updating userId u t) :=
  ⟨fun i => stage_action userId (u i), user, h⟩

/-- It is about to write that the email is confirmed. -/
def Confirming (userId : String) (s : Updating ι) (i : ι) : Prop :=
  ∃ changes, s.callers i = amending userId changes ∧ changes.emailConfirmed = some true

/-- It is about to write this email, and to leave the email as confirmed as it is. -/
def Waiting (userId : String) (s : Updating ι) (i : ι) (email : Option String) : Prop :=
  ∃ changes, s.callers i = amending userId changes ∧ changes.emailConfirmed = none ∧
    changes.email.target? = some email

/-- If the email of the row is confirmed, then it is an allowed one, and so is what the callers who have a
turn later are waiting to write. The turns of unconfirmed writes keep this. -/
def EmailAllowed (userId : String) (later : List ι) (allowed : Option String → Prop) (s : Updating ι) :
    Prop :=
  ∀ user, s.tables.users[userId]? = some user → user.emailConfirmed = true →
    allowed user.email ∧ ∀ i ∈ later, ∀ email, Waiting userId s i email → allowed email

theorem not_waiting_of_done {result : Except ServiceError User} (h : s.callers i = .done result)
    (email : Option String) : ¬Waiting userId s i email := by
  rintro ⟨changes, hp, -⟩
  cases h.symm.trans hp

theorem waiting_compared {changes : Changes} {email found : Option String}
    (htarget : changes.email.target? = some email) (hnext : s.callers i = amending userId
      (if user.email = email then changes else { changes with emailConfirmed := some false }))
    (hwaiting : Waiting userId s i found) : found = user.email := by
  obtain ⟨written, hwritten, hflag, hfound⟩ := hwaiting
  have heq := changes_of_amending (hwritten.symm.trans hnext)
  split at heq
  case isTrue hsame =>
    rw [heq, htarget] at hfound
    exact (Option.some.inj hfound).symm.trans hsame.symm
  case isFalse =>
    rw [heq] at hflag
    cases hflag

theorem confirmed_of_apply {changes : Changes} (hflag : changes.emailConfirmed ≠ some true)
    (h : (user.apply changes).emailConfirmed = true) :
    changes.emailConfirmed = none ∧ user.emailConfirmed = true := by
  change changes.emailConfirmed.getD user.emailConfirmed = true at h
  cases hsaid : changes.emailConfirmed with
  | none => rw [hsaid] at h; exact ⟨rfl, h⟩
  | some isConfirmed => rw [hsaid] at h; exact absurd (hsaid.trans (congrArg some h)) hflag

theorem email_apply {changes : Changes} (hp : s.callers i = amending userId changes)
    (hnone : changes.emailConfirmed = none) :
    (user.apply changes).email = user.email ∨ Waiting userId s i (user.apply changes).email := by
  change changes.email.apply user.email = _ ∨ Waiting userId s i (changes.email.apply user.email)
  cases hedit : changes.email with
  | keep => exact .inl rfl
  | clear => exact .inr ⟨changes, hp, hnone, by rw [hedit]; rfl⟩
  | set email => exact .inr ⟨changes, hp, hnone, by rw [hedit]; rfl⟩

variable [DecidableEq ι]

theorem turn_amending (hu : s.tables.users[userId]? = some user) {changes : Changes}
    (hp : s.callers i = amending userId changes) :
    (s.turn i).callers i = .done (.ok (user.apply changes)) ∧
      (s.turn i).tables.users[userId]? = some (user.apply changes) := by
  have hanswer : s.tables.answer (.amendUser userId changes) =
      (.ok (user.apply changes),
        { s.tables with users := s.tables.users.insert userId (user.apply changes) }) := by
    rw [Tables.answer, Tables.amendUser, hu]
  refine ⟨?_, ?_⟩
  · rw [Shared.callers_turn_of_ask hp, hanswer]
  · rw [Shared.turn_of_ask hp, hanswer]
    exact (lookup_insert ..).trans (if_pos rfl)

/-- All that a turn of an update can do. -/
inductive UpdateTurn (userId : String) (s : Updating ι) (i : ι) (user : User) : Prop where
  | ended : s.turn i = s → UpdateTurn userId s i user
  | compared {changes : Changes} {email : Option String} :
    changes.email.target? = some email →
      (s.turn i).callers i = amending userId
        (if user.email = email then changes else { changes with emailConfirmed := some false }) →
      (s.turn i).tables = s.tables → UpdateTurn userId s i user
  | wrote {changes : Changes} {result : Except ServiceError User} :
    s.callers i = amending userId changes → (s.turn i).callers i = .done result →
      (s.turn i).tables.users[userId]? = some (user.apply changes) → UpdateTurn userId s i user

theorem UpdatesUnderway.turn_cases (h : UpdatesUnderway userId s)
    (hu : s.tables.users[userId]? = some user) (i : ι) : UpdateTurn userId s i user := by
  have hstage := h.stages i
  generalize hp : s.callers i = p at hstage
  cases hstage with
  | done result => exact .ended (Shared.turn_of_done hp)
  | @comparing changes email htarget _ =>
    refine .compared htarget ?_ ?_
    · rw [Shared.callers_turn_of_ask hp, Tables.answer, Tables.findUser_of_row hu]
    · rw [Shared.turn_of_ask hp]
      rfl
  | amending changes =>
    obtain ⟨hdone, hrow⟩ := turn_amending hu hp
    exact .wrote hp hdone hrow

theorem UpdatesUnderway.turn (h : UpdatesUnderway userId s) (i : ι) :
    UpdatesUnderway userId (s.turn i) := by
  obtain ⟨user, hu⟩ := h.row
  have hothers : UpdateStage userId ((s.turn i).callers i) →
      ∀ j, UpdateStage userId ((s.turn i).callers j) := by
    intro hi j
    by_cases hj : j = i
    · rwa [hj]
    · rw [Shared.callers_turn_of_ne hj]
      exact h.stages j
  cases h.turn_cases hu i with
  | ended hturn => rwa [hturn]
  | compared _ hnext htables => exact ⟨hothers (hnext ▸ .amending _), user, htables ▸ hu⟩
  | wrote _ hdone hrow => exact ⟨hothers (hdone ▸ .done _), _, hrow⟩

theorem UpdatesUnderway.afterTurns (h : UpdatesUnderway userId s) (turns : List ι) :
    UpdatesUnderway userId (s.afterTurns turns) :=
  Shared.afterTurns_keeps (fun _ i hs => hs.turn i) turns h

/-! ## What may stand as confirmed -/

variable {later : List ι} {allowed : Option String → Prop}

theorem waiting_of_turn (h : j ≠ i) {email : Option String} (hwaiting : Waiting userId (s.turn i) j email) :
    Waiting userId s j email := by
  rwa [Waiting, Shared.callers_turn_of_ne h] at hwaiting

theorem EmailAllowed.turn (h : EmailAllowed userId later allowed s) (hunderway : UpdatesUnderway userId s)
    (hi : i ∈ later) (hunconfirmed : ¬Confirming userId s i) :
    EmailAllowed userId later allowed (s.turn i) := by
  obtain ⟨user, hu⟩ := hunderway.row
  intro after hafter hconfirmed
  cases hunderway.turn_cases hu i with
  | ended hturn =>
    rw [hturn] at hafter ⊢
    exact h after hafter hconfirmed
  | compared htarget hnext htables =>
    -- The row is the same, but whoever has compared may be waiting now, with the email of the row.
    rw [htables] at hafter
    obtain ⟨hemail, hwaiting⟩ := h after hafter hconfirmed
    obtain rfl : after = user := Option.some.inj (hafter.symm.trans hu)
    refine ⟨hemail, fun j hj email hw => ?_⟩
    by_cases hji : j = i
    · have hfound : email = after.email := waiting_compared htarget hnext (hji ▸ hw)
      rwa [hfound]
    · exact hwaiting j hj email (waiting_of_turn hji hw)
  | @wrote changes result hp hdone hrow =>
    -- The row has changed, but not to confirmed, so what the writer put there it was waiting to write.
    obtain rfl : after = user.apply changes := Option.some.inj (hafter.symm.trans hrow)
    obtain ⟨hnone, hbefore⟩ := confirmed_of_apply (fun hflag => hunconfirmed ⟨changes, hp, hflag⟩) hconfirmed
    obtain ⟨hemail, hwaiting⟩ := h user hu hbefore
    have hwritten : _ ∨ Waiting userId s i (user.apply changes).email := email_apply hp hnone
    refine ⟨?_, fun j hj email hw => ?_⟩
    · rcases hwritten with hsame | hwrote
      · rwa [hsame]
      · exact hwaiting i hi _ hwrote
    · by_cases hji : j = i
      · exact absurd (hji ▸ hw) (not_waiting_of_done hdone email)
      · exact hwaiting j hj email (waiting_of_turn hji hw)

def Unconfirmed (userId : String) (s : Updating ι) : List ι → Prop
  | [] => True
  | i :: turns => ¬Confirming userId s i ∧ Unconfirmed userId (s.turn i) turns

theorem EmailAllowed.afterTurns (h : EmailAllowed userId later allowed s)
    (hunderway : UpdatesUnderway userId s) {turns : List ι} (hlater : ∀ i ∈ turns, i ∈ later)
    (hunconfirmed : Unconfirmed userId s turns) :
    EmailAllowed userId later allowed (s.afterTurns turns) := by
  induction turns generalizing s with
  | nil => exact h
  | cons i turns ih =>
    rw [List.forall_mem_cons] at hlater
    exact ih (h.turn hunderway hlater.1 hunconfirmed.1) (hunderway.turn i) hlater.2 hunconfirmed.2

end Turns

/-! ## The first and the last turn -/

section Updates
variable {ι : Type} {userId : String} {t : Tables} {first : User}

theorem not_waiting_updating (u : ι → Update) (i : ι) (email : Option String) :
    ¬Waiting userId (updating userId u t) i email := by
  -- An update that would be waiting has its email to compare before.
  rintro ⟨changes, hp, hflag, htarget⟩
  have hrun : (updateUser userId (u i).request).run = amending userId changes :=
    (run_action userId (u i)).symm.trans hp
  rw [run_updateUser] at hrun
  split at hrun
  · cases hrun
  · unfold settling at hrun
    split at hrun
    case h_1 => injection hrun with hcall; cases hcall
    case h_2 hnot => exact hnot email (changes_of_amending hrun ▸ htarget) (changes_of_amending hrun ▸ hflag)

variable [DecidableEq ι]

theorem row_confirmed {s : Updating ι} {i : ι} (h : UpdatesUnderway userId s) (hi : Confirming userId s i) :
    ∃ confirmed, (s.turn i).tables.users[userId]? = some confirmed ∧ confirmed.emailConfirmed = true := by
  obtain ⟨user, hu⟩ := h.row
  obtain ⟨changes, hp, hflag⟩ := hi
  exact ⟨_, (turn_amending hu hp).2, congrArg (·.getD user.emailConfirmed) hflag⟩

end Updates

/-! ## A write that comes too late -/

section Rivals
variable {userId old new : String} {t : Tables} {first : User}

def confirmation (new : String) : UserUpdate :=
  { UserUpdate.none with email := .set new, emailConfirmed := some true }

/-- A player sends the old email once more while a trusted caller sets a new one and confirms it. -/
def rivals (old new : String) : Bool → Update
  | false => .byPlayer ⟨.set old⟩
  | true => .byService (confirmation new)

def rivalChanges (old new : String) (i : Bool) : Changes := (rivals old new i).request.changes

/-- The player's update compares the email, then the other one writes its own, then the player's one
writes. -/
def rivalTurns : List Bool := [false, true, false]

theorem rivals_turns (h : t.users[userId]? = some first) (hemail : first.email = some old)
    (hold : brokenByEmail? old = none) (hnew : brokenByEmail? new = none) :
    let start := updating userId (rivals old new) t
    Confirming userId (start.afterTurns [false]) true ∧
      Unconfirmed userId (start.afterTurns [false, true]) [false] ∧
      (start.afterTurns [false, true]).tables.users[userId]? =
        some (first.apply (rivalChanges old new true)) ∧
      (start.afterTurns rivalTurns).tables.users[userId]? =
        some ((first.apply (rivalChanges old new true)).apply (rivalChanges old new false)) := by
  intro start
  have hplayer : start.callers false = comparing userId (rivalChanges old new false) (some old) := by
    change (updateUser userId (rivals old new false).request).run = _
    rw [run_updateUser]
    change (match brokenByEmail? old with | some rule => _ | none => _) = _
    rw [hold]
    rfl
  have hservice : start.callers true = amending userId (rivalChanges old new true) := by
    change (updateUser userId (confirmation new)).run = _
    rw [run_updateUser]
    change (match brokenByEmail? new with | some rule => _ | none => _) = _
    rw [hnew]
    rfl
  have hcompared : (start.turn false).callers false = amending userId (rivalChanges old new false) := by
    have hfind : start.tables.answer (.findUser userId) = (.ok first, t) :=
      congrArg (·, t) (Tables.findUser_of_row h)
    rw [Shared.callers_turn_of_ask hplayer, hfind]
    exact congrArg (amending userId) (if_pos hemail)
  have htables : (start.turn false).tables = t := by
    rw [Shared.turn_of_ask hplayer]
    rfl
  have hconfirming : (start.turn false).callers true = amending userId (rivalChanges old new true) := by
    rw [Shared.callers_turn_of_ne (by decide), hservice]
  have hconfirmed := (turn_amending (htables.symm ▸ h) hconfirming).2
  have hwaiting : ((start.turn false).turn true).callers false =
      amending userId (rivalChanges old new false) := by
    rw [Shared.callers_turn_of_ne (by decide), hcompared]
  have hunconfirmed : ¬Confirming userId ((start.turn false).turn true) false := by
    rintro ⟨changes, hp, hflag⟩
    rw [← changes_of_amending (hwaiting.symm.trans hp)] at hflag
    cases hflag
  exact ⟨⟨_, hconfirming, rfl⟩, ⟨hunconfirmed, True.intro⟩, hconfirmed, (turn_amending hconfirmed hwaiting).2⟩

end Rivals

/-! ## The email that stands as confirmed -/

section Result
variable {ι : Type} [DecidableEq ι] {userId : String} {t : Tables} {first : User}

/-- Among updates of a user that take turns, the row stays there. If its email is confirmed in the end, then
it is the one that stood in the row after the last write that confirmed it, or one that an update was waiting
to write at that time; and if no write has confirmed it, then it is the first one. -/
theorem email_that_was_confirmed (h : t.users[userId]? = some first) (u : ι → Update) (turns : List ι) :
    let start := updating userId u t
    ∃ user, (start.afterTurns turns).tables.users[userId]? = some user ∧
      (user.emailConfirmed = true →
        (∀ before i after, turns = before ++ i :: after → Confirming userId (start.afterTurns before) i →
          Unconfirmed userId (start.afterTurns (before ++ [i])) after →
            ∃ confirmed, (start.afterTurns (before ++ [i])).tables.users[userId]? = some confirmed ∧
              confirmed.emailConfirmed = true ∧
              (user.email = confirmed.email ∨
                ∃ j ∈ after, Waiting userId (start.afterTurns (before ++ [i])) j user.email)) ∧
        (Unconfirmed userId start turns → user.email = first.email)) := by
  intro start
  have hstart : UpdatesUnderway userId start := underway_updating h u
  obtain ⟨user, hu⟩ := (hstart.afterTurns turns).row
  refine ⟨user, hu, fun hconfirmed => ⟨fun before i after hturns hi hafter => ?_, fun hunconfirmed => ?_⟩⟩
  · have hbefore := hstart.afterTurns before
    have hbehind : start.afterTurns (before ++ [i]) = (start.afterTurns before).turn i :=
      Shared.afterTurns_append start before [i]
    rw [hbehind] at hafter ⊢
    obtain ⟨confirmed, hrow, hflag⟩ := row_confirmed hbefore hi
    refine ⟨confirmed, hrow, hflag, ?_⟩
    have hallowed : EmailAllowed userId after
        (fun email => email = confirmed.email ∨
          ∃ j ∈ after, Waiting userId ((start.afterTurns before).turn i) j email)
        ((start.afterTurns before).turn i) := by
      intro found hfound _
      obtain rfl : found = confirmed := Option.some.inj (hfound.symm.trans hrow)
      exact ⟨.inl rfl, fun j hj email hw => .inr ⟨j, hj, hw⟩⟩
    have hend := hallowed.afterTurns (hbefore.turn i) (fun _ hj => hj) hafter
    rw [hturns, Shared.afterTurns_append, Shared.afterTurns_cons] at hu
    exact (hend user hu hconfirmed).1
  · have hallowed : EmailAllowed userId turns (· = first.email) start := by
      intro found hfound _
      obtain rfl : found = first := Option.some.inj (hfound.symm.trans h)
      exact ⟨rfl, fun j _ email hw => absurd hw (not_waiting_updating u j email)⟩
    exact (hallowed.afterTurns hstart (fun _ hj => hj) hunconfirmed user hu hconfirmed).1

end Result

def playerAlone (user : User) : Tables := Tables.empty.putUser user

theorem playerAlone_row (user : User) : (playerAlone user).users[user.id]? = some user :=
  (Tables.users_putUser ..).trans (if_pos rfl)

theorem rival_email_was_waiting :
    let ann := User.fresh "ann" default (some "old@home.org")
    let start := updating "ann" (rivals "old@home.org" "new@home.org") (playerAlone ann)
    (playerAlone ann).users["ann"]? = some ann ∧
      ∃ user, (start.afterTurns rivalTurns).tables.users["ann"]? = some user ∧ user.emailConfirmed = true ∧
        ∃ j ∈ [false], Waiting "ann" (start.afterTurns [false, true]) j user.email := by
  intro ann start
  have hrow : (playerAlone ann).users["ann"]? = some ann := playerAlone_row ann
  have hold : brokenByEmail? "old@home.org" = none := by decide
  have hnew : brokenByEmail? "new@home.org" = none := by decide
  obtain ⟨hconfirming, hunconfirmed, hconfirmed, hlast⟩ := rivals_turns hrow rfl hold hnew
  obtain ⟨user, hu, hemail⟩ := email_that_was_confirmed hrow (rivals "old@home.org" "new@home.org") rivalTurns
  obtain rfl : user = _ := Option.some.inj (hu.symm.trans hlast)
  refine ⟨hrow, _, hu, rfl, ?_⟩
  obtain ⟨confirmed, hc, -, hsame | hstale⟩ :=
    (hemail rfl).1 [false] true [false] rfl hconfirming hunconfirmed
  · obtain rfl : confirmed = _ := Option.some.inj (hc.symm.trans hconfirmed)
    exact absurd hsame (by decide)
  · exact hstale

/-- After all turns, a confirmed email is still the one that the last confirming write left in the row. -/
def KeepsConfirmedEmail {ι : Type} [DecidableEq ι] (userId : String) (start : Updating ι) (turns : List ι) :
    Prop :=
  ∀ before i after confirmed user, turns = before ++ i :: after →
    Confirming userId (start.afterTurns before) i →
    Unconfirmed userId (start.afterTurns (before ++ [i])) after →
      (start.afterTurns (before ++ [i])).tables.users[userId]? = some confirmed →
        (start.afterTurns turns).tables.users[userId]? = some user → user.emailConfirmed = true →
          user.email = confirmed.email

/-- The confirmed email need not be kept: an old one that was found in the row before, and is written after
the new one was confirmed, stands as confirmed in its place. -/
theorem confirmed_email_not_kept :
    let ann := User.fresh "ann" default (some "old@home.org")
    let start := updating "ann" (rivals "old@home.org" "new@home.org") (playerAlone ann)
    ¬KeepsConfirmedEmail "ann" start rivalTurns := by
  intro ann start hkeeps
  have hold : brokenByEmail? "old@home.org" = none := by decide
  have hnew : brokenByEmail? "new@home.org" = none := by decide
  obtain ⟨hconfirming, hunconfirmed, hconfirmed, hlast⟩ := rivals_turns (playerAlone_row ann) rfl hold hnew
  exact absurd (hkeeps [false] true [false] _ _ rfl hconfirming hunconfirmed hconfirmed hlast rfl) (by decide)

end PlayerAccounts.Service
