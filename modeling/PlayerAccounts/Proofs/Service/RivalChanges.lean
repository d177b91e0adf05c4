import Mathlib.Tactic.Choose
import PlayerAccounts.Proofs.Service.Stages
/-!
# Two changes of one password

A change of password looks up the credential, checks the old password against it, and replaces it in a later
call, whatever stands there by then. Of two changes that take turns, both can succeed with the same old
password: then each has looked up the credential before the other one replaced it, and the later replacement
stands.
-/
namespace PlayerAccounts.Service
set_option autoImplicit false

open PlayerAccounts.Account
open PlayerAccounts.Store

/-! ## Two changes that take turns -/

abbrev Changing : Type := Shared fun _ : Bool => Except ServiceError Unit

/-- Two changes of the password of a user, before their first turn on the tables that they share. -/
def changing (sealer : Sealer) (drawn : Bool → Occasion) (userId : String) (p : Bool → Api.PasswordChange)
    (t : Tables) : Changing where
  callers b := (changePassword sealer (drawn b) userId (p b)).run
  tables := t

/-- The state before the turn with this number. -/
def before (start : Changing) (turns : List Bool) (n : Nat) : Changing := start.afterTurns (turns.take n)

/-- The look-up of a change: its turn, and the credential that it finds. -/
structure LookUp (sealer : Sealer) (drawn : Bool → Occasion) (userId : String) (p : Bool → Api.PasswordChange)
    (start : Changing) (turns : List Bool) (b : Bool) (looks : Nat) (c : Credential) : Prop where
  looks_at : turns[looks]? = some b
  reading : (before start turns looks).callers b = reading sealer (drawn b) userId (p b)
  row : (before start turns looks).tables.credentials[userId]? = some c

/-- The credential is replaced, so all that can be left is to end the session. -/
def HasReplaced (userId : String) (s : Changing) (b : Bool) : Prop :=
  s.callers b = revoking userId ∨ ∃ result, s.callers b = .done result

/-- The calls of a change that succeeds: its look-up, and later on the replacement of the credential by one
with the same login and the new password. -/
structure ChangeCourse (sealer : Sealer) (drawn : Bool → Occasion) (userId : String)
    (p : Bool → Api.PasswordChange) (start : Changing) (turns : List Bool) (b : Bool) (looks replaces : Nat)
    (c : Credential) (secret : SealedPassword) : Prop
    extends LookUp sealer drawn userId p start turns b looks c where
  first_turn : b ∉ turns.take looks
  fits : checkPassword (p b).oldPassword c.hash c.salt = .ok true
  sealed : sealPassword sealer.cost (p b).newPassword (drawn b).salt = .ok secret
  looks_lt : looks < replaces
  replaces_at : turns[replaces]? = some b
  replaced : (before start turns (replaces + 1)).tables.credentials[userId]? =
    some ⟨userId, c.login, secret.hash, secret.salt⟩
  has_replaced : HasReplaced userId (before start turns (replaces + 1)) b

section Positions
variable {start : Changing} {turns : List Bool} {n m : Nat} {b : Bool}

theorem before_of_le (h : n ≤ m) :
    before start turns m = (before start turns n).afterTurns ((turns.take m).drop n) := by
  have hsplit : turns.take n ++ (turns.take m).drop n = turns.take m := by
    have htake : (turns.take m).take n = turns.take n := by rw [List.take_take, Nat.min_eq_left h]
    rw [← htake, List.take_append_drop]
  rw [before, before, ← Shared.afterTurns_append, hsplit]

theorem before_append (first rest : List Bool) :
    before start (first ++ rest) first.length = start.afterTurns first := by
  rw [before, List.take_left]

theorem before_behind (first between after : List Bool) :
    before start (first ++ b :: (between ++ b :: after)) (first.length + (between.length + 1) + 1) =
      ((start.afterTurns first).turn b).afterTurns (between ++ [b]) := by
  have hsplit : first ++ b :: (between ++ b :: after) = first ++ b :: (between ++ [b]) ++ after := by simp
  have hlength : first.length + (between.length + 1) + 1 = (first ++ b :: (between ++ [b])).length := by
    simp [Nat.add_assoc]
  rw [hsplit, hlength, before_append, Shared.afterTurns_append, Shared.afterTurns_cons]

end Positions

/-! ## The course of a change -/

section Course
variable {userId : String} {s : Changing} {b : Bool}

theorem HasReplaced.turn (h : HasReplaced userId s b) (i : Bool) : HasReplaced userId (s.turn i) b := by
  by_cases hb : b = i
  · subst hb
    rcases h with hask | ⟨result, hdone⟩
    · exact .inr ⟨_, Shared.callers_turn_of_ask hask⟩
    · rw [Shared.turn_of_done hdone]
      exact .inr ⟨result, hdone⟩
  · rwa [HasReplaced, Shared.callers_turn_of_ne hb]

theorem credentials_turn (h : HasReplaced userId s b) :
    (s.turn b).tables.credentials = s.tables.credentials := by
  rcases h with hask | ⟨result, hdone⟩
  · rw [Shared.turn_of_ask hask]
    rfl
  · rw [Shared.turn_of_done hdone]

theorem credentials_afterTurns {turns : List Bool} (h : ∀ i ∈ turns, HasReplaced userId s i) :
    (s.afterTurns turns).tables.credentials = s.tables.credentials := by
  induction turns generalizing s with
  | nil => rfl
  | cons i turns ih =>
    rw [List.forall_mem_cons] at h
    exact (ih fun j hj => (h.2 j hj).turn i).trans (credentials_turn h.1)

theorem HasReplaced.before {start : Changing} {turns : List Bool} {n m : Nat}
    (h : HasReplaced userId (before start turns n) b) (hle : n ≤ m) :
    HasReplaced userId (before start turns m) b := by
  rw [before_of_le hle]
  exact Shared.afterTurns_keeps (I := fun s => HasReplaced userId s b) (fun _ i hs => hs.turn i) _ h

theorem credential_of_ok {t : Tables} {c d : Credential} (h : (t.answer (.setCredential c)).1 = .ok d) :
    (t.answer (.setCredential c)).2.credentials[c.userId]? = some c := by
  change (t.setCredential c).1 = .ok d at h
  change (t.setCredential c).2.credentials[c.userId]? = some c
  unfold Tables.setCredential at h ⊢
  split at h
  · cases h
  · split at h
    · cases h
    · rename_i hm hl
      rw [if_neg hm, if_neg hl]
      exact (lookup_insert ..).trans (if_pos rfl)

theorem credential_of_lookUp {t : Tables} {c : Credential}
    (h : (t.answer (.credentialOfUser userId)).1 = .ok c) : t.credentials[userId]? = some c := by
  change t.credentialOfUser userId = .ok c at h
  unfold Tables.credentialOfUser at h
  split at h
  · rename_i found hfound
    rw [hfound, Except.ok.inj h]
  · cases h

variable {sealer : Sealer} {drawn : Bool → Occasion} {p : Bool → Api.PasswordChange}

theorem fits_of_replacing {o : Occasion} {r : Api.PasswordChange} {c : Credential} {secret : SealedPassword}
    {login : String} (h : rechecking sealer o userId r c = replacing userId login secret) :
    checkPassword r.oldPassword c.hash c.salt = .ok true := by
  unfold rechecking at h
  split at h
  · assumption
  · cases h

theorem exists_replacement {login : String} {secret : SealedPassword} {turns : List Bool}
    (hask : s.callers b = replacing userId login secret)
    (hdone : (s.afterTurns turns).callers b = .done (.ok ())) :
    ∃ between after, turns = between ++ b :: after ∧
      (s.afterTurns (between ++ [b])).tables.credentials[userId]? =
        some ⟨userId, login, secret.hash, secret.salt⟩ ∧
      HasReplaced userId (s.afterTurns (between ++ [b])) b := by
  obtain ⟨between, after, rfl, -, hlast⟩ := Shared.exists_turn_of_done hask hdone
  refine ⟨between, after, rfl, ?_⟩
  have hturn := Shared.callers_turn_of_ask hlast
  have hbehind : s.afterTurns (between ++ [b]) = (s.afterTurns between).turn b :=
    Shared.afterTurns_append s between [b]
  rw [Shared.afterTurns_append, Shared.afterTurns_cons] at hdone
  rw [hbehind]
  cases hanswer : ((s.afterTurns between).tables.answer
      (.setCredential ⟨userId, login, secret.hash, secret.salt⟩)).1 with
  | error e =>
    rw [hanswer] at hturn
    cases Shared.value_of_done hturn hdone
  | ok d =>
    rw [hanswer] at hturn
    refine ⟨?_, .inl hturn⟩
    rw [Shared.turn_of_ask hlast]
    exact credential_of_ok hanswer

theorem exists_lookUp {start : Changing} {turns : List Bool}
    (hstart : start.callers b = (changePassword sealer (drawn b) userId (p b)).run)
    (hdone : (start.afterTurns turns).callers b = .done (.ok ())) :
    ∃ first rest c secret, turns = first ++ b :: rest ∧ b ∉ first ∧
      (start.afterTurns first).callers b = reading sealer (drawn b) userId (p b) ∧
      (start.afterTurns first).tables.credentials[userId]? = some c ∧
      checkPassword (p b).oldPassword c.hash c.salt = .ok true ∧
      sealPassword sealer.cost (p b).newPassword (drawn b).salt = .ok secret ∧
      ((start.afterTurns first).turn b).callers b = replacing userId c.login secret := by
  rw [run_changePassword] at hstart
  -- A change that is refused on the way is done with an error, so this one has got through each check.
  cases hrule : brokenByPassword? (p b).newPassword with
  | some rule =>
    rw [hrule] at hstart
    cases Shared.value_of_done hstart hdone
  | none =>
    rw [hrule] at hstart
    obtain ⟨first, rest, rfl, hfirst, hask⟩ := Shared.exists_turn_of_done hstart hdone
    have hturn := Shared.callers_turn_of_ask hask
    rw [Shared.afterTurns_append, Shared.afterTurns_cons] at hdone
    cases hanswer : ((start.afterTurns first).tables.answer (.credentialOfUser userId)).1 with
    | error e =>
      rw [hanswer] at hturn
      cases Shared.value_of_done hturn hdone
    | ok c =>
      rw [hanswer] at hturn
      rcases rechecking_cases sealer (drawn b) userId (p b) c with
        ⟨e, hrefused⟩ | ⟨secret, hseal, hreplacing⟩
      · cases Shared.value_of_done (hturn.trans hrefused) hdone
      · exact ⟨first, rest, c, secret, rfl, hfirst, hask, credential_of_lookUp hanswer,
          fits_of_replacing hreplacing, hseal, hturn.trans hreplacing⟩

theorem exists_changeCourse {t : Tables} {turns : List Bool}
    (hdone : ((changing sealer drawn userId p t).afterTurns turns).callers b = .done (.ok ())) :
    ∃ looks replaces c secret, ChangeCourse sealer drawn userId p (changing sealer drawn userId p t) turns b
      looks replaces c secret := by
  obtain ⟨first, rest, c, secret, rfl, hfirst, hask, hrow, hfits, hseal, hreplacing⟩ :=
    exists_lookUp rfl hdone
  generalize changing sealer drawn userId p t = start at hdone hask hrow hreplacing ⊢
  rw [Shared.afterTurns_append, Shared.afterTurns_cons] at hdone
  obtain ⟨between, after, rfl, hreplaced, hhas⟩ := exists_replacement hreplacing hdone
  have hlooks : before start (first ++ b :: (between ++ b :: after)) first.length =
      start.afterTurns first := before_append first _
  have hreplaces : before start (first ++ b :: (between ++ b :: after))
      (first.length + (between.length + 1) + 1) =
        ((start.afterTurns first).turn b).afterTurns (between ++ [b]) := before_behind first between after
  refine ⟨first.length, first.length + (between.length + 1), c, secret, ?_⟩
  exact {
    looks_at := by simp
    reading := hlooks ▸ hask
    row := hlooks ▸ hrow
    first_turn := by rwa [List.take_left]
    fits := hfits
    sealed := hseal
    looks_lt := by omega
    replaces_at := by simp
    replaced := hreplaces ▸ hreplaced
    has_replaced := hreplaces ▸ hhas }

/-! ## One course beside the other -/

variable {start : Changing} {turns : List Bool} {looks replaces : Bool → Nat} {row : Bool → Credential}
  {secret : Bool → SealedPassword}

theorem row_of_later
    (h : ∀ b, ChangeCourse sealer drawn userId p start turns b (looks b) (replaces b) (row b) (secret b))
    (hlater : replaces (!b) < looks b) :
    row b = ⟨userId, (row !b).login, (secret !b).hash, (secret !b).salt⟩ := by
  have hothers : ∀ i ∈ (turns.take (looks b)).drop (replaces (!b) + 1),
      HasReplaced userId (before start turns (replaces (!b) + 1)) i := by
    intro i hi
    have hne : i ≠ b := by
      rintro rfl
      exact (h i).first_turn (List.mem_of_mem_drop hi)
    rw [Bool.eq_not_of_ne hne]
    exact (h !b).has_replaced
  -- All turns from the replacement on to the look-up are those of the other change.
  have hrow := (h b).row
  rw [before_of_le hlater, credentials_afterTurns hothers, (h !b).replaced] at hrow
  exact (Option.some.inj hrow).symm

theorem credential_of_last
    (h : ∀ b, ChangeCourse sealer drawn userId p start turns b (looks b) (replaces b) (row b) (secret b))
    (hlast : replaces (!b) < replaces b) :
    (start.afterTurns turns).tables.credentials[userId]? =
      some ⟨userId, (row b).login, (secret b).hash, (secret b).salt⟩ := by
  have hall : ∀ i, HasReplaced userId (before start turns (replaces b + 1)) i := by
    intro i
    by_cases hi : i = b
    · exact hi ▸ (h b).has_replaced
    · rw [Bool.eq_not_of_ne hi]
      exact (h !b).has_replaced.before (by omega)
  have hend : start.afterTurns turns =
      (before start turns (replaces b + 1)).afterTurns (turns.drop (replaces b + 1)) := by
    rw [before, ← Shared.afterTurns_append, List.take_append_drop]
  rw [hend, credentials_afterTurns fun i _ => hall i]
  exact (h b).replaced

theorem turns_ne {n m : Nat} (hn : turns[n]? = some b) (hm : turns[m]? = some (!b)) : n ≠ m := by
  rintro rfl
  exact absurd (Option.some.inj (hn.symm.trans hm)) (by cases b <;> decide)

end Course

/-! ## Changes that both succeed -/

section Succeeding
variable {userId login : String} {secret : Bool → SealedPassword} {s : Changing}

/-- Both changes have passed the check, and no call of theirs can fail. -/
structure Succeeding (userId login : String) (secret : Bool → SealedPassword) (s : Changing) : Prop where
  sound : s.tables.Sound
  row : ∃ c, s.tables.credentials[userId]? = some c ∧ c.login = login
  callers : ∀ b, s.callers b = replacing userId login (secret b) ∨ s.callers b = revoking userId ∨
    s.callers b = .done (.ok ())

theorem Succeeding.turn (h : Succeeding userId login secret s) (i : Bool) :
    Succeeding userId login secret (s.turn i) := by
  have hsound : (s.turn i).tables.Sound := Shared.sound_turn h.sound i
  obtain ⟨c, hc, rfl⟩ := h.row
  have hothers : ∀ b, b ≠ i → (s.turn i).callers b = s.callers b := fun b hb => Shared.callers_turn_of_ne hb
  have hcallers : ∀ {p}, (s.turn i).callers i = p → (p = revoking userId ∨ p = .done (.ok ())) → ∀ b,
      (s.turn i).callers b = replacing userId c.login (secret b) ∨ (s.turn i).callers b = revoking userId ∨
        (s.turn i).callers b = .done (.ok ()) := by
    intro p hp hnext b
    by_cases hb : b = i
    · subst hb
      exact .inr (hp ▸ hnext)
    · rw [hothers b hb]
      exact h.callers b
  rcases h.callers i with hask | hask | hdone
  · have hset : s.tables.answer (.setCredential ⟨userId, c.login, (secret i).hash, (secret i).salt⟩) = _ :=
      h.sound.setCredential_of_row hc (secret i).hash (secret i).salt
    have hnext : (s.turn i).callers i = revoking userId := by
      rw [Shared.callers_turn_of_ask hask, hset]
    refine ⟨hsound, ⟨⟨userId, c.login, (secret i).hash, (secret i).salt⟩, ?_, rfl⟩,
      hcallers hnext (.inl rfl)⟩
    rw [Shared.turn_of_ask hask, hset]
    exact (Tables.credentials_putCredential ..).trans (if_pos rfl)
  · refine ⟨hsound, ⟨c, ?_, rfl⟩, hcallers (Shared.callers_turn_of_ask hask) (.inr rfl)⟩
    rw [Shared.turn_of_ask hask]
    exact hc
  · rwa [Shared.turn_of_done hdone]

theorem Succeeding.done (h : Succeeding userId login secret s) {turns : List Bool}
    (hturns : ∀ b, 2 ≤ turns.count b) (b : Bool) : (s.afterTurns turns).callers b = .done (.ok ()) := by
  have hwithin : (s.callers b).Within 2 := by
    rcases h.callers b with hask | hask | hdone
    · rw [hask]
      intro answer
      cases answer with
      | error e => exact True.intro
      | ok d => exact fun answer => by cases answer <;> exact True.intro
    · rw [hask]
      exact fun answer => by cases answer <;> exact True.intro
    · rw [hdone]
      exact True.intro
  obtain ⟨value, hvalue⟩ := Shared.done_of_count hwithin (hturns b)
  have hend : Succeeding userId login secret (s.afterTurns turns) :=
    Shared.afterTurns_keeps (fun _ i hs => hs.turn i) turns h
  rcases hend.callers b with hask | hask | hdone
  · cases hask.symm.trans hvalue
  · cases hask.symm.trans hvalue
  · exact hdone

variable {sealer : Sealer} {drawn : Bool → Occasion} {p : Bool → Api.PasswordChange}

theorem turn_lookUp {b : Bool} {c : Credential} {secret : SealedPassword}
    (hask : s.callers b = reading sealer (drawn b) userId (p b)) (hc : s.tables.credentials[userId]? = some c)
    (hfits : checkPassword (p b).oldPassword c.hash c.salt = .ok true)
    (hseal : sealPassword sealer.cost (p b).newPassword (drawn b).salt = .ok secret) :
    (s.turn b).callers b = replacing userId c.login secret ∧ (s.turn b).tables = s.tables := by
  have hanswer : s.tables.answer (.credentialOfUser userId) = _ := Tables.answer_credentialOfUser_of_row hc
  refine ⟨?_, ?_⟩
  · rw [Shared.callers_turn_of_ask hask, hanswer]
    exact rechecking_of_fits sealer (drawn b) userId (p b) hfits hseal
  · rw [Shared.turn_of_ask hask]
    rfl

/-- Two changes that both look up the credential before they go on both succeed. -/
theorem both_succeed {t : Tables} (h : t.Sound) {c : Credential} (hc : t.credentials[userId]? = some c)
    (hfits : ∀ b, checkPassword (p b).oldPassword c.hash c.salt = .ok true)
    (hrule : ∀ b, brokenByPassword? (p b).newPassword = none)
    (hseal : ∀ b, sealPassword sealer.cost (p b).newPassword (drawn b).salt = .ok (secret b))
    {turns : List Bool} (hturns : ∀ b, 2 ≤ turns.count b) :
    let start := changing sealer drawn userId p t
    (∀ b, LookUp sealer drawn userId p start (false :: true :: turns) b (if b then 1 else 0) c) ∧
      ∀ b, (start.afterTurns (false :: true :: turns)).callers b = .done (.ok ()) := by
  intro start
  have hstart : ∀ b, start.callers b = reading sealer (drawn b) userId (p b) := by
    intro b
    refine (run_changePassword sealer (drawn b) userId (p b)).trans ?_
    rw [hrule b]
  obtain ⟨hfirst, htables⟩ := turn_lookUp (hstart false) hc (hfits false) (hseal false)
  have hsecond : (start.turn false).callers true = reading sealer (drawn true) userId (p true) := by
    rw [Shared.callers_turn_of_ne (by decide), hstart true]
  have hrow : (start.turn false).tables.credentials[userId]? = some c := htables ▸ hc
  obtain ⟨hlooked, htables'⟩ := turn_lookUp hsecond hrow (hfits true) (hseal true)
  have hsucceeding : Succeeding userId c.login secret ((start.turn false).turn true) := by
    refine ⟨?_, ⟨c, htables' ▸ hrow, rfl⟩, fun b => .inl ?_⟩
    · rw [htables', htables]
      exact h
    · cases b with
      | true => exact hlooked
      | false => rw [Shared.callers_turn_of_ne (by decide), hfirst]
  refine ⟨fun b => ?_, hsucceeding.done hturns⟩
  cases b with
  | false => exact ⟨rfl, hstart false, hc⟩
  | true => exact ⟨rfl, hsecond, hrow⟩

theorem both_succeed_oneAccount {login old salt : String} (hlen : old.utf8ByteSize ≤ maxPasswordBytes)
    (hsalt : salt.utf8ByteSize = saltBytes) (hold : ∀ b, (p b).oldPassword = old)
    (hrule : ∀ b, brokenByPassword? (p b).newPassword = none) (hdrawn : ∀ b, isSalt (drawn b).salt = true)
    {turns : List Bool} (hturns : ∀ b, 2 ≤ turns.count b) :
    let start := changing ⟨4⟩ drawn userId p (oneAccount userId login old salt)
    ∃ (looks : Bool → Nat) (c : Credential),
      (∀ b, LookUp ⟨4⟩ drawn userId p start (false :: true :: turns) b (looks b) c) ∧
        ∀ b, (start.afterTurns (false :: true :: turns)).callers b = .done (.ok ()) := by
  intro start
  have hsealed : ∀ b, ∃ secret, sealPassword 4 (p b).newPassword (drawn b).salt = .ok secret := fun b =>
    sealPassword_of_rules rfl (hrule b) (hdrawn b)
  choose secret hseal using hsealed
  obtain ⟨c, hc, -, -, hfits⟩ := oneAccount_row userId login hlen hsalt
  exact ⟨_, c, both_succeed (oneAccount_sound ..) hc (fun b => (hold b).symm ▸ hfits) hrule hseal hturns⟩

end Succeeding

/-! ## The result -/

section Result
variable {sealer : Sealer} {drawn : Bool → Occasion} {userId : String} {p : Bool → Api.PasswordChange}
  {turns : List Bool}

/-- If two changes of a password succeed, whatever the tables and the order of the turns, then the later
replacement stands in the end. If moreover both have checked the old password against the same credential,
and neither has drawn the salt of that one, then each has looked it up before the other one replaced it. -/
theorem rival_changes {t : Tables}
    (hdone : ∀ b, ((changing sealer drawn userId p t).afterTurns turns).callers b = .done (.ok ())) :
    ∃ (looks replaces : Bool → Nat) (row : Bool → Credential) (secret : Bool → SealedPassword),
      (∀ b, ChangeCourse sealer drawn userId p (changing sealer drawn userId p t) turns b (looks b)
        (replaces b) (row b) (secret b)) ∧
      (∃ last, replaces (!last) < replaces last ∧
        ((changing sealer drawn userId p t).afterTurns turns).tables.credentials[userId]? =
          some ⟨userId, (row last).login, (secret last).hash, (secret last).salt⟩) ∧
      ((row true).hash = (row false).hash → (row true).salt = (row false).salt →
        (∀ b, (drawn b).salt ≠ (row b).salt) → ∀ b, looks b < replaces !b) := by
  choose looks replaces row secret hcourse using fun b => exists_changeCourse (hdone b)
  refine ⟨looks, replaces, row, secret, hcourse, ?_, fun _ hsalt hfresh b => ?_⟩
  · have hne : replaces true ≠ replaces false :=
      turns_ne (hcourse true).replaces_at (hcourse false).replaces_at
    rcases Nat.lt_or_gt_of_ne hne with hlt | hlt
    · exact ⟨false, hlt, credential_of_last hcourse hlt⟩
    · exact ⟨true, hlt, credential_of_last hcourse hlt⟩
  · by_contra hnot
    have hne : looks b ≠ replaces !b := turns_ne (hcourse b).looks_at (hcourse !b).replaces_at
    have hrow := row_of_later hcourse (Nat.lt_of_le_of_ne (Nat.not_lt.mp hnot) hne.symm)
    have hsame : (row b).salt = (row !b).salt := by
      cases b with
      | false => exact hsalt.symm
      | true => exact hsalt
    have hdrawn : (secret !b).salt = (drawn !b).salt := (sealPassword_eq (hcourse !b).sealed).1
    refine hfresh (!b) ?_
    rw [← hdrawn, ← hsame, hrow]

end Result

/-- Two devices of ann change her password at the same time. -/
def annsDevices : Bool → Api.PasswordChange
  | false => ⟨"correct horse", "battery staple"⟩
  | true => ⟨"correct horse", "staple battery"⟩

def annsDraws (b : Bool) : Occasion := { (default : Occasion) with salt := drawnSalt (if b then 3 else 2) }

/-- Both look up the credential, then one makes its calls, then the other. -/
def annsTurns : List Bool := false :: true :: [false, false, true, true]

theorem annsDevices_run :
    let start := changing ⟨4⟩ annsDraws "ann" annsDevices
      (oneAccount "ann" "Ann" "correct horse" (drawnSalt 1))
    ∃ (looks : Bool → Nat) (c : Credential),
      (∀ b, LookUp ⟨4⟩ annsDraws "ann" annsDevices start annsTurns b (looks b) c) ∧
        ∀ b, (start.afterTurns annsTurns).callers b = .done (.ok ()) :=
  both_succeed_oneAccount (by decide) (by decide) (by decide) (by decide) (by decide) (by decide)

theorem annsDevices_both_succeed :
    let start := changing ⟨4⟩ annsDraws "ann" annsDevices
      (oneAccount "ann" "Ann" "correct horse" (drawnSalt 1))
    (∀ b, (start.afterTurns annsTurns).callers b = .done (.ok ())) ∧
      ∃ (looks replaces : Bool → Nat) (row : Bool → Credential) (secret : Bool → SealedPassword),
        (∀ b, ChangeCourse ⟨4⟩ annsDraws "ann" annsDevices start annsTurns b (looks b) (replaces b) (row b)
          (secret b)) ∧
          ∃ last, replaces (!last) < replaces last ∧
            (start.afterTurns annsTurns).tables.credentials["ann"]? =
              some ⟨"ann", (row last).login, (secret last).hash, (secret last).salt⟩ := by
  obtain ⟨-, -, -, hdone⟩ := annsDevices_run
  obtain ⟨looks, replaces, row, secret, hcourse, hlast, -⟩ := rival_changes hdone
  exact ⟨hdone, looks, replaces, row, secret, hcourse, hlast⟩

/-- Of two changes that check the old password against the same credential at most one succeeds. -/
def AtMostOneChange (sealer : Sealer) (drawn : Bool → Occasion) (userId : String)
    (p : Bool → Api.PasswordChange) (start : Changing) (turns : List Bool) : Prop :=
  ∀ (looks : Bool → Nat) (row : Bool → Credential),
    (∀ b, LookUp sealer drawn userId p start turns b (looks b) (row b)) →
      (row true).hash = (row false).hash → (row true).salt = (row false).salt →
        ¬∀ b, (start.afterTurns turns).callers b = .done (.ok ())

theorem annsDevices_not_one_change :
    ¬AtMostOneChange ⟨4⟩ annsDraws "ann" annsDevices
      (changing ⟨4⟩ annsDraws "ann" annsDevices (oneAccount "ann" "Ann" "correct horse" (drawnSalt 1)))
      annsTurns := by
  intro hone
  obtain ⟨looks, c, hlooks, hdone⟩ := annsDevices_run
  exact hone looks (fun _ => c) hlooks rfl rfl hdone

end PlayerAccounts.Service
