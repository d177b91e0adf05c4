import PlayerAccounts.Proofs.Account.Changesets
import PlayerAccounts.Proofs.Service.AccountOutcomes
/-!
# What an update does

An update of a user, whether a trusted caller or the player asks for it, rewrites one row or nothing. The
row is told field by field: all fields but one have what the request asks for, and whether the email is
confirmed follows from the request and the old email. Of the tables nothing is assumed.
-/
namespace PlayerAccounts.Service
set_option autoImplicit false

open PlayerAccounts.Account
open PlayerAccounts.Store

/-! ## The row -/

/-- The new row of a user is what the request makes of the old one. -/
structure Amended (request : UserUpdate) (old new : User) : Prop where
  id : new.id = old.id
  registered : new.registered = old.registered
  /-- A field has what is asked for in it, which may be that there is no content; others are kept. -/
  field (f : UserField) : f ≠ .emailConfirmed → f.of new = (f.askedIn request).getD (f.of old)
  /-- The request may tell itself whether the email is confirmed. -/
  confirmed_told {confirmed : Bool} : request.emailConfirmed = some confirmed →
    new.emailConfirmed = confirmed
  /-- Otherwise an email that is not the old one is not confirmed, and neither is none in place of one. -/
  confirmed_reset {email : Option String} : request.emailConfirmed = none →
    request.email.target? = some email → email ≠ old.email → new.emailConfirmed = false
  confirmed_kept : request.emailConfirmed = none →
    (∀ email, request.email.target? = some email → email = old.email) →
    new.emailConfirmed = old.emailConfirmed

theorem settledFor_eq (user : User) (changes : Changes) :
    settledFor user changes = changes ∨
      settledFor user changes = { changes with emailConfirmed := some false } := by
  unfold settledFor
  split
  · split
    · exact .inl rfl
    · exact .inr rfl
  · exact .inl rfl

theorem carriedBy_settledFor (user : User) (changes : Changes) {f : UserField} (hf : f ≠ .emailConfirmed) :
    f.carriedBy (settledFor user changes) = f.carriedBy changes := by
  rcases settledFor_eq user changes with heq | heq
  · rw [heq]
  · rw [heq]
    cases f with
    | emailConfirmed => exact absurd rfl hf
    | _ => rfl

theorem settledFor_of_told {changes : Changes} {confirmed : Bool}
    (hc : changes.emailConfirmed = some confirmed) (user : User) : settledFor user changes = changes := by
  rw [settledFor, hc]
  cases changes.email.target? <;> rfl

theorem settledFor_of_new {changes : Changes} {user : User} {email : Option String}
    (hc : changes.emailConfirmed = none) (he : changes.email.target? = some email) (hne : email ≠ user.email) :
    settledFor user changes = { changes with emailConfirmed := some false } := by
  rw [settledFor, hc, he]
  exact if_neg hne.symm

theorem settledFor_of_old {changes : Changes} {user : User}
    (hold : ∀ email, changes.email.target? = some email → email = user.email) :
    settledFor user changes = changes := by
  unfold settledFor
  cases he : changes.email.target? with
  | none => rfl
  | some email =>
    cases changes.emailConfirmed with
    | some confirmed => rfl
    | none => exact if_pos (hold email he).symm

theorem amended_apply (user : User) (request : UserUpdate) :
    Amended request user (user.apply (settledFor user request.changes)) where
  id := rfl
  registered := rfl
  field f hf := by rw [of_apply, carriedBy_settledFor user request.changes hf, carriedBy_changes]
  confirmed_told {confirmed} hc := by
    have hcarried : request.changes.emailConfirmed = some confirmed := hc
    rw [settledFor_of_told hcarried, User.apply, hcarried]
    rfl
  confirmed_reset hc he hne := by
    rw [settledFor_of_new hc he hne]
    rfl
  confirmed_kept hc hold := by
    have hcarried : request.changes.emailConfirmed = none := hc
    rw [settledFor_of_old hold, User.apply, hcarried]
    rfl

namespace Amended
variable {request : UserUpdate} {old new other : User}

theorem unique (h : Amended request old new) (h' : Amended request old other) : new = other := by
  refine User.ext_fields (h.id.trans h'.id.symm) (h.registered.trans h'.registered.symm) fun f => ?_
  by_cases hf : f = .emailConfirmed
  · subst hf
    change new.emailConfirmed = other.emailConfirmed
    cases hc : request.emailConfirmed with
    | some confirmed => rw [h.confirmed_told hc, h'.confirmed_told hc]
    | none =>
      by_cases hold : ∀ email, request.email.target? = some email → email = old.email
      · rw [h.confirmed_kept hc hold, h'.confirmed_kept hc hold]
      · simp only [not_forall] at hold
        obtain ⟨email, he, hne⟩ := hold
        rw [h.confirmed_reset hc he hne, h'.confirmed_reset hc he hne]
  · rw [h.field f hf, h'.field f hf]

/-- The new row has the email that is asked for, so that the request finds nothing to reset in it. -/
theorem again (h : Amended request old new) : Amended request new new where
  id := rfl
  registered := rfl
  field f hf := by
    rw [h.field f hf]
    cases f.askedIn request <;> rfl
  confirmed_told := h.confirmed_told
  confirmed_reset {email} _ he hne := by
    have hemail : new.email = email := by
      have hfield := h.field .email (by decide)
      rwa [UserField.askedIn, he] at hfield
    exact absurd hemail.symm hne
  confirmed_kept _ _ := rfl

end Amended

/-! ## The tables -/

/-- The request sets an email that breaks the rule. -/
def SetsEmailAgainst (request : UserUpdate) (rule : BrokenRule) : Prop :=
  ∃ email, request.email = .set email ∧ brokenByEmail? email = some rule

theorem brokenByEdit?_iff {request : UserUpdate} {rule : BrokenRule} :
    brokenByEdit? request.email = some rule ↔ SetsEmailAgainst request rule := by
  rw [SetsEmailAgainst]
  cases request.email with
  | keep => simp [brokenByEdit?]
  | clear => simp [brokenByEdit?]
  | set email => simp [brokenByEdit?]

/-- What an action does on these tables that updates the user with this id as the request asks. -/
structure UpdateEffect (update : Action User) (id : String) (request : UserUpdate) (t : Tables) : Prop where
  ruleBroken_iff {text : String} : (update.eval t).1 = .error (.ruleBroken text) ↔
    ∃ rule, SetsEmailAgainst request rule ∧ text = rule.message
  notFound_iff {what : String} : (update.eval t).1 = .error (.notFound what) ↔
    (∀ rule, ¬ SetsEmailAgainst request rule) ∧ id ∉ t.users ∧ what = userNamed id
  /-- These two are all the refusals, and with both everything stays as it is. -/
  refused {e : ServiceError} : (update.eval t).1 = .error e →
    ((∃ text, e = .ruleBroken text) ∨ ∃ what, e = .notFound what) ∧ (update.eval t).2 = t
  /-- The user that the action yields is the row that stands in the table afterwards. -/
  granted {new : User} : (update.eval t).1 = .ok new →
    ∃ old, t.users[id]? = some old ∧ Amended request old new ∧ (update.eval t).2.users[id]? = some new
  others {other : String} : other ≠ id → (update.eval t).2.users[other]? = t.users[other]?
  credentials : (update.eval t).2.credentials = t.credentials
  tokens : (update.eval t).2.tokens = t.tokens
  /-- To ask a second time changes nothing and yields the same. -/
  repeated : update.eval (update.eval t).2 = update.eval t

section Effect
variable {update : Action User} {id : String} {request : UserUpdate} {t : Tables}

/-- The effect of a refusal, if it is one of the two that the update deserves. -/
theorem updateEffect_of_error {e : ServiceError} (heval : update.eval t = (.error e, t))
    (hrule : ∀ text, e = .ruleBroken text ↔ ∃ rule, SetsEmailAgainst request rule ∧ text = rule.message)
    (habsent : ∀ what, e = .notFound what ↔
      (∀ rule, ¬ SetsEmailAgainst request rule) ∧ id ∉ t.users ∧ what = userNamed id)
    (hkind : (∃ text, e = .ruleBroken text) ∨ ∃ what, e = .notFound what) :
    UpdateEffect update id request t where
  ruleBroken_iff {text} := by
    rw [heval, ← hrule text]
    exact ⟨Except.error.inj, congrArg Except.error⟩
  notFound_iff {what} := by
    rw [heval, ← habsent what]
    exact ⟨Except.error.inj, congrArg Except.error⟩
  refused he := by
    rw [heval] at he ⊢
    exact ⟨Except.error.inj he ▸ hkind, rfl⟩
  granted hnew := by
    rw [heval] at hnew
    cases hnew
  others _ := by rw [heval]
  credentials := by rw [heval]
  tokens := by rw [heval]
  repeated := by rw [heval, heval]

/-- The effect of a new row, if the second time the same row is put. -/
theorem updateEffect_of_row {old new : User} (hno : ∀ rule, ¬ SetsEmailAgainst request rule)
    (hu : t.users[id]? = some old) (hamended : Amended request old new)
    (heval : update.eval t = (.ok new, { t with users := t.users.insert id new }))
    (hagain : update.eval { t with users := t.users.insert id new } = update.eval t) :
    UpdateEffect update id request t where
  ruleBroken_iff {text} := by
    rw [heval]
    exact ⟨nofun, fun ⟨rule, hsets, _⟩ => absurd hsets (hno rule)⟩
  notFound_iff {what} := by
    rw [heval]
    exact ⟨nofun, fun ⟨_, hn, _⟩ => absurd (mem_of_lookup hu) hn⟩
  refused he := by
    rw [heval] at he
    cases he
  granted hnew := by
    rw [heval] at hnew ⊢
    cases hnew
    exact ⟨old, hu, hamended, by rw [lookup_insert, if_pos rfl]⟩
  others hne := by rw [heval, lookup_insert, if_neg hne.symm]
  credentials := by rw [heval]
  tokens := by rw [heval]
  repeated := by
    have htables : (update.eval t).2 = { t with users := t.users.insert id new } := by rw [heval]
    rw [htables, hagain]

end Effect

theorem insert_again (t : Tables) (id : String) (row : User) :
    { t with users := (t.users.insert id row).insert id row } = { t with users := t.users.insert id row } := by
  refine Tables.ext_rowsOf fun other => ?_
  simp only [Tables.rowsOf, lookup_insert]
  split <;> rfl

theorem updateUser_again {t : Tables} {id : String} {request : UserUpdate} {old : User}
    (hb : brokenByEdit? request.email = none) (hu : t.users[id]? = some old) :
    (updateUser id request).eval
        { t with users := t.users.insert id (old.apply (settledFor old request.changes)) } =
      (updateUser id request).eval t := by
  have hamended : Amended request old (old.apply (settledFor old request.changes)) :=
    amended_apply old request
  have heval := updateUser_of_row hb hu
  generalize old.apply (settledFor old request.changes) = new at hamended heval ⊢
  have hnew : (t.users.insert id new)[id]? = some new := by rw [lookup_insert, if_pos rfl]
  have hsame : new.apply (settledFor new request.changes) = new :=
    (amended_apply new request).unique hamended.again
  rw [heval, updateUser_of_row hb hnew, hsame, insert_again]

theorem updateUser_effect (t : Tables) (id : String) (request : UserUpdate) :
    UpdateEffect (updateUser id request) id request t := by
  cases hb : brokenByEdit? request.email with
  | some rule =>
    have hsets : SetsEmailAgainst request rule := brokenByEdit?_iff.mp hb
    refine updateEffect_of_error (updateUser_of_rule hb) (fun text => ?_) (fun what => ?_) (.inl ⟨_, rfl⟩)
    · constructor
      · intro he
        exact ⟨rule, hsets, (ServiceError.ruleBroken.inj he).symm⟩
      · rintro ⟨other, hother, rfl⟩
        have hsame : some rule = some other := hb.symm.trans (brokenByEdit?_iff.mpr hother)
        rw [Option.some.inj hsame]
        rfl
    · exact ⟨nofun, fun hno => absurd hsets (hno.1 rule)⟩
  | none =>
    have hno : ∀ rule, ¬ SetsEmailAgainst request rule := by
      intro rule hsets
      rw [brokenByEdit?_iff.mpr hsets] at hb
      cases hb
    by_cases hm : id ∈ t.users
    · obtain ⟨old, hu⟩ := exists_lookup_of_mem hm
      exact updateEffect_of_row hno hu (amended_apply old request) (updateUser_of_row hb hu)
        (updateUser_again hb hu)
    · refine updateEffect_of_error (updateUser_of_absent hb hm) (fun text => ?_) (fun what => ?_)
        (.inr ⟨_, rfl⟩)
      · exact ⟨nofun, fun ⟨rule, hsets, _⟩ => absurd hsets (hno rule)⟩
      · constructor
        · intro he
          exact ⟨hno, hm, (ServiceError.notFound.inj he).symm⟩
        · rintro ⟨-, -, rfl⟩
          rfl

/-- What updates do, on any tables and to any user: those of trusted callers, and those of players, which
are updates of the email alone. -/
theorem updates_change_one_row (t : Tables) (id : String) :
    (∀ request, UpdateEffect (updateUser id request) id request t) ∧
      ∀ edit, UpdateEffect (updateProfile id edit) id { UserUpdate.none with email := edit.email } t :=
  ⟨updateUser_effect t id, fun edit => updateUser_effect t id edit.update⟩

end PlayerAccounts.Service
