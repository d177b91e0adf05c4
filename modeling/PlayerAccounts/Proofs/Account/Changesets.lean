import PlayerAccounts.Account.User
/-!
# Changesets one after the other

A user has seven fields that can be changed, and a changeset carries new contents for some of them: those
that its request asks for. What a changeset does to a user is told field by field: the field has what is
carried, or what it had. So of many changesets the last one that carries a field decides, and one changeset
can do what all of them do.
-/
namespace PlayerAccounts.Account
set_option autoImplicit false

open PlayerAccounts.Time (Instant)

/-! ## Fields -/

/-- A field of a user that can be changed. -/
inductive UserField where
  | email
  | emailConfirmed
  | active
  | crystals
  | doubleCrystals
  | experience
  | premium
deriving DecidableEq, Repr

namespace UserField

abbrev Content : UserField → Type
  | email => Option String
  | emailConfirmed => Bool
  | active => Instant
  | crystals | experience => Int32
  | doubleCrystals | premium => Option Instant

/-- The content of the field in a user's row. -/
def of (u : User) : (f : UserField) → f.Content
  | email => u.email
  | emailConfirmed => u.emailConfirmed
  | active => u.active
  | crystals => u.crystals
  | doubleCrystals => u.doubleCrystals
  | experience => u.experience
  | premium => u.premium

/-- The content that a changeset carries for the field, if it carries one. -/
def carriedBy (c : Changes) : (f : UserField) → Option f.Content
  | email => c.email.target?
  | emailConfirmed => c.emailConfirmed
  | active => c.active
  | crystals => c.crystals
  | doubleCrystals => c.doubleCrystals.target?
  | experience => c.experience
  | premium => c.premium.target?

/-- The content that a request asks for in the field, if it asks for one. -/
def askedIn (r : UserUpdate) : (f : UserField) → Option f.Content
  | email => r.email.target?
  | emailConfirmed => r.emailConfirmed
  | active => r.active
  | crystals => r.crystals
  | doubleCrystals => r.doubleCrystals.target?
  | experience => r.experience
  | premium => r.premium.target?

end UserField

open UserField

section Edit
variable {α : Type}

theorem Edit.apply_eq_getD (e : Edit α) (old : Option α) : e.apply old = e.target?.getD old := by
  cases e <;> rfl

theorem Edit.target?_inj {e e' : Edit α} (h : e.target? = e'.target?) : e = e' := by
  cases e <;> cases e' <;> simp_all [Edit.target?]

theorem Edit.target?_andThen (first second : Edit α) :
    (first.andThen second).target? = second.target?.or first.target? := by
  cases second <;> rfl

end Edit

/-- What is asked for in a field is carried for this field, and nothing else is. -/
theorem carriedBy_changes (r : UserUpdate) (f : UserField) : f.carriedBy r.changes = f.askedIn r := by
  cases f <;> rfl

/-- A changed field has what is carried for it, and otherwise what it had. -/
theorem of_apply (u : User) (c : Changes) (f : UserField) :
    f.of (u.apply c) = (f.carriedBy c).getD (f.of u) := by
  cases f with
  | email => exact c.email.apply_eq_getD u.email
  | doubleCrystals => exact c.doubleCrystals.apply_eq_getD u.doubleCrystals
  | premium => exact c.premium.apply_eq_getD u.premium
  | _ => rfl

theorem User.ext_fields {u v : User} (hid : u.id = v.id) (hregistered : u.registered = v.registered)
    (hfields : ∀ f : UserField, f.of u = f.of v) : u = v := by
  have hemail : u.email = v.email := hfields .email
  have hconfirmed : u.emailConfirmed = v.emailConfirmed := hfields .emailConfirmed
  have hactive : u.active = v.active := hfields .active
  have hcrystals : u.crystals = v.crystals := hfields .crystals
  have hdouble : u.doubleCrystals = v.doubleCrystals := hfields .doubleCrystals
  have hexperience : u.experience = v.experience := hfields .experience
  have hpremium : u.premium = v.premium := hfields .premium
  cases u
  cases v
  simp_all

theorem Changes.ext_carriedBy {c d : Changes} (h : ∀ f : UserField, f.carriedBy c = f.carriedBy d) :
    c = d := by
  have hemail : c.email = d.email := Edit.target?_inj (h .email)
  have hconfirmed : c.emailConfirmed = d.emailConfirmed := h .emailConfirmed
  have hactive : c.active = d.active := h .active
  have hcrystals : c.crystals = d.crystals := h .crystals
  have hdouble : c.doubleCrystals = d.doubleCrystals := Edit.target?_inj (h .doubleCrystals)
  have hexperience : c.experience = d.experience := h .experience
  have hpremium : c.premium = d.premium := Edit.target?_inj (h .premium)
  cases c
  cases d
  simp_all

/-! ## Many changesets -/

/-- The user after changesets that are applied one after the other. -/
def User.applyAll (u : User) (cs : List Changes) : User := cs.foldl User.apply u

/-- Both changesets in one; what the second one carries counts. -/
def Changes.andThen (first second : Changes) : Changes where
  email := first.email.andThen second.email
  emailConfirmed := second.emailConfirmed.or first.emailConfirmed
  active := second.active.or first.active
  crystals := second.crystals.or first.crystals
  doubleCrystals := first.doubleCrystals.andThen second.doubleCrystals
  experience := second.experience.or first.experience
  premium := first.premium.andThen second.premium

/-- All changesets in one; what a later one carries counts. -/
def Changes.merged (cs : List Changes) : Changes := cs.foldl Changes.andThen Changes.none

/-- The last of the changesets that carries the field carries this content. -/
def UserField.LastCarriedBy (f : UserField) (cs : List Changes) (content : f.Content) : Prop :=
  ∃ before c after, cs = before ++ c :: after ∧ f.carriedBy c = some content ∧
    ∀ later ∈ after, f.carriedBy later = none

/-- The last of the requests that asks for something in the field asks for this content. -/
def UserField.LastAskedIn (f : UserField) (rs : List UserUpdate) (content : f.Content) : Prop :=
  ∃ before r after, rs = before ++ r :: after ∧ f.askedIn r = some content ∧
    ∀ later ∈ after, f.askedIn later = none

theorem lastCarriedBy_changes {f : UserField} {rs : List UserUpdate} {content : f.Content} :
    f.LastCarriedBy (rs.map UserUpdate.changes) content ↔ f.LastAskedIn rs content := by
  constructor
  · rintro ⟨before, c, after, hsplit, hc, hlater⟩
    obtain ⟨before, behind, rfl, rfl, hbehind⟩ := List.map_eq_append_iff.mp hsplit
    obtain ⟨r, after, rfl, rfl, rfl⟩ := List.map_eq_cons_iff.mp hbehind
    refine ⟨before, r, after, rfl, (carriedBy_changes r f).symm.trans hc, fun later hl => ?_⟩
    exact (carriedBy_changes later f).symm.trans (hlater _ (List.mem_map_of_mem hl))
  · rintro ⟨before, r, after, rfl, hr, hlater⟩
    refine ⟨before.map UserUpdate.changes, r.changes, after.map UserUpdate.changes, ?_, ?_, ?_⟩
    · rw [List.map_append, List.map_cons]
    · exact (carriedBy_changes r f).trans hr
    · simp only [List.forall_mem_map, carriedBy_changes]
      exact hlater

theorem carriedBy_none (f : UserField) : f.carriedBy Changes.none = none := by
  cases f <;> rfl

theorem carriedBy_andThen (first second : Changes) (f : UserField) :
    f.carriedBy (first.andThen second) = (f.carriedBy second).or (f.carriedBy first) := by
  cases f with
  | email => exact first.email.target?_andThen second.email
  | doubleCrystals => exact first.doubleCrystals.target?_andThen second.doubleCrystals
  | premium => exact first.premium.target?_andThen second.premium
  | _ => rfl

theorem User.apply_andThen (u : User) (first second : Changes) :
    u.apply (first.andThen second) = (u.apply first).apply second := by
  refine User.ext_fields rfl rfl fun f => ?_
  rw [of_apply, of_apply, of_apply, carriedBy_andThen]
  cases f.carriedBy second <;> rfl

theorem User.apply_none (u : User) : u.apply Changes.none = u := by
  refine User.ext_fields rfl rfl fun f => ?_
  rw [of_apply, carriedBy_none, Option.getD_none]

theorem User.apply_foldl_andThen (u : User) (c : Changes) (cs : List Changes) :
    u.apply (cs.foldl Changes.andThen c) = (u.apply c).applyAll cs := by
  induction cs generalizing c with
  | nil => rfl
  | cons d cs ih => exact (ih (c.andThen d)).trans (congrArg (·.applyAll cs) (u.apply_andThen c d))

theorem User.apply_merged (u : User) (cs : List Changes) : u.apply (Changes.merged cs) = u.applyAll cs := by
  rw [Changes.merged, u.apply_foldl_andThen, u.apply_none]

section Last
variable {f : UserField} {cs : List Changes}

theorem carriedBy_foldl_andThen (c : Changes) (hnone : ∀ later ∈ cs, f.carriedBy later = none) :
    f.carriedBy (cs.foldl Changes.andThen c) = f.carriedBy c := by
  induction cs generalizing c with
  | nil => rfl
  | cons d cs ih =>
    have hd : f.carriedBy d = none := hnone d List.mem_cons_self
    rw [List.foldl_cons, ih (c.andThen d) fun later hl => hnone later (List.mem_cons_of_mem d hl),
      carriedBy_andThen, hd, Option.none_or]

theorem carriedBy_merged_of_none (hnone : ∀ c ∈ cs, f.carriedBy c = none) :
    f.carriedBy (Changes.merged cs) = none := by
  rw [Changes.merged, carriedBy_foldl_andThen _ hnone, carriedBy_none]

theorem carriedBy_merged_of_last {content : f.Content} (h : f.LastCarriedBy cs content) :
    f.carriedBy (Changes.merged cs) = some content := by
  obtain ⟨before, c, after, rfl, hc, hnone⟩ := h
  rw [Changes.merged, List.foldl_append, List.foldl_cons, carriedBy_foldl_andThen _ hnone, carriedBy_andThen,
    hc, Option.some_or]

theorem carriedBy_none_or_last (f : UserField) (cs : List Changes) :
    (∀ c ∈ cs, f.carriedBy c = none) ∨ ∃ content, f.LastCarriedBy cs content := by
  induction cs with
  | nil => exact .inl fun c hc => nomatch hc
  | cons c cs ih =>
    rcases ih with hnone | ⟨content, before, d, after, rfl, hd, hlater⟩
    · cases hc : f.carriedBy c with
      | none => exact .inl (List.forall_mem_cons.mpr ⟨hc, hnone⟩)
      | some content => exact .inr ⟨content, [], c, cs, rfl, hc, hnone⟩
    · exact .inr ⟨content, c :: before, d, after, rfl, hd, hlater⟩

/-- What all changesets in one carry is what the last one carries that carries the field. -/
theorem carriedBy_merged_iff {content : f.Content} :
    f.carriedBy (Changes.merged cs) = some content ↔ f.LastCarriedBy cs content := by
  refine ⟨fun h => ?_, carriedBy_merged_of_last⟩
  rcases carriedBy_none_or_last f cs with hnone | ⟨last, hlast⟩
  · rw [carriedBy_merged_of_none hnone] at h
    cases h
  · have hsame : some last = some content := (carriedBy_merged_of_last hlast).symm.trans h
    exact Option.some.inj hsame ▸ hlast

theorem of_applyAll (u : User) (cs : List Changes) (f : UserField) :
    f.of (u.applyAll cs) = (f.carriedBy (Changes.merged cs)).getD (f.of u) := by
  rw [← u.apply_merged, of_apply]

end Last

/-! ## Requests one after the other -/

/-- What becomes of a user under requests that are carried out one after the other. -/
structure Overwritten (u : User) (rs : List UserUpdate) (v : User) : Prop where
  id : v.id = u.id
  registered : v.registered = u.registered
  /-- The last request that asks for something in a field decides, which may be that there is no content. -/
  last {f : UserField} {content : f.Content} : f.LastAskedIn rs content → f.of v = content
  /-- A field in which no request asks for anything stays. -/
  kept {f : UserField} : (∀ r ∈ rs, f.askedIn r = none) → f.of v = f.of u

theorem id_applyAll (u : User) (cs : List Changes) : (u.applyAll cs).id = u.id := by
  rw [← u.apply_merged]
  rfl

theorem registered_applyAll (u : User) (cs : List Changes) : (u.applyAll cs).registered = u.registered := by
  rw [← u.apply_merged]
  rfl

theorem overwritten_applyAll (u : User) (rs : List UserUpdate) :
    Overwritten u rs (u.applyAll (rs.map UserUpdate.changes)) where
  id := id_applyAll u _
  registered := registered_applyAll u _
  last h := by rw [of_applyAll, carriedBy_merged_of_last (lastCarriedBy_changes.mpr h), Option.getD_some]
  kept {f} h := by
    have hnone : ∀ c ∈ rs.map UserUpdate.changes, f.carriedBy c = none := by
      simpa only [List.forall_mem_map, carriedBy_changes] using h
    rw [of_applyAll, carriedBy_merged_of_none hnone, Option.getD_none]

/-! ## Changesets that change nothing -/

theorem isEmpty_iff_carriedBy {c : Changes} :
    c.isEmpty = true ↔ ∀ f : UserField, f.carriedBy c = none := by
  refine ⟨fun h f => ?_, fun h => ?_⟩
  · rw [beq_iff_eq.mp h, carriedBy_none]
  · have hnone : c = Changes.none := Changes.ext_carriedBy fun f => (h f).trans (carriedBy_none f).symm
    exact beq_iff_eq.mpr hnone

/-- The empty changesets are those of requests for nothing. -/
theorem isEmpty_changes_iff {r : UserUpdate} : r.changes.isEmpty = true ↔ r.isEmpty = true := by
  rw [Changes.isEmpty, UserUpdate.isEmpty, beq_iff_eq, beq_iff_eq]
  refine ⟨fun h => ?_, fun h => by rw [h]; rfl⟩
  cases r
  cases h
  rfl

/-- No content of any field is the one that every user has. -/
theorem exists_users_apart : ∃ u v : User, ∀ f : UserField, f.of u ≠ f.of v :=
  let later : Instant := ⟨1, 0, by decide, by decide, by decide, by decide⟩
  ⟨User.fresh "" default none, ⟨"", some "", true, default, later, 1, some later, 1, some later⟩,
    fun f => by cases f <;> decide⟩

/-- The empty changesets are those that leave every user as it is. -/
theorem isEmpty_iff_apply {c : Changes} : c.isEmpty = true ↔ ∀ u : User, u.apply c = u := by
  refine ⟨fun h u => ?_, fun h => isEmpty_iff_carriedBy.mpr fun f => ?_⟩
  · rw [beq_iff_eq.mp h, u.apply_none]
  · cases hc : f.carriedBy c with
    | none => rfl
    | some content =>
      -- A carried content would be the field's in all users.
      have hall : ∀ u : User, f.of u = content := by
        intro u
        rw [← h u, of_apply, hc, Option.getD_some]
      obtain ⟨u, v, hne⟩ := exists_users_apart
      exact absurd ((hall u).trans (hall v).symm) (hne f)

end PlayerAccounts.Account
