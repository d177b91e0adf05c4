import PlayerAccounts.Time.Instant
/-!
# Users and changes to them

The row of a user, and changesets: partial updates that leave some fields as they are. A nullable field
can be kept, cleared or set. What callers ask to be updated becomes a changeset of the row.
-/
namespace PlayerAccounts.Account
set_option autoImplicit false

open PlayerAccounts.Time (Instant)

/-! ## Users -/

/-- An account's public data. -/
structure User where
  id : String
  email : Option String
  emailConfirmed : Bool
  registered : Instant
  active : Instant
  crystals : Int32
  /-- Crystals count double until this instant. -/
  doubleCrystals : Option Instant
  experience : Int32
  premium : Option Instant
deriving DecidableEq, Repr

/-- A user without balances who has been active since registration. -/
def User.fresh (id : String) (registered : Instant) (email : Option String) : User where
  id := id
  email := email
  emailConfirmed := false
  registered := registered
  active := registered
  crystals := 0
  doubleCrystals := none
  experience := 0
  premium := none

/-! ## Edits of a nullable field -/

/-- What becomes of a nullable field. -/
inductive Edit (α : Type) where
  | keep
  | clear
  | set (value : α)
deriving DecidableEq, Repr

namespace Edit

variable {α : Type}

instance : Inhabited (Edit α) := ⟨keep⟩

def apply : Edit α → Option α → Option α
  | keep, old => old
  | clear, _ => none
  | set value, _ => some value

/-- The new content of the field, if the edit has one. -/
def target? : Edit α → Option (Option α)
  | keep => none
  | clear => some none
  | set value => some (some value)

def ofOption : Option α → Edit α
  | none => clear
  | some value => set value

/-- The later of two edits, where it is one. -/
def andThen : Edit α → Edit α → Edit α
  | first, keep => first
  | _, second => second

theorem apply_andThen (first second : Edit α) (old : Option α) :
    (first.andThen second).apply old = second.apply (first.apply old) := by
  cases second <;> rfl

end Edit

/-! ## Changesets -/

structure Changes where
  email : Edit String
  emailConfirmed : Option Bool
  active : Option Instant
  crystals : Option Int32
  doubleCrystals : Edit Instant
  experience : Option Int32
  premium : Edit Instant
deriving DecidableEq, Repr

namespace Changes

def none : Changes := ⟨.keep, .none, .none, .none, .keep, .none, .keep⟩

instance : Inhabited Changes := ⟨none⟩

/-- The update that records activity. -/
def touch (now : Instant) : Changes := { none with active := some now }

def isEmpty (c : Changes) : Bool := c == none

end Changes

def User.apply (u : User) (c : Changes) : User :=
  { u with
    email := c.email.apply u.email
    emailConfirmed := c.emailConfirmed.getD u.emailConfirmed
    active := c.active.getD u.active
    crystals := c.crystals.getD u.crystals
    doubleCrystals := c.doubleCrystals.apply u.doubleCrystals
    experience := c.experience.getD u.experience
    premium := c.premium.apply u.premium }

/-! ## Requests for updates -/

/-- What a trusted caller asks to be updated of a user. -/
structure UserUpdate where
  email : Edit String
  emailConfirmed : Option Bool
  active : Option Instant
  crystals : Option Int32
  doubleCrystals : Edit Instant
  experience : Option Int32
  premium : Edit Instant
deriving DecidableEq, Repr

namespace UserUpdate

/-- The request for nothing. -/
def none : UserUpdate := ⟨.keep, .none, .none, .none, .keep, .none, .keep⟩

/-- The changeset of a request has each field from the field of the same name. -/
def changes (r : UserUpdate) : Changes where
  email := r.email
  emailConfirmed := r.emailConfirmed
  active := r.active
  crystals := r.crystals
  doubleCrystals := r.doubleCrystals
  experience := r.experience
  premium := r.premium

instance : Coe UserUpdate Changes := ⟨changes⟩

/-- Requests one after the other are their changesets one after the other. -/
instance : Coe (List UserUpdate) (List Changes) := ⟨List.map changes⟩

def isEmpty (r : UserUpdate) : Bool := r == none

end UserUpdate

/-- The part of an update that players may ask for on their own: the email. -/
structure ProfileEdit where
  email : Edit String
deriving DecidableEq, Repr, Inhabited

/-- The same as the request of a trusted caller. -/
def ProfileEdit.update (p : ProfileEdit) : UserUpdate := { UserUpdate.none with email := p.email }

end PlayerAccounts.Account
