import Mathlib.Logic.Basic
import PlayerAccounts.Store.Tables
/-!
# Rows of the tables

Rows are looked up by the id of the user. Here is what a look-up finds after a row has been put into a
table or taken out of it, and what all three tables together hold of one user.
-/
namespace PlayerAccounts.Store
set_option autoImplicit false

open PlayerAccounts.Account

/-! ## One table -/

section Table
variable {α : Type}

@[simp] theorem lookup_insert (rows : Table α) (id other : String) (row : α) :
    (rows.insert id row)[other]? = if id = other then some row else rows[other]? := by
  simp only [Std.ExtTreeMap.getElem?_insert, Std.LawfulEqCmp.compare_eq_iff_eq]

@[simp] theorem lookup_erase (rows : Table α) (id other : String) :
    (rows.erase id)[other]? = if id = other then none else rows[other]? := by
  simp only [Std.ExtTreeMap.getElem?_erase, Std.LawfulEqCmp.compare_eq_iff_eq]

theorem mem_of_lookup {rows : Table α} {id : String} {row : α} (h : rows[id]? = some row) :
    id ∈ rows := by
  rw [Std.ExtTreeMap.mem_iff_isSome_getElem?, h]
  rfl

theorem exists_lookup_of_mem {rows : Table α} {id : String} (h : id ∈ rows) :
    ∃ row, rows[id]? = some row := by
  rw [Std.ExtTreeMap.mem_iff_isSome_getElem?] at h
  exact Option.isSome_iff_exists.mp h

theorem lookup_of_not_mem {rows : Table α} {id : String} (h : id ∉ rows) : rows[id]? = none :=
  Std.ExtTreeMap.getElem?_eq_none h

theorem not_mem_of_lookup {rows : Table α} {id : String} (h : rows[id]? = none) : id ∉ rows := by
  rw [Std.ExtTreeMap.mem_iff_isSome_getElem?, h]
  exact Bool.false_ne_true

theorem values_eq_map (rows : Table α) : rows.values = rows.toList.map Prod.snd := by
  have h : rows.values = rows.foldr (fun _ row found => row :: found) [] := by
    obtain ⟨⟨rows⟩⟩ := rows
    induction rows using Quotient.ind with
    | _ rows => rfl
  rw [h, Std.ExtTreeMap.foldr_eq_foldr_toList]
  induction rows.toList with
  | nil => rfl
  | cons row found ih => rw [List.foldr_cons, ih, List.map_cons]

theorem mem_values {rows : Table α} {row : α} :
    row ∈ rows.values ↔ ∃ id : String, rows[id]? = some row := by
  rw [values_eq_map]
  simp only [List.mem_map, Prod.exists, Std.ExtTreeMap.mem_toList_iff_getElem?_eq_some, exists_eq_right]

/-- Whether a scan finds a row that has this key but belongs to another user. -/
theorem any_other_iff {rows : Table α} {idOf keyOf : α → String}
    (hid : ∀ {id : String} {row : α}, rows[id]? = some row → idOf row = id) (id key : String) :
    (rows.values.any fun row => keyOf row == key && idOf row != id) = true ↔
      ¬ ∀ {other : String} {row : α}, rows[other]? = some row → keyOf row = key → id = other := by
  rw [List.any_eq_true]
  constructor
  · rintro ⟨row, hr, hp⟩ hfree
    obtain ⟨other, ho⟩ := mem_values.mp hr
    simp only [Bool.and_eq_true, beq_iff_eq, bne_iff_ne] at hp
    exact hp.2 ((hid ho).trans (hfree ho hp.1).symm)
  · intro hn
    simp only [not_forall] at hn
    obtain ⟨other, row, ho, hk, hne⟩ := hn
    refine ⟨row, mem_values.mpr ⟨other, ho⟩, ?_⟩
    have hne : idOf row ≠ id := fun he => hne (he.symm.trans (hid ho))
    simp [hk, hne]

end Table

/-! ## Scans -/

section Scan
variable {α : Type} {p : α → Bool} {rows found : List α}

/-- A scan for something that only one row has finds that row. -/
theorem find?_of_unique {row : α} (hm : row ∈ rows) (hp : p row = true)
    (hu : ∀ other ∈ rows, p other = true → other = row) : rows.find? p = some row := by
  cases hf : rows.find? p with
  | none => exact absurd hp (List.find?_eq_none.mp hf row hm)
  | some other => rw [hu other (List.mem_of_find?_eq_some hf) (List.find?_some hf)]

/-- A scan for something that no two rows have finds the same in every order of the rows. -/
theorem find?_of_perm (ho : found.Perm rows)
    (hu : ∀ row ∈ rows, ∀ other ∈ rows, p row = true → p other = true → other = row) :
    found.find? p = rows.find? p := by
  cases hf : rows.find? p with
  | none =>
    rw [List.find?_eq_none] at hf ⊢
    intro row hm
    exact hf row (ho.mem_iff.mp hm)
  | some row =>
    have hm : row ∈ rows := List.mem_of_find?_eq_some hf
    have hp : p row = true := List.find?_some hf
    apply find?_of_unique (ho.mem_iff.mpr hm) hp
    intro other hother hq
    exact hu row hm other (ho.mem_iff.mp hother) hp hq

end Scan

/-! ## The rows of a user -/

/-- All that the tables hold under the id of one user. -/
structure Rows where
  user : Option User
  credential : Option Credential
  token : Option SessionToken
deriving DecidableEq

namespace Tables

/-- The rows of a user. -/
def rowsOf (t : Tables) (id : String) : Rows := ⟨t.users[id]?, t.credentials[id]?, t.tokens[id]?⟩

/-- Tables that hold the same of every user are the same. -/
theorem ext_rowsOf {t t' : Tables} (h : ∀ id, t'.rowsOf id = t.rowsOf id) : t' = t := by
  have husers : t'.users = t.users :=
    Std.ExtTreeMap.ext_getElem? fun id => congrArg Rows.user (h id)
  have hcredentials : t'.credentials = t.credentials :=
    Std.ExtTreeMap.ext_getElem? fun id => congrArg Rows.credential (h id)
  have htokens : t'.tokens = t.tokens :=
    Std.ExtTreeMap.ext_getElem? fun id => congrArg Rows.token (h id)
  cases t'
  cases t
  cases husers
  cases hcredentials
  cases htokens
  rfl

/-! ## Putting rows into the tables -/

/-- The tables with this user in them. -/
def putUser (t : Tables) (user : User) : Tables := { t with users := t.users.insert user.id user }

/-- The tables with this credential in them. -/
def putCredential (t : Tables) (c : Credential) : Tables :=
  { t with credentials := t.credentials.insert c.userId c }

/-- The tables with this session token in them. -/
def putToken (t : Tables) (row : SessionToken) : Tables :=
  { t with tokens := t.tokens.insert row.userId row }

/-- The tables without the rows of a user. -/
def without (t : Tables) (id : String) : Tables :=
  ⟨t.users.erase id, t.credentials.erase id, t.tokens.erase id⟩

section Put
variable (t : Tables) (user : User) (c : Credential) (row : SessionToken) (id other : String)

@[simp] theorem users_putUser :
    (t.putUser user).users[id]? = if user.id = id then some user else t.users[id]? := lookup_insert ..
@[simp] theorem mem_putUser : id ∈ (t.putUser user).users ↔ user.id = id ∨ id ∈ t.users := by
  rw [putUser, Std.ExtTreeMap.mem_insert, Std.LawfulEqCmp.compare_eq_iff_eq]
theorem mem_putUser_self (t : Tables) (user : User) : user.id ∈ (t.putUser user).users :=
  (mem_putUser ..).mpr (.inl rfl)
@[simp] theorem credentials_putUser : (t.putUser user).credentials = t.credentials := rfl
@[simp] theorem tokens_putUser : (t.putUser user).tokens = t.tokens := rfl

@[simp] theorem users_putCredential : (t.putCredential c).users = t.users := rfl
@[simp] theorem credentials_putCredential :
    (t.putCredential c).credentials[id]? = if c.userId = id then some c else t.credentials[id]? :=
  lookup_insert ..
@[simp] theorem tokens_putCredential : (t.putCredential c).tokens = t.tokens := rfl

@[simp] theorem users_putToken : (t.putToken row).users = t.users := rfl
@[simp] theorem credentials_putToken : (t.putToken row).credentials = t.credentials := rfl
@[simp] theorem tokens_putToken :
    (t.putToken row).tokens[id]? = if row.userId = id then some row else t.tokens[id]? :=
  lookup_insert ..

@[simp] theorem users_without :
    (t.without id).users[other]? = if id = other then none else t.users[other]? := lookup_erase ..
@[simp] theorem mem_without : other ∈ (t.without id).users ↔ id ≠ other ∧ other ∈ t.users := by
  rw [without, Std.ExtTreeMap.mem_erase, ne_eq, Std.LawfulEqCmp.compare_eq_iff_eq]
@[simp] theorem credentials_without :
    (t.without id).credentials[other]? = if id = other then none else t.credentials[other]? :=
  lookup_erase ..
@[simp] theorem tokens_without :
    (t.without id).tokens[other]? = if id = other then none else t.tokens[other]? := lookup_erase ..

@[simp] theorem users_revokeToken : (t.revokeToken id).users = t.users := rfl
@[simp] theorem credentials_revokeToken : (t.revokeToken id).credentials = t.credentials := rfl
@[simp] theorem tokens_revokeToken :
    (t.revokeToken id).tokens[other]? = if id = other then none else t.tokens[other]? := lookup_erase ..

theorem rowsOf_without : (t.without id).rowsOf id = ⟨none, none, none⟩ := by
  rw [rowsOf, users_without, credentials_without, tokens_without, if_pos rfl, if_pos rfl, if_pos rfl]

end Put

section OwnRows
variable {t : Tables} {rows : Rows}

theorem rowsOf_putUser (user : User) (h : t.rowsOf user.id = rows) :
    (t.putUser user).rowsOf user.id = ⟨some user, rows.credential, rows.token⟩ := by
  rw [rowsOf, users_putUser, if_pos rfl, ← h]
  rfl

theorem rowsOf_putCredential (c : Credential) (h : t.rowsOf c.userId = rows) :
    (t.putCredential c).rowsOf c.userId = ⟨rows.user, some c, rows.token⟩ := by
  rw [rowsOf, credentials_putCredential, if_pos rfl, ← h]
  rfl

theorem rowsOf_putToken (row : SessionToken) (h : t.rowsOf row.userId = rows) :
    (t.putToken row).rowsOf row.userId = ⟨rows.user, rows.credential, some row⟩ := by
  rw [rowsOf, tokens_putToken, if_pos rfl, ← h]
  rfl

end OwnRows

/-! ## Rows of other users -/

/-- The tables hold the same of all users but this one. -/
def SameButFor (id : String) (t t' : Tables) : Prop :=
  ∀ other, other ≠ id → t'.rowsOf other = t.rowsOf other

namespace SameButFor
variable {id : String} {t t' : Tables}

theorem refl (t : Tables) : SameButFor id t t := fun _ _ => rfl

theorem trans {t'' : Tables} (h : SameButFor id t t') (h' : SameButFor id t' t'') : SameButFor id t t'' :=
  fun other hne => (h' other hne).trans (h other hne)

theorem putUser (h : SameButFor id t t') {user : User} (hid : user.id = id) :
    SameButFor id t (t'.putUser user) := by
  intro other hne
  have hother : user.id ≠ other := fun he => hne (he.symm.trans hid)
  rw [← h other hne]
  simp [rowsOf, hother]

theorem putCredential (h : SameButFor id t t') {c : Credential} (hid : c.userId = id) :
    SameButFor id t (t'.putCredential c) := by
  intro other hne
  have hother : c.userId ≠ other := fun he => hne (he.symm.trans hid)
  rw [← h other hne]
  simp [rowsOf, hother]

theorem putToken (h : SameButFor id t t') {row : SessionToken} (hid : row.userId = id) :
    SameButFor id t (t'.putToken row) := by
  intro other hne
  have hother : row.userId ≠ other := fun he => hne (he.symm.trans hid)
  rw [← h other hne]
  simp [rowsOf, hother]

theorem revokeToken (h : SameButFor id t t') : SameButFor id t (t'.revokeToken id) := by
  intro other hne
  rw [← h other hne]
  simp [rowsOf, hne.symm]

theorem without (h : SameButFor id t t') : SameButFor id t (t'.without id) := by
  intro other hne
  rw [← h other hne]
  simp [rowsOf, hne.symm]

end SameButFor

end Tables
end PlayerAccounts.Store
