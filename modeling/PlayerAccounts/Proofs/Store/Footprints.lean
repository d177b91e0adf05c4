import Mathlib.Data.List.Basic
import PlayerAccounts.Proofs.Store.Writes
/-!
# Footprints

What a call to the store in memory can depend on or change: the users, logins and tokens it names, the
owners of those logins and tokens, and the login and the token that each of these users has. Calls whose
footprints have nothing in common can be made in either order.

What a user has belongs to the footprint because it can become free: whoever removes a user decides whether
the login can be had by another one.
-/
namespace PlayerAccounts.Store
set_option autoImplicit false

open PlayerAccounts.Account
open PlayerAccounts.Time (Instant)

/-! ## The footprint of a call -/

/-- Something that a call can touch. -/
inductive Mark where
  | user (id : String)
  | login (login : String)
  | token (token : String)
deriving DecidableEq, Repr

/-- What a call names. -/
def Call.named : Call → List Mark
  | .addUser user => [.user user.id]
  | .findUser id | .amendUser id _ | .removeUser id | .credentialOfUser id | .revokeToken id => [.user id]
  | .setCredential c => [.user c.userId, .login c.login]
  | .credentialOfLogin login => [.login login]
  | .issueToken id token _ => [.user id, .token token]
  | .useToken token _ => [.token token]

namespace Tables

/-- The user who is named, or the owner of what is named. -/
def usersOf (t : Tables) : Mark → List String
  | .user id => [id]
  | .login login => t.ownersOfLogin login
  | .token token => t.ownersOfToken token

/-- A user with the login and the token that the user has. -/
def heldBy (t : Tables) (id : String) : List Mark :=
  .user id :: ((t.credentials[id]?.map fun c => .login c.login).toList ++
    (t.tokens[id]?.map fun row => .token row.token).toList)

/-- The users whom a call involves. -/
def involved (t : Tables) (call : Call) : List String := call.named.flatMap t.usersOf

def footprint (t : Tables) (call : Call) : List Mark :=
  call.named ++ (t.involved call).flatMap t.heldBy

section Members
variable {t : Tables} {call : Call} {id : String}

theorem mem_footprint_of_named {mark : Mark} (h : mark ∈ call.named) : mark ∈ t.footprint call :=
  List.mem_append_left _ h

theorem user_mem_footprint (h : id ∈ t.involved call) : Mark.user id ∈ t.footprint call :=
  List.mem_append_right _ (List.mem_flatMap.mpr ⟨id, h, List.mem_cons_self⟩)

theorem login_mem_footprint (h : id ∈ t.involved call) {c : Credential} (hc : t.credentials[id]? = some c) :
    Mark.login c.login ∈ t.footprint call := by
  refine List.mem_append_right _ (List.mem_flatMap.mpr ⟨id, h, ?_⟩)
  simp [heldBy, hc]

theorem token_mem_footprint (h : id ∈ t.involved call) {row : SessionToken} (hr : t.tokens[id]? = some row) :
    Mark.token row.token ∈ t.footprint call := by
  refine List.mem_append_right _ (List.mem_flatMap.mpr ⟨id, h, ?_⟩)
  simp [heldBy, hr]

theorem involved_of_named (h : Mark.user id ∈ call.named) : id ∈ t.involved call :=
  List.mem_flatMap.mpr ⟨_, h, List.mem_singleton_self id⟩

theorem involved_of_login {c : Credential} (h : Mark.login c.login ∈ call.named)
    (hc : t.credentials[id]? = some c) : id ∈ t.involved call :=
  List.mem_flatMap.mpr ⟨_, h, mem_ownersOfLogin.mpr ⟨c, hc, rfl⟩⟩

theorem involved_of_token {row : SessionToken} (h : Mark.token row.token ∈ call.named)
    (hr : t.tokens[id]? = some row) : id ∈ t.involved call :=
  List.mem_flatMap.mpr ⟨_, h, mem_ownersOfToken.mpr ⟨row, hr, rfl⟩⟩

end Members

/-! ## What is written lies within the footprint -/

section Written
variable {t : Tables} {call : Call} {answer : Except StoreError call.Answer} {w : Write} {id : String}

theorem Done.involved (h : t.Sound) (hd : Done t call answer w) (ho : w.owner? = some id) :
    id ∈ t.involved call := by
  cases hd <;> cases ho
  case userAmended hu => exact involved_of_named ((h.user_id hu).symm ▸ List.mem_cons_self)
  case tokenUsed hr => exact involved_of_token List.mem_cons_self ((h.token_id hr).symm ▸ hr)
  all_goals exact involved_of_named List.mem_cons_self

/-- The login that somebody has after a call to whom it wrote. -/
theorem Done.login_written (h : t.Sound) (hd : Done t call answer w) (ho : w.owner? = some id)
    {c : Credential} (hc : (w.applyTo t).credentials[id]? = some c) :
    Mark.login c.login ∈ t.footprint call := by
  have hi : id ∈ t.involved call := hd.involved h ho
  have hrows := congrArg Rows.credential (w.rowsOf_applyTo t id)
  rw [if_pos ho] at hrows
  have hc : (w.onRows (t.rowsOf id)).credential = some c := hrows.symm.trans hc
  cases hd with
  | credentialSet hm hl =>
    cases hc
    exact mem_footprint_of_named (List.mem_cons_of_mem _ List.mem_cons_self)
  | userRemoved hm => cases hc
  | _ => exact login_mem_footprint hi hc

theorem Done.token_written (h : t.Sound) (hd : Done t call answer w) (ho : w.owner? = some id)
    {row : SessionToken} (hr : (w.applyTo t).tokens[id]? = some row) :
    Mark.token row.token ∈ t.footprint call := by
  have hi : id ∈ t.involved call := hd.involved h ho
  have hrows := congrArg Rows.token (w.rowsOf_applyTo t id)
  rw [if_pos ho] at hrows
  have hr : (w.onRows (t.rowsOf id)).token = some row := hrows.symm.trans hr
  cases hd with
  | tokenIssued hm hk =>
    cases hr
    exact mem_footprint_of_named (List.mem_cons_of_mem _ List.mem_cons_self)
  | tokenUsed hf =>
    cases hr
    exact mem_footprint_of_named List.mem_cons_self
  | userRemoved hm => cases hr
  | tokenRevoked => cases hr
  | _ => exact token_mem_footprint hi hr

end Written

/-! ## What a call comes to depends on its footprint only -/

/-- Nothing that a call can see has moved: those whom it involves have the same rows, and nobody else has
got a login or a token that it names. -/
structure Unmoved (call : Call) (t t' : Tables) : Prop where
  rows : ∀ id ∈ t.involved call, t'.rowsOf id = t.rowsOf id
  logins : ∀ {id : String} {c : Credential}, t'.credentials[id]? = some c →
    Mark.login c.login ∈ call.named → id ∈ t.involved call
  tokens : ∀ {id : String} {row : SessionToken}, t'.tokens[id]? = some row →
    Mark.token row.token ∈ call.named → id ∈ t.involved call

namespace Unmoved
variable {call : Call} {t t' : Tables} {id : String}

section Rows
variable (h : Unmoved call t t') (hi : id ∈ t.involved call)
include h hi

theorem user : t'.users[id]? = t.users[id]? := congrArg Rows.user (h.rows id hi)
theorem credential : t'.credentials[id]? = t.credentials[id]? := congrArg Rows.credential (h.rows id hi)
theorem token : t'.tokens[id]? = t.tokens[id]? := congrArg Rows.token (h.rows id hi)

theorem mem_users : id ∈ t'.users ↔ id ∈ t.users := by
  rw [Std.ExtTreeMap.mem_iff_isSome_getElem?, Std.ExtTreeMap.mem_iff_isSome_getElem?, h.user hi]

end Rows

theorem credential_iff (h : Unmoved call t t') {c : Credential} (hn : Mark.login c.login ∈ call.named) :
    t'.credentials[id]? = some c ↔ t.credentials[id]? = some c :=
  ⟨fun hc => h.credential (h.logins hc hn) ▸ hc, fun hc => h.credential (involved_of_login hn hc) ▸ hc⟩

theorem token_iff (h : Unmoved call t t') {row : SessionToken} (hn : Mark.token row.token ∈ call.named) :
    t'.tokens[id]? = some row ↔ t.tokens[id]? = some row :=
  ⟨fun hr => h.token (h.tokens hr hn) ▸ hr, fun hr => h.token (involved_of_token hn hr) ▸ hr⟩

variable {login token : String}

theorem forall_login_iff (h : Unmoved call t t') (hn : Mark.login login ∈ call.named) (p : String → Prop) :
    (∀ {other : String} {c : Credential}, t'.credentials[other]? = some c → c.login = login → p other) ↔
      ∀ {other : String} {c : Credential}, t.credentials[other]? = some c → c.login = login → p other := by
  constructor
  · rintro hall other c hc rfl
    exact hall ((h.credential_iff hn).mpr hc) rfl
  · rintro hall other c hc rfl
    exact hall ((h.credential_iff hn).mp hc) rfl

theorem forall_token_iff (h : Unmoved call t t') (hn : Mark.token token ∈ call.named) (p : String → Prop) :
    (∀ {other : String} {row : SessionToken}, t'.tokens[other]? = some row → row.token = token → p other) ↔
      ∀ {other : String} {row : SessionToken}, t.tokens[other]? = some row → row.token = token → p other := by
  constructor
  · rintro hall other row hr rfl
    exact hall ((h.token_iff hn).mpr hr) rfl
  · rintro hall other row hr rfl
    exact hall ((h.token_iff hn).mp hr) rfl

theorem loginFree_iff (h : Unmoved call t t') (hn : Mark.login login ∈ call.named) :
    t'.LoginFree login ↔ t.LoginFree login := h.forall_login_iff hn fun _ => False

theorem loginFreeFor_iff (h : Unmoved call t t') (hn : Mark.login login ∈ call.named) :
    t'.LoginFreeFor id login ↔ t.LoginFreeFor id login := h.forall_login_iff hn (id = ·)

theorem tokenFree_iff (h : Unmoved call t t') (hn : Mark.token token ∈ call.named) :
    t'.TokenFree token ↔ t.TokenFree token := h.forall_token_iff hn fun _ => False

theorem tokenFreeFor_iff (h : Unmoved call t t') (hn : Mark.token token ∈ call.named) :
    t'.TokenFreeFor id token ↔ t.TokenFreeFor id token := h.forall_token_iff hn (id = ·)

end Unmoved

theorem Done.of_unmoved {call : Call} {t t' : Tables} {answer : Except StoreError call.Answer} {w : Write}
    (hd : Done t call answer w) (h : Unmoved call t t') : Done t' call answer w := by
  have hself {id : String} (hn : Mark.user id ∈ call.named) : id ∈ t'.users ↔ id ∈ t.users :=
    h.mem_users (involved_of_named hn)
  have hrow {id : String} (hn : Mark.user id ∈ call.named) : t'.users[id]? = t.users[id]? :=
    h.user (involved_of_named hn)
  cases hd with
  | userAdded hn => exact .userAdded (mt (hself List.mem_cons_self).mp hn)
  | userKnown hm => exact .userKnown ((hself List.mem_cons_self).mpr hm)
  | userFound hu => exact .userFound ((hrow List.mem_cons_self).trans hu)
  | userMissing hn => exact .userMissing (mt (hself List.mem_cons_self).mp hn)
  | userAmended hu => exact .userAmended ((hrow List.mem_cons_self).trans hu)
  | noneAmended hn => exact .noneAmended (mt (hself List.mem_cons_self).mp hn)
  | userRemoved hm => exact .userRemoved ((hself List.mem_cons_self).mpr hm)
  | noneRemoved hn => exact .noneRemoved (mt (hself List.mem_cons_self).mp hn)
  | credentialSet hm hl =>
    exact .credentialSet ((hself List.mem_cons_self).mpr hm)
      ((h.loginFreeFor_iff (List.mem_cons_of_mem _ List.mem_cons_self)).mpr hl)
  | loginTaken hm hl =>
    exact .loginTaken ((hself List.mem_cons_self).mpr hm)
      (mt (h.loginFreeFor_iff (List.mem_cons_of_mem _ List.mem_cons_self)).mp hl)
  | credentialOfNobody hn => exact .credentialOfNobody (mt (hself List.mem_cons_self).mp hn)
  | loginFound hc => exact .loginFound ((h.credential_iff List.mem_cons_self).mpr hc)
  | loginMissing hl => exact .loginMissing ((h.loginFree_iff List.mem_cons_self).mpr hl)
  | credentialFound hc =>
    exact .credentialFound ((h.credential (involved_of_named List.mem_cons_self)).trans hc)
  | credentialMissing hn =>
    exact .credentialMissing ((h.credential (involved_of_named List.mem_cons_self)).trans hn)
  | tokenIssued hm hk =>
    exact .tokenIssued ((hself List.mem_cons_self).mpr hm)
      ((h.tokenFreeFor_iff (List.mem_cons_of_mem _ List.mem_cons_self)).mpr hk)
  | tokenTaken hm hk =>
    exact .tokenTaken ((hself List.mem_cons_self).mpr hm)
      (mt (h.tokenFreeFor_iff (List.mem_cons_of_mem _ List.mem_cons_self)).mp hk)
  | tokenOfNobody hn => exact .tokenOfNobody (mt (hself List.mem_cons_self).mp hn)
  | tokenUsed hr => exact .tokenUsed ((h.token_iff List.mem_cons_self).mpr hr)
  | tokenMissing hk => exact .tokenMissing ((h.tokenFree_iff List.mem_cons_self).mpr hk)
  | tokenRevoked => exact .tokenRevoked

/-! ## Two calls -/

section Apart
variable {t : Tables} {a b : Call} {answer : Except StoreError a.Answer} {w : Write}

theorem not_involved_of_apart (hapart : (t.footprint a).Disjoint (t.footprint b)) {id : String}
    (ha : id ∈ t.involved a) : id ∉ t.involved b := fun hb =>
  hapart (user_mem_footprint ha) (user_mem_footprint hb)

/-- A call moves nothing that a call apart from it can see. -/
theorem Done.unmoved (h : t.Sound) (hd : Done t a answer w)
    (hapart : (t.footprint a).Disjoint (t.footprint b)) : Unmoved b t (w.applyTo t) where
  rows id hi := by
    have ho : w.owner? ≠ some id := fun ho => not_involved_of_apart hapart (hd.involved h ho) hi
    rw [w.rowsOf_applyTo, if_neg ho]
  logins {id c} hc hn := by
    -- The login is nobody's to whom the first call has written: it is named by the second one.
    by_cases ho : w.owner? = some id
    · exact absurd (mem_footprint_of_named hn) (hapart (hd.login_written h ho hc))
    · have hrows := congrArg Rows.credential (w.rowsOf_applyTo t id)
      rw [if_neg ho] at hrows
      exact involved_of_login hn (hrows.symm.trans hc)
  tokens {id row} hr hn := by
    by_cases ho : w.owner? = some id
    · exact absurd (mem_footprint_of_named hn) (hapart (hd.token_written h ho hr))
    · have hrows := congrArg Rows.token (w.rowsOf_applyTo t id)
      rw [if_neg ho] at hrows
      exact involved_of_token hn (hrows.symm.trans hr)

/-- The second of two calls that are apart comes to what it would come to without the first. -/
theorem Sound.answer_apart (h : t.Sound) (hapart : (t.footprint a).Disjoint (t.footprint b))
    {answer' : Except StoreError b.Answer} {w' : Write} (ha : Done t a answer w) (hb : Done t b answer' w') :
    (t.answer a).2.answer b = (answer', w'.applyTo (w.applyTo t)) := by
  rw [h.answer_of_done ha]
  exact (h.applyTo_of_done ha).answer_of_done (hb.of_unmoved (ha.unmoved h hapart))

end Apart

end Tables

/-! ## The result -/

/-- After any calls, two calls with nothing in common come to the same in either order, and leave the same
tables. -/
theorem unrelated_calls_commute (before : List Call) {a b : Call} :
    let t := Tables.empty.after before
    (t.footprint a).Disjoint (t.footprint b) →
      ((t.answer a).2.answer b).1 = (t.answer b).1 ∧ ((t.answer b).2.answer a).1 = (t.answer a).1 ∧
        ((t.answer a).2.answer b).2 = ((t.answer b).2.answer a).2 := by
  intro t hapart
  have h : t.Sound := Tables.Sound.empty.after before
  obtain ⟨answer, w, ha⟩ := t.exists_done a
  obtain ⟨answer', w', hb⟩ := t.exists_done b
  have hlast := h.answer_apart hapart ha hb
  have hfirst := h.answer_apart (List.disjoint_symm hapart) hb ha
  have howners : ∀ id, w.owner? = some id → w'.owner? ≠ some id := fun id ho ho' =>
    Tables.not_involved_of_apart hapart (ha.involved h ho) (hb.involved h ho')
  rw [hlast, hfirst]
  refine ⟨?_, ?_, ?_⟩
  · rw [h.answer_of_done hb]
  · rw [h.answer_of_done ha]
  · exact Write.applyTo_comm howners t

/-- Ann and Bob, each with a login and a token. -/
def annAndBobAtHome : List Call :=
  [.addUser (User.fresh "ann" default none), .setCredential ⟨"ann", "Ann", "hash", "salt"⟩,
    .issueToken "ann" "A" default, .addUser (User.fresh "bob" default none),
    .setCredential ⟨"bob", "Bob", "hash", "salt"⟩, .issueToken "bob" "B" default]

/-- Ann goes while Bob takes another login. -/
theorem removal_and_new_login_commute :
    let t := Tables.empty.after annAndBobAtHome
    let a : Call := .removeUser "ann"
    let b : Call := .setCredential ⟨"bob", "Robert", "hash", "salt"⟩
    (t.footprint a).Disjoint (t.footprint b) ∧
      ((t.answer a).2.answer b).1 = (t.answer b).1 ∧ ((t.answer b).2.answer a).1 = (t.answer a).1 ∧
        ((t.answer a).2.answer b).2 = ((t.answer b).2.answer a).2 := by
  intro t a b
  have hapart : ∀ mark ∈ t.footprint a, mark ∉ t.footprint b := by
    subst t a b
    decide +kernel
  exact ⟨hapart, unrelated_calls_commute annAndBobAtHome hapart⟩

/-- The login that Ann gives up can be Bob's afterwards only. -/
example : let t := Tables.empty.after annAndBobAtHome
    let b : Call := .setCredential ⟨"bob", "Ann", "hash", "salt"⟩
    (t.answer b).1 ≠ ((t.answer (.removeUser "ann")).2.answer b).1 := by decide +kernel

end PlayerAccounts.Store
