import PlayerAccounts.Proofs.Account.Forms
import PlayerAccounts.Proofs.Service.Asking
import PlayerAccounts.Proofs.Sql.Database
import PlayerAccounts.Proofs.Store.Writes
import PlayerAccounts.Sql.Rows
/-!
# The form of stored rows

Ids, session tokens and salts are drawn, logins and emails have passed the rules, and a hash is stored
together with the salt it was made with. So whatever operations are performed, every stored text fits its
column. The calls of the operations are gone through once: what a call offers to write has the right form,
given that the tables have had it so far.
-/
namespace PlayerAccounts.Service
set_option autoImplicit false

open PlayerAccounts.Account
open PlayerAccounts.Store
open PlayerAccounts.Time (Instant)

/-! ## Rows -/

structure ProperUser (u : User) : Prop where
  id : isUserId u.id = true
  email : ∀ email ∈ u.email, IsEmail email

structure ProperCredential (c : Credential) : Prop where
  userId : isUserId c.userId = true
  login : IsLogin c.login
  salt : isSalt c.salt = true
  hash : IsHashWith c.salt c.hash

structure ProperToken (row : SessionToken) : Prop where
  userId : isUserId row.userId = true
  token : isToken row.token = true

structure ProperRows (rows : Rows) : Prop where
  user : ∀ u ∈ rows.user, ProperUser u
  credential : ∀ c ∈ rows.credential, ProperCredential c
  token : ∀ row ∈ rows.token, ProperToken row

theorem properRows_none : ProperRows ⟨none, none, none⟩ := by
  constructor <;> simp

/-- Sound tables whose rows all have the right form. -/
structure Proper (t : Tables) : Prop extends t.Sound where
  rows : ∀ id, ProperRows (t.rowsOf id)

theorem proper_empty : Proper Tables.empty where
  toSound := Tables.Sound.empty
  rows id := by
    rw [Tables.Sound.empty.rowsOf_absent (by simp [Tables.empty])]
    exact properRows_none

/-! ## Columns -/

/-- No text of the row is longer than its column is wide. -/
def WithinWidths (r : Sql.Relation) (row : Sql.Row) : Prop :=
  ∀ p ∈ r.columns.zip row, ∀ s, p.2 = .text s → s.length ≤ p.1.width

theorem ProperUser.withinWidths {u : User} (h : ProperUser u) : WithinWidths .user (Sql.userRow u) := by
  have hid : u.id.length ≤ 32 := Nat.le_of_eq (length_of_isUserId h.id)
  have hemail : ∀ s, Sql.Value.ofOption .text u.email = .text s → s.length ≤ 255 := by
    intro s hs
    cases he : u.email with
    | none => rw [he] at hs; cases hs
    | some address =>
      have hsame : address = s := by simpa [he, Sql.Value.ofOption] using hs
      exact hsame ▸ (h.email address he).short
  have hinstant : ∀ t s, Sql.Value.ofOption Sql.Value.ofInstant t = .text s → s.length ≤ 32 := by
    intro t s hs
    cases t <;> simp [Sql.Value.ofOption, Sql.Value.ofInstant] at hs
  simpa [WithinWidths, Sql.Relation.columns, Sql.userRow, Sql.Column.width, Sql.Value.ofInstant] using
    And.intro hid ⟨hemail, hinstant _, hinstant _⟩

theorem ProperCredential.withinWidths {c : Credential} (h : ProperCredential c) :
    WithinWidths .credential (Sql.credentialRow c) := by
  have hid : c.userId.length ≤ 32 := Nat.le_of_eq (length_of_isUserId h.userId)
  have hhash : c.hash.length ≤ 64 := by rw [h.hash.length]; decide
  have hsalt : c.salt.length ≤ 16 := Nat.le_of_eq (length_of_isSalt h.salt)
  simp [WithinWidths, Sql.Relation.columns, Sql.credentialRow, Sql.Column.width, hid, hhash, hsalt, h.login.short]

theorem ProperToken.withinWidths {row : SessionToken} (h : ProperToken row) :
    WithinWidths .sessionToken (Sql.tokenRow row) := by
  have hid : row.userId.length ≤ 32 := Nat.le_of_eq (length_of_isUserId h.userId)
  have htoken : row.token.length ≤ 64 := Nat.le_of_eq (length_of_isToken h.token)
  simp [WithinWidths, Sql.Relation.columns, Sql.tokenRow, Sql.Column.width, Sql.Value.ofInstant, hid, htoken]

/-! ## Calls -/

/-- What the call offers to write has the right form, as far as the tables do not see to it. -/
def Offers : Call → Prop
  | .addUser user => ProperUser user
  | .amendUser _ changes => ∀ email, changes.email = .set email → IsEmail email
  | .setCredential c => IsLogin c.login ∧ isSalt c.salt = true ∧ IsHashWith c.salt c.hash
  | .issueToken _ token _ => isToken token = true
  | _ => True

/-- The answers of tables whose rows have the right form. -/
def OfProper : AnswerKind := fun call answer => ∃ t, Proper t ∧ (t.answer call).1 = answer

section Calls
variable {t : Tables} {call : Call} {answer : Except StoreError call.Answer} {w : Write} {id : String}

theorem Proper.isUserId_of_mem (h : Proper t) (hm : id ∈ t.users) : isUserId id = true := by
  obtain ⟨user, hu⟩ := exists_lookup_of_mem hm
  exact h.user_id hu ▸ ((h.rows id).user user hu).id

theorem Proper.onRows (h : Proper t) (hoffer : Offers call) (hd : t.Done call answer w)
    (ho : w.owner? = some id) : ProperRows (w.onRows (t.rowsOf id)) := by
  have hrows := h.rows id
  cases hd <;> cases ho
  case userAdded hn => exact { hrows with user := fun u hu => Option.some.inj hu ▸ hoffer }
  case userAmended other changes user hu =>
    have huser : ProperUser user := (h.rows other).user user hu
    refine { hrows with user := fun u he => Option.some.inj he ▸ ⟨huser.id, fun email hm => ?_⟩ }
    cases hedit : changes.email with
    | keep => exact huser.email email (by simpa [User.apply, hedit, Edit.apply] using hm)
    | clear => simp [User.apply, hedit, Edit.apply] at hm
    | set new =>
      have hnew : new = email := by simpa [User.apply, hedit, Edit.apply] using hm
      exact hnew ▸ hoffer new hedit
  case userRemoved => exact properRows_none
  case credentialSet c hm hl =>
    obtain ⟨hlogin, hsalt, hhash⟩ := hoffer
    have hc : ProperCredential c := ⟨h.isUserId_of_mem hm, hlogin, hsalt, hhash⟩
    exact { hrows with credential := fun d hd => Option.some.inj hd ▸ hc }
  case tokenIssued id token now hm hk =>
    have hissued : ProperToken (.issued id token now) := ⟨h.isUserId_of_mem hm, hoffer⟩
    exact { hrows with token := fun row hr => Option.some.inj hr ▸ hissued }
  case tokenUsed row now hr =>
    have hrow : ProperToken row := (h.rows _).token row hr
    have hused : ProperToken (row.used now) := ⟨hrow.userId, hrow.token⟩
    exact { hrows with token := fun found hf => Option.some.inj hf ▸ hused }
  case tokenRevoked => exact { hrows with token := by simp [Write.onRows] }

theorem Proper.after_call (h : Proper t) (hoffer : Offers call) : Proper (t.answer call).2 := by
  obtain ⟨answer, w, hd⟩ := t.exists_done call
  rw [h.answer_of_done hd]
  refine ⟨h.applyTo_of_done hd, fun id => ?_⟩
  rw [Write.rowsOf_applyTo]
  split
  · rename_i ho
    exact h.onRows hoffer hd ho
  · exact h.rows id

end Calls

/-! ## Operations -/

/-- What chance and the clock contribute: readings of the clock, and the numbers that are drawn. -/
structure Draw where
  first : Instant
  second : Instant
  userId : Nat
  token : Nat
  salt : Nat
deriving DecidableEq, Repr, Inhabited

def Draw.occasion (d : Draw) : Occasion := .drawn d.first d.second d.userId d.token d.salt

section Operations
variable {sealer : Sealer} {d : Draw}

theorem forall_isEmail_of_unbroken {email? : Option String} (h : email?.bind brokenByEmail? = none) :
    ∀ email ∈ email?, IsEmail email := by
  rintro email rfl
  exact isEmail_of_unbroken h

theorem sealed_of_draw {password : String} {secret : SealedPassword}
    (h : sealPassword sealer.cost password d.occasion.salt = .ok secret) :
    isSalt secret.salt = true ∧ IsHashWith secret.salt secret.hash := by
  refine ⟨?_, isHashWith_of_hashPassword (hash_of_sealPassword h)⟩
  rw [(sealPassword_eq h).1]
  exact isSalt_drawnSalt d.salt

theorem offers_of_edit {id : String} {request : UserUpdate} {confirmed : Option Bool}
    (h : brokenByEdit? request.email = none) :
    Offers (.amendUser id { request.changes with emailConfirmed := confirmed }) := by
  intro email hedit
  have hset : request.email = .set email := hedit
  rw [hset] at h
  exact isEmail_of_unbroken h

theorem OfProper.login {id : String} {c : Credential} (h : OfProper (.credentialOfUser id) (.ok c)) :
    IsLogin c.login := by
  obtain ⟨t, ht, hanswer⟩ := h
  cases hrow : t.credentials[id]? with
  | none =>
    rw [Tables.answer, Tables.credentialOfUser_of_none hrow] at hanswer
    cases hanswer
  | some found =>
    rw [Tables.answer_credentialOfUser_of_row hrow] at hanswer
    cases hanswer
    exact ((ht.rows id).credential c hrow).login

theorem offers_of_makes {op : Operation} {call : Call} (h : Makes OfProper sealer d.occasion op call) :
    Offers call := by
  cases h with
  | newUser hemail => exact ⟨isUserId_drawnUserId d.userId, forall_isEmail_of_unbroken hemail⟩
  | newCredential hlogin hseal _ => exact ⟨isLogin_of_unbroken hlogin, sealed_of_draw hseal⟩
  | newToken | loginToken | tokenIssued => exact isToken_drawnToken d.token
  | loginTouched | tokenTouched => exact nofun
  | userAmended hemail => exact offers_of_edit hemail
  | profileAmended hupdate =>
    cases hupdate with
    | emailCompared => trivial
    | userAmended hemail => exact offers_of_edit hemail
  | credentialSealed hc hseal =>
    -- The login is not checked again: it is the one that is stored.
    exact ⟨hc.login, sealed_of_draw hseal⟩
  | _ => trivial

end Operations

/-! ## Runs -/

/-- A program all of whose calls offer the right form. -/
def OffersOnly {α : Type} (p : Program α) : Prop := p.Asks Offers OfProper fun _ => True

theorem offersOnly_action (sealer : Sealer) (d : Draw) (op : Operation) :
    OffersOnly (op.action sealer d.occasion).run :=
  Program.Asks.weaken (asks_action sealer d.occasion op) (fun _ h => offers_of_makes h) fun _ _ => trivial

theorem OffersOnly.proper_eval {α : Type} {p : Program α} (h : OffersOnly p) {t : Tables} (ht : Proper t) :
    Proper (p.eval t).2 :=
  (h.eval (fun ht hoffer => ⟨⟨_, ht, rfl⟩, ht.after_call hoffer⟩) ht).2

theorem proper_performAll (sealer : Sealer) {t : Tables} (h : Proper t) (run : List (Draw × Operation)) :
    Proper (performAll sealer t (run.map fun step => (step.1.occasion, step.2))).2 := by
  induction run generalizing t with
  | nil => exact h
  | cons step run ih => exact ih ((offersOnly_action sealer step.1 step.2).proper_eval h)

section Turns
variable {ι : Type} [DecidableEq ι] {α : ι → Type} {s : Shared α}

theorem offersOnly_turn (h : Proper s.tables) (hcallers : ∀ i, OffersOnly (s.callers i)) (i : ι) :
    Proper (s.turn i).tables ∧ ∀ j, OffersOnly ((s.turn i).callers j) := by
  have hcaller := hcallers i
  have hothers : ∀ j, j ≠ i → OffersOnly (s.callers j) := fun j _ => hcallers j
  unfold Shared.turn
  cases hp : s.callers i with
  | done a => exact ⟨h, hcallers⟩
  | ask call next =>
    rw [hp] at hcaller
    refine ⟨h.after_call hcaller.1, (Function.forall_update_iff s.callers _).mpr ⟨?_, hothers⟩⟩
    exact hcaller.2 _ ⟨s.tables, h, rfl⟩
  | note event next =>
    rw [hp] at hcaller
    exact ⟨h, (Function.forall_update_iff s.callers _).mpr ⟨hcaller, hothers⟩⟩

theorem proper_afterTurns (h : Proper s.tables) (hcallers : ∀ i, OffersOnly (s.callers i)) (turns : List ι) :
    Proper (s.afterTurns turns).tables := by
  -- Between two turns a caller is what is left of its program, and that offers the right form as well.
  induction turns generalizing s with
  | nil => exact h
  | cons i turns ih =>
    obtain ⟨hafter, hnext⟩ := offersOnly_turn h hcallers i
    exact ih hafter hnext

end Turns

/-! ## The result -/

/-- After any operations, and while further ones overlap, call by call: the rows of every user have the
right form, and no text is too long for its column. -/
theorem stored_rows_proper (sealer : Sealer) (run : List (Draw × Operation)) {ι : Type} [DecidableEq ι]
    (callers : ι → Draw × Operation) (turns : List ι) (id : String) :
    let before := (performAll sealer .empty (run.map fun step => (step.1.occasion, step.2))).2
    let programs (i : ι) := ((callers i).2.action sealer (callers i).1.occasion).run
    let rows := ((Shared.mk programs before).afterTurns turns).tables.rowsOf id
    (∀ u ∈ rows.user, ProperUser u ∧ WithinWidths .user (Sql.userRow u)) ∧
      (∀ c ∈ rows.credential, ProperCredential c ∧ WithinWidths .credential (Sql.credentialRow c)) ∧
      ∀ row ∈ rows.token, ProperToken row ∧ WithinWidths .sessionToken (Sql.tokenRow row) := by
  intro before programs rows
  have hbefore : Proper before := proper_performAll sealer proper_empty run
  have hafter := proper_afterTurns (s := Shared.mk programs before) hbefore
    (fun i => offersOnly_action sealer (callers i).1 (callers i).2) turns
  have hrows : ProperRows rows := hafter.rows id
  refine ⟨fun u hu => ?_, fun c hc => ?_, fun row hr => ?_⟩
  · exact ⟨hrows.user u hu, (hrows.user u hu).withinWidths⟩
  · exact ⟨hrows.credential c hc, (hrows.credential c hc).withinWidths⟩
  · exact ⟨hrows.token row hr, (hrows.token row hr).withinWidths⟩

end PlayerAccounts.Service
