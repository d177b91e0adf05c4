import Mathlib.Data.List.Basic
import PlayerAccounts.Proofs.Account.Changesets
import PlayerAccounts.Proofs.Sql.Database
import PlayerAccounts.Proofs.Time.Micros
import PlayerAccounts.Sql.Accounts
/-!
# Accounts as rows

Users, credentials and session tokens that fit their columns are read back from their rows as they are. An
update of a row does to it what the changes do to the user.
-/
namespace PlayerAccounts.Sql
set_option autoImplicit false

open PlayerAccounts.Account
open PlayerAccounts.Store
open PlayerAccounts.Time (Instant)

/-! ## What fits -/

/-- The instant is stored as it is: the timestamp tells it, and there is such a timestamp. -/
structure InstantFits (t : Instant) : Prop where
  precise : t.IsPrecise
  range : microsFit t.toMicros = true

/-- Timestamps begin later than instants, and do not end before them. -/
theorem instantFits_iff {t : Instant} : InstantFits t ↔ t.IsPrecise ∧ -210866803200 ≤ t.second := by
  have hmicros : t.IsPrecise → (microsFit t.toMicros = true ↔ -210866803200 ≤ t.second) := by
    intro h
    have hlast := t.le_last
    have hlt := h.notLeap
    unfold Time.lastSecond at hlast
    unfold Time.nanosPerSecond at hlt
    rw [microsFit, Bool.and_eq_true, decide_eq_true_eq, decide_eq_true_eq, h.toMicros_eq,
      Instant.storageOrigin]
    omega
  exact ⟨fun h => ⟨h.precise, (hmicros h.precise).mp h.range⟩, fun h => ⟨h.1, (hmicros h.1).mpr h.2⟩⟩

instance (t : Instant) : Decidable (InstantFits t) := decidable_of_iff _ instantFits_iff.symm

theorem InstantFits.max {a b : Instant} (ha : InstantFits a) (hb : InstantFits b) :
    InstantFits (max a b) := by
  rw [max_def]
  split
  · exact hb
  · exact ha

def AllFit (t : Option Instant) : Prop := ∀ instant ∈ t, InstantFits instant

structure UserFits (u : User) : Prop where
  id : textFits 32 u.id = true
  email : ∀ email ∈ u.email, textFits 255 email = true
  registered : InstantFits u.registered
  active : InstantFits u.active
  doubleCrystals : AllFit u.doubleCrystals
  premium : AllFit u.premium

structure ChangesFit (c : Changes) : Prop where
  email : ∀ email, c.email = .set email → textFits 255 email = true
  active : AllFit c.active
  doubleCrystals : ∀ t, c.doubleCrystals = .set t → InstantFits t
  premium : ∀ t, c.premium = .set t → InstantFits t

structure CredentialFits (c : Credential) : Prop where
  userId : textFits 32 c.userId = true
  login : textFits 32 c.login = true
  hash : textFits 64 c.hash = true
  salt : textFits 16 c.salt = true

structure TokenFits (row : SessionToken) : Prop where
  userId : textFits 32 row.userId = true
  created : InstantFits row.created
  lastUsed : InstantFits row.lastUsed
  token : textFits 64 row.token = true

/-- The texts of a call fit their columns, and its instants are stored as they are. -/
def CallFits : Call → Prop
  | .addUser u => UserFits u
  | .amendUser id c => textFits 32 id = true ∧ ChangesFit c
  | .setCredential c => CredentialFits c
  | .issueToken id token now => TokenFits (.issued id token now)
  | .useToken token now => textFits 64 token = true ∧ InstantFits now
  | .findUser id | .removeUser id | .credentialOfUser id | .revokeToken id => textFits 32 id = true
  | .credentialOfLogin login => textFits 32 login = true

/-- A field after an edit has what it had or what was set. -/
theorem forall_mem_apply {α : Type} {P : α → Prop} {edit : Edit α} {old : Option α}
    (hset : ∀ value, edit = .set value → P value) (hold : ∀ value ∈ old, P value) :
    ∀ value ∈ edit.apply old, P value := by
  intro value hv
  cases edit with
  | keep => exact hold value hv
  | clear => cases hv
  | set new => exact hset value (congrArg Edit.set (Option.some.inj hv))

theorem UserFits.apply {u : User} {c : Changes} (hu : UserFits u) (hc : ChangesFit c) :
    UserFits (u.apply c) where
  id := hu.id
  email := forall_mem_apply hc.email hu.email
  registered := hu.registered
  active := by
    change InstantFits (c.active.getD u.active)
    cases hedit : c.active with
    | none => exact hu.active
    | some now => exact hc.active now hedit
  doubleCrystals := forall_mem_apply hc.doubleCrystals hu.doubleCrystals
  premium := forall_mem_apply hc.premium hu.premium

theorem TokenFits.used {row : SessionToken} (h : TokenFits row) {now : Instant} (hnow : InstantFits now) :
    TokenFits (row.used now) where
  userId := h.userId
  created := h.created
  lastUsed := (hnow.max h.lastUsed).max h.created
  token := h.token

/-! ## Values read back -/

section Values
variable (column : String)

theorem inColumn_text (s : String) : (Value.text s).inColumn column Value.asText = .ok s := rfl

theorem inColumn_optionalText (s : Option String) :
    (Value.ofOption .text s).inColumn column (Value.asOption Value.asText) = .ok s := by
  cases s <;> rfl

theorem inColumn_flag (b : Bool) : (Value.flag b).inColumn column Value.asFlag = .ok b := rfl

theorem inColumn_integer (n : Int32) : (Value.integer n.toInt).inColumn column Value.asInteger = .ok n := by
  have hread : (Value.integer n.toInt).asInteger = .ok n := congrArg Except.ok n.ofInt_toInt
  rw [Value.inColumn, hread]
  rfl

theorem asInstant_ofInstant {t : Instant} (h : InstantFits t) : (Value.ofInstant t).asInstant = .ok t := by
  rw [Value.ofInstant, Value.asInstant, h.precise.ofMicros?_toMicros]

theorem inColumn_instant {t : Instant} (h : InstantFits t) :
    (Value.ofInstant t).inColumn column Value.asInstant = .ok t := by
  rw [Value.inColumn, asInstant_ofInstant h]
  rfl

theorem inColumn_optionalInstant {t : Option Instant} (h : AllFit t) :
    (Value.ofOption .ofInstant t).inColumn column (Value.asOption Value.asInstant) = .ok t := by
  cases t with
  | none => rfl
  | some t =>
    change (some <$> (Value.ofInstant t).asInstant).mapError _ = _
    rw [asInstant_ofInstant (h t rfl)]
    rfl

end Values

/-! ## Rows read back -/

theorem readUser_userRow {u : User} (h : UserFits u) : readUser (userRow u) = .ok u := by
  unfold userRow readUser
  simp only [inColumn_text, inColumn_optionalText, inColumn_flag, inColumn_instant _ h.registered,
    inColumn_instant _ h.active, inColumn_integer, inColumn_optionalInstant _ h.doubleCrystals,
    inColumn_optionalInstant _ h.premium]
  rfl

theorem readCredential_credentialRow (c : Credential) : readCredential (credentialRow c) = .ok c := rfl

theorem readToken_tokenRow {row : SessionToken} (h : TokenFits row) :
    readToken (tokenRow row) = .ok row := by
  unfold tokenRow readToken
  simp only [inColumn_text, inColumn_instant _ h.created, inColumn_instant _ h.lastUsed]
  rfl

/-! ## New rows and other values -/

theorem filled_userRow (u : User) : Relation.user.filled (userRow u) = userRow u := by
  obtain ⟨id, email, confirmed, registered, active, crystals, double, experience, premium⟩ := u
  cases email <;> cases double <;> cases premium <;> rfl

/-! ## Assignments -/

/-- What is looked up in an assignment to one column, if there is one. -/
theorem lookup_assignment {α : Type} (value : Option α) (encode : α → Value) (column name : String) :
    ((value.map fun a => (column, encode a)).toList).lookup name =
      if name = column then value.map encode else none := by
  cases value with
  | none => exact (ite_self none).symm
  | some a =>
    change ([(column, encode a)] : List (String × Value)).lookup name = _
    rw [List.lookup_cons]
    by_cases hname : name = column
    · rw [if_pos hname, beq_iff_eq.mpr hname]
      rfl
    · rw [if_neg hname, beq_false_of_ne hname]
      rfl

theorem assigned_userRow (u : User) (c : Changes) :
    Relation.user.assigned (assignments c) (userRow u) = userRow (u.apply c) := by
  unfold Relation.assigned userRow assignments
  simp only [Relation.columnNames, Relation.columns, List.map_cons, List.map_nil, List.zipWith_cons_cons,
    List.zipWith_nil_right, List.lookup_append, lookup_assignment]
  simp [Edit.apply_eq_getD, User.apply]

/-- Changes that assign nothing are no changes. -/
theorem eq_none_of_assignments {c : Changes} (hn : assignments c = []) : c = Changes.none := by
  have hkeep {α : Type} {edit : Edit α} (he : edit.target? = none) : edit = .keep := Edit.target?_inj he
  obtain ⟨email, confirmed, active, crystals, double, experience, premium⟩ := c
  simp only [assignments, List.append_eq_nil_iff, Option.toList_eq_nil_iff, Option.map_eq_none_iff] at hn
  obtain ⟨⟨⟨⟨⟨⟨hemail, rfl⟩, rfl⟩, rfl⟩, hdouble⟩, rfl⟩, hpremium⟩ := hn
  rw [hkeep hemail, hkeep hdouble, hkeep hpremium, Changes.none]

/-! ## Statements that fit -/

section Fits
variable {column : Column}

theorem fits_text {s : String} (hkind : column.kind = .text) (hs : textFits column.width s = true) :
    (Value.text s).fits column = true := by
  rw [Value.fits, hkind, hs]
  rfl

theorem fits_optionalText {s : Option String} (hkind : column.kind = .text)
    (hs : ∀ text ∈ s, textFits column.width text = true) : (Value.ofOption .text s).fits column = true := by
  cases s with
  | none => rfl
  | some text => exact fits_text hkind (hs text rfl)

theorem fits_integer (hkind : column.kind = .integer) (n : Int32) :
    (Value.integer n.toInt).fits column = true := by
  have hlow := n.le_toInt
  have hhigh := n.toInt_lt
  rw [Value.fits, hkind]
  simp only [beq_self_eq_true, Bool.true_and, Bool.and_eq_true, decide_eq_true_eq]
  omega

theorem fits_instant (hkind : column.kind = .instant) {t : Instant} (ht : InstantFits t) :
    (Value.ofInstant t).fits column = true := by
  rw [Value.ofInstant, Value.fits, hkind, ht.range]
  rfl

theorem fits_optionalInstant (hkind : column.kind = .instant) {t : Option Instant} (ht : AllFit t) :
    (Value.ofOption .ofInstant t).fits column = true := by
  cases t with
  | none => rfl
  | some t => exact fits_instant hkind (ht t rfl)

end Fits

/-- A selection by a text fits if the text fits the column. -/
theorem fits_select {r : Relation} (column : Column) (hcolumn : r.column? column.name = some column)
    (hkind : column.kind = .text) {s : String} (hs : textFits column.width s = true) (isLocked : Bool) :
    (Statement.select r column.name (.text s) isLocked).fits = true := by
  rw [Statement.fits, hcolumn]
  exact fits_text hkind hs

theorem fits_insertUser {u : User} (h : UserFits u) :
    (Statement.insert .user (userRow u) false).fits = true := by
  simp only [Statement.fits, userRow, Relation.columns, List.length_cons, List.length_nil,
    beq_self_eq_true, List.zip_cons_cons, List.zip_nil_right, List.all_cons, List.all_nil, Bool.true_and,
    Bool.and_true, Bool.and_eq_true]
  exact ⟨fits_text rfl h.id, fits_optionalText rfl h.email, rfl, fits_instant rfl h.registered,
    fits_instant rfl h.active, fits_integer rfl _, fits_optionalInstant rfl h.doubleCrystals,
    fits_integer rfl _, fits_optionalInstant rfl h.premium⟩

theorem fits_insertCredential {c : Credential} (h : CredentialFits c) :
    (Statement.insert .credential (credentialRow c) true).fits = true := by
  simp only [Statement.fits, credentialRow, Relation.columns, List.length_cons, List.length_nil,
    beq_self_eq_true, List.zip_cons_cons, List.zip_nil_right, List.all_cons, List.all_nil, Bool.true_and,
    Bool.and_true, Bool.and_eq_true]
  exact ⟨fits_text rfl h.userId, fits_text rfl h.login, fits_text rfl h.hash, fits_text rfl h.salt⟩

theorem fits_insertToken {row : SessionToken} (h : TokenFits row) :
    (Statement.insert .sessionToken (tokenRow row) true).fits = true := by
  simp only [Statement.fits, tokenRow, Relation.columns, List.length_cons, List.length_nil,
    beq_self_eq_true, List.zip_cons_cons, List.zip_nil_right, List.all_cons, List.all_nil, Bool.true_and,
    Bool.and_true, Bool.and_eq_true]
  exact ⟨fits_text rfl h.userId, fits_instant rfl h.created, fits_instant rfl h.lastUsed,
    fits_text rfl h.token⟩

theorem fits_updateToken {row : SessionToken} (h : TokenFits row) {now : Instant} (hnow : InstantFits now) :
    (Statement.update .sessionToken [("timestamp_last_used", .ofInstant (row.lastUsedAfter now))]
      row.userId).fits = true := by
  have hused : (Value.ofInstant (row.lastUsedAfter now)).fits ⟨"timestamp_last_used", .instant, false⟩ =
    true := fits_instant rfl (h.used hnow).lastUsed
  rw [Statement.fits, h.userId]
  simpa [Relation.column?, Relation.columns, keyName] using hused

/-- An update assigns no column twice. -/
theorem nodup_assignments (c : Changes) : ((assignments c).map Prod.fst).Nodup := by
  have hone {α : Type} (value : Option α) (encode : α → Value) (column : String) :
      ((value.map fun a => (column, encode a)).toList.map Prod.fst).Sublist [column] := by
    cases value with
    | none => exact List.nil_sublist _
    | some a => exact List.Sublist.refl _
  have hall : ((assignments c).map Prod.fst).Sublist ["email", "email_confirmed", "timestamp_active",
      "crystals", "double_crystals", "experience", "premium"] := by
    simp only [assignments, List.map_append]
    exact ((((((hone _ _ _).append (hone _ _ _)).append (hone _ _ _)).append (hone _ _ _)).append
      (hone _ _ _)).append (hone _ _ _)).append (hone _ _ _)
  exact hall.nodup (by decide)

/-- The content that an edit gives a field is none or what is set. -/
theorem forall_mem_target {α : Type} {P : Option α → Prop} {edit : Edit α} (hnone : P none)
    (hset : ∀ value, edit = .set value → P (some value)) : ∀ content ∈ edit.target?, P content := by
  intro content hc
  cases edit with
  | keep => cases hc
  | clear => exact Option.some.inj hc ▸ hnone
  | set value => exact Option.some.inj hc ▸ hset value rfl

theorem fits_updateUser {id : String} {c : Changes} (hid : textFits 32 id = true) (h : ChangesFit c) :
    (Statement.update .user (assignments c) id).fits = true := by
  have hone {α : Type} {value : Option α} {encode : α → Value} (column : Column)
      (hname : column.name ≠ keyName) (hcolumn : Relation.user.column? column.name = some column)
      (hvalue : ∀ a ∈ value, (encode a).fits column = true) :
      ((value.map fun a => (column.name, encode a)).toList.all fun assignment =>
        assignment.1 != keyName && (Relation.user.column? assignment.1).any assignment.2.fits) = true := by
    cases value with
    | none => rfl
    | some a => simp [hname, hcolumn, hvalue a rfl]
  rw [Statement.fits, hid, decide_eq_true (nodup_assignments c)]
  simp only [assignments, List.all_append, Bool.and_eq_true, Bool.true_and]
  refine ⟨⟨⟨⟨⟨⟨?_, ?_⟩, ?_⟩, ?_⟩, ?_⟩, ?_⟩, ?_⟩
  · exact hone ⟨"email", .text, true⟩ (by decide) rfl
      (forall_mem_target rfl fun email he => fits_text rfl (h.email email he))
  · exact hone ⟨"email_confirmed", .flag, false⟩ (by decide) rfl fun _ _ => rfl
  · exact hone ⟨"timestamp_active", .instant, false⟩ (by decide) rfl fun now hnow =>
      fits_instant rfl (h.active now hnow)
  · exact hone ⟨"crystals", .integer, false⟩ (by decide) rfl fun n _ => fits_integer rfl n
  · exact hone ⟨"double_crystals", .instant, true⟩ (by decide) rfl
      (forall_mem_target rfl fun t ht => fits_instant rfl (h.doubleCrystals t ht))
  · exact hone ⟨"experience", .integer, false⟩ (by decide) rfl fun n _ => fits_integer rfl n
  · exact hone ⟨"premium", .instant, true⟩ (by decide) rfl
      (forall_mem_target rfl fun t ht => fits_instant rfl (h.premium t ht))

end PlayerAccounts.Sql
