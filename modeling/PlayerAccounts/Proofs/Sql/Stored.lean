import PlayerAccounts.Proofs.Sql.Calls
import PlayerAccounts.Proofs.Sql.Coding
import PlayerAccounts.Proofs.Store.Runs
/-!
# Tables in a database

The database that holds the rows of the tables of the store in memory: what statements find in it, which
constraints stand against them, and which tables it holds after them.
-/
namespace PlayerAccounts.Sql
set_option autoImplicit false

open PlayerAccounts.Account
open PlayerAccounts.Store
open PlayerAccounts.Time (Instant)

variable {t : Tables} {id : String}

/-! ## The rows of the tables -/

/-- The rows of the tables. -/
def contentsOf (t : Tables) : Contents
  | .user => t.users.map fun _ u => userRow u
  | .credential => t.credentials.map fun _ c => credentialRow c
  | .sessionToken => t.tokens.map fun _ row => tokenRow row

/-- The database that holds the tables, outside of transactions. -/
def stored (t : Tables) : Database := ⟨contentsOf t, none, false⟩

@[simp] theorem lookup_user (t : Tables) (id : String) :
    (contentsOf t .user)[id]? = t.users[id]?.map userRow := Std.ExtTreeMap.getElem?_map

@[simp] theorem lookup_credential (t : Tables) (id : String) :
    (contentsOf t .credential)[id]? = t.credentials[id]?.map credentialRow := Std.ExtTreeMap.getElem?_map

@[simp] theorem lookup_token (t : Tables) (id : String) :
    (contentsOf t .sessionToken)[id]? = t.tokens[id]?.map tokenRow := Std.ExtTreeMap.getElem?_map

theorem contains_user (t : Tables) (id : String) :
    (contentsOf t .user).contains id = true ↔ id ∈ t.users := by
  rw [Std.ExtTreeMap.contains_eq_isSome_getElem?, lookup_user, Option.isSome_map,
    ← Std.ExtTreeMap.mem_iff_isSome_getElem?]

/-! ## Rows put and taken away -/

/-- Contents with the same rows under the same keys are the same. -/
theorem ext_contents {rows rows' : Contents}
    (h : ∀ (r : Relation) (key : String), (rows r)[key]? = (rows' r)[key]?) : rows = rows' :=
  funext fun r => Std.ExtTreeMap.ext_getElem? (h r)

theorem stored_empty : stored Tables.empty = .empty := by
  have hrows : contentsOf Tables.empty = fun _ => ∅ := by
    refine ext_contents fun r key => ?_
    cases r <;> simp [Tables.empty]
  rw [stored, hrows, Database.empty]

section Encoded
variable {α : Type} (table : Table α) (encode : α → Row)

theorem lookup_insert_map (key : String) (a : α) (other : String) :
    ((table.map fun _ b => encode b).insert key (encode a))[other]? =
      (if key = other then some a else table[other]?).map encode := by
  rw [lookup_insert, Std.ExtTreeMap.getElem?_map]
  exact (apply_ite (Option.map encode) (key = other) (some a) table[other]?).symm

theorem lookup_erase_map (key other : String) :
    ((table.map fun _ b => encode b).erase key)[other]? =
      (if key = other then none else table[other]?).map encode := by
  rw [lookup_erase, Std.ExtTreeMap.getElem?_map]
  exact (apply_ite (Option.map encode) (key = other) none table[other]?).symm

end Encoded

theorem put_user (t : Tables) (u : User) :
    (contentsOf t).put .user (userRow u) = contentsOf (t.putUser u) := by
  refine ext_contents fun r key => ?_
  cases r with
  | user =>
    rw [Contents.put, Function.update_self, lookup_user, Tables.users_putUser]
    exact lookup_insert_map t.users userRow u.id u key
  | credential => rfl
  | sessionToken => rfl

theorem put_credential (t : Tables) (c : Credential) :
    (contentsOf t).put .credential (credentialRow c) = contentsOf (t.putCredential c) := by
  refine ext_contents fun r key => ?_
  cases r with
  | user => rfl
  | credential =>
    rw [Contents.put, Function.update_self, lookup_credential, Tables.credentials_putCredential]
    exact lookup_insert_map t.credentials credentialRow c.userId c key
  | sessionToken => rfl

theorem put_token (t : Tables) (row : SessionToken) :
    (contentsOf t).put .sessionToken (tokenRow row) = contentsOf (t.putToken row) := by
  refine ext_contents fun r key => ?_
  cases r with
  | user => rfl
  | credential => rfl
  | sessionToken =>
    rw [Contents.put, Function.update_self, lookup_token, Tables.tokens_putToken]
    exact lookup_insert_map t.tokens tokenRow row.userId row key

theorem without_user (t : Tables) (id : String) :
    (contentsOf t).without .user id = contentsOf (t.without id) := by
  refine ext_contents fun r key => ?_
  rw [Contents.without, if_pos (Or.inr rfl)]
  cases r with
  | user =>
    rw [lookup_user, Tables.users_without]
    exact lookup_erase_map t.users userRow id key
  | credential =>
    rw [lookup_credential, Tables.credentials_without]
    exact lookup_erase_map t.credentials credentialRow id key
  | sessionToken =>
    rw [lookup_token, Tables.tokens_without]
    exact lookup_erase_map t.tokens tokenRow id key

theorem without_token (t : Tables) (id : String) :
    (contentsOf t).without .sessionToken id = contentsOf (t.revokeToken id) := by
  refine ext_contents fun r key => ?_
  cases r with
  | user => rfl
  | credential => rfl
  | sessionToken =>
    rw [Contents.without, if_pos (Or.inl rfl), lookup_token, Tables.tokens_revokeToken]
    exact lookup_erase_map t.tokens tokenRow id key

/-! ## Constraints -/

theorem brokenBy_user (rows : Contents) (u : User) : rows.brokenBy .user (userRow u) = [] := rfl

theorem brokenBy_credential (rows : Contents) (c : Credential) :
    rows.brokenBy .credential (credentialRow c) =
      (if rows.isTaken .credential (credentialRow c) then [.unique] else []) ++
        if rows.isOrphan .credential (credentialRow c) then [.reference] else [] := by
  rw [Contents.brokenBy]
  exact (List.append_nil _).trans (List.append_nil _)

theorem brokenBy_token (rows : Contents) (row : SessionToken) :
    rows.brokenBy .sessionToken (tokenRow row) =
      (if rows.isTaken .sessionToken (tokenRow row) then [.unique] else []) ++
        (if rows.isOrphan .sessionToken (tokenRow row) then [.reference] else []) ++
        if row.lastUsed.toMicros < row.created.toMicros then [.check] else [] := by
  rw [Contents.brokenBy]
  exact List.append_nil _

/-- Whether a row under another key has the unique text of this one. -/
theorem isTaken_iff {α : Type} {table : Table α} {encode : α → Row} {textOf : α → String} {r : Relation}
    (column : String) (hcolumn : r.uniqueColumn? = some column)
    (htable : contentsOf t r = table.map fun _ row => encode row)
    (htext : ∀ row, r.valueIn (encode row) column = .text (textOf row)) (row : α) :
    (contentsOf t).isTaken r (encode row) = true ↔
      ¬ ∀ {other : String} {found : α}, table[other]? = some found → textOf found = textOf row →
        keyOf (encode row) = other := by
  rw [Contents.isTaken, hcolumn, htable, Option.any_some, List.any_eq_true]
  constructor
  · rintro ⟨⟨key, other⟩, hm, hp⟩ hfree
    rw [Std.ExtTreeMap.mem_toList_iff_getElem?_eq_some, Std.ExtTreeMap.getElem?_map] at hm
    obtain ⟨found, hf, rfl⟩ := Option.map_eq_some_iff.mp hm
    obtain ⟨hkey, hsame⟩ := Bool.and_eq_true_iff.mp hp
    have hsame := beq_iff_eq.mp hsame
    rw [htext, htext] at hsame
    exact bne_iff_ne.mp hkey (hfree hf (Value.text.inj hsame)).symm
  · intro hn
    simp only [not_forall] at hn
    obtain ⟨other, found, hf, hsame, hne⟩ := hn
    refine ⟨(other, encode found), ?_, ?_⟩
    · rw [Std.ExtTreeMap.mem_toList_iff_getElem?_eq_some, Std.ExtTreeMap.getElem?_map, hf]
      rfl
    · have hvalue : r.valueIn (encode found) column = r.valueIn (encode row) column := by
        rw [htext, htext, hsame]
      exact Bool.and_eq_true_iff.mpr ⟨bne_iff_ne.mpr (Ne.symm hne), beq_iff_eq.mpr hvalue⟩

theorem isTaken_credential (t : Tables) (c : Credential) :
    (contentsOf t).isTaken .credential (credentialRow c) = true ↔ ¬ t.LoginFreeFor c.userId c.login :=
  isTaken_iff "login_user" rfl rfl (fun _ => rfl) c

theorem isTaken_token (t : Tables) (row : SessionToken) :
    (contentsOf t).isTaken .sessionToken (tokenRow row) = true ↔ ¬ t.TokenFreeFor row.userId row.token :=
  isTaken_iff "token" rfl rfl (fun _ => rfl) row

theorem isOrphan_iff {r : Relation} (hr : r ≠ .user) (row : Row) :
    (contentsOf t).isOrphan r row = true ↔ keyOf row ∉ t.users := by
  rw [Contents.isOrphan, bne_iff_ne.mpr hr, Bool.true_and, Bool.not_eq_true', ← Bool.not_eq_true,
    contains_user]

/-! ## What stands against a statement -/

theorem newRow_addUser (t : Tables) (u : User) :
    (Statement.insert .user (userRow u) false).newRow? (contentsOf t) = some (.user, userRow u) := by
  rw [Statement.newRow?, filled_userRow]

theorem newRow_setCredential (t : Tables) (c : Credential) :
    (Statement.insert .credential (credentialRow c) true).newRow? (contentsOf t) =
      some (.credential, credentialRow c) := rfl

theorem newRow_issueToken (t : Tables) (row : SessionToken) :
    (Statement.insert .sessionToken (tokenRow row) true).newRow? (contentsOf t) =
      some (.sessionToken, tokenRow row) := rfl

theorem violated_addUser (t : Tables) (u : User) :
    (Statement.insert .user (userRow u) false).violated (contentsOf t) =
      if u.id ∈ t.users then [.key] else [] := by
  change (if (contentsOf t .user).contains (keyOf (Relation.user.filled (userRow u))) then _ else _) ++
    (contentsOf t).brokenBy .user (Relation.user.filled (userRow u)) = _
  rw [filled_userRow, brokenBy_user, List.append_nil]
  exact if_congr (contains_user t u.id) rfl rfl

theorem violated_update (rows : Contents) (r : Relation) (assignments : List (String × Value))
    (key : String) : (Statement.update r assignments key).violated rows =
      match (Statement.update r assignments key).newRow? rows with
      | some (r, row) => rows.brokenBy r row
      | none => [] := List.nil_append _

theorem newRow_amendUser (t : Tables) (c : Changes) (id : String) :
    (Statement.update .user (assignments c) id).newRow? (contentsOf t) =
      t.users[id]?.map fun u => (.user, userRow (u.apply c)) := by
  rw [Statement.newRow?, lookup_user, Option.map_map]
  exact congrArg (Option.map · _) (funext fun u => congrArg _ (assigned_userRow u c))

theorem violated_amendUser (t : Tables) (c : Changes) (id : String) :
    (Statement.update .user (assignments c) id).violated (contentsOf t) = [] := by
  rw [violated_update, newRow_amendUser]
  cases t.users[id]? with
  | none => rfl
  | some u => exact brokenBy_user (contentsOf t) (u.apply c)

/-- The update that records the use of a token. -/
def useUpdate (row : SessionToken) (now : Instant) : Statement :=
  .update .sessionToken [("timestamp_last_used", .ofInstant (row.lastUsedAfter now))] row.userId

theorem newRow_useUpdate (h : t.Sound) {row : SessionToken} (hr : t.tokens[id]? = some row)
    (now : Instant) : (useUpdate row now).newRow? (contentsOf t) =
      some (.sessionToken, tokenRow (row.used now)) := by
  rw [useUpdate, Statement.newRow?, h.token_id hr, lookup_token, hr]
  rfl

theorem violated_useUpdate (h : t.Sound) {row : SessionToken} (hfits : TokenFits row)
    (hr : t.tokens[id]? = some row) {now : Instant} (hnow : InstantFits now) :
    (useUpdate row now).violated (contentsOf t) = [] := by
  have hid : row.userId = id := h.token_id hr
  have hfree : t.TokenFreeFor row.userId row.token := fun hf he =>
    hid.trans (h.token_unique hr hf he.symm)
  have htaken := mt (isTaken_token t (row.used now)).mp (not_not.mpr hfree)
  have huser : keyOf (tokenRow (row.used now)) ∈ t.users := by
    change row.userId ∈ t.users
    rw [hid]
    exact h.token_user hr
  have hreference : Relation.sessionToken ≠ .user := by decide
  have horphan := mt (isOrphan_iff hreference (tokenRow (row.used now))).mp (not_not.mpr huser)
  have hused := hfits.used hnow
  have hle : row.created ≤ row.lastUsedAfter now := le_max_right _ _
  -- A use is never recorded as earlier than the issue, so the check of the times holds.
  have hcheck : ¬ (row.used now).lastUsed.toMicros < (row.used now).created.toMicros :=
    Int.not_lt.mpr (hused.created.precise.toMicros_le hused.lastUsed.precise hle)
  have hnew := newRow_useUpdate h hr now
  rw [useUpdate] at hnew ⊢
  rw [violated_update, hnew]
  refine (brokenBy_token (contentsOf t) (row.used now)).trans ?_
  rw [if_neg htaken, if_neg horphan, if_neg hcheck]
  rfl

/-- The constraints that stand against a row with a reference and a unique text. -/
def standing (t : Tables) (r : Relation) (row : Row) : List Constraint :=
  (if (contentsOf t).isTaken r row then [.unique] else []) ++
    if (contentsOf t).isOrphan r row then [.reference] else []

theorem violated_setCredential (t : Tables) (c : Credential) :
    (Statement.insert .credential (credentialRow c) true).violated (contentsOf t) =
      standing t .credential (credentialRow c) := brokenBy_credential _ c

theorem violated_issueToken (t : Tables) (id token : String) (now : Instant) :
    (Statement.insert .sessionToken (tokenRow (.issued id token now)) true).violated (contentsOf t) =
      standing t .sessionToken (tokenRow (.issued id token now)) := by
  have hcheck : ¬ (SessionToken.issued id token now).lastUsed.toMicros <
      (SessionToken.issued id token now).created.toMicros := Int.lt_irrefl _
  refine (brokenBy_token _ _).trans ?_
  rw [if_neg hcheck, List.append_nil]
  rfl

theorem check_not_mem_standing (t : Tables) (r : Relation) (row : Row) :
    Constraint.check ∉ standing t r row := by
  unfold standing
  generalize (contentsOf t).isTaken r row = taken
  generalize (contentsOf t).isOrphan r row = orphan
  revert taken orphan
  decide

/-- If at most one constraint stands against a row, none does, or the text is taken, or the user is not
there. -/
theorem standing_cases {r : Relation} (hr : r ≠ .user) {row : Row} {free : Prop}
    (hfree : (contentsOf t).isTaken r row = true ↔ ¬ free) (h : (standing t r row).length ≤ 1) :
    (keyOf row ∈ t.users ∧ free ∧ standing t r row = []) ∨
    (keyOf row ∈ t.users ∧ ¬ free ∧ standing t r row = [.unique]) ∨
    (keyOf row ∉ t.users ∧ standing t r row = [.reference]) := by
  have horphan := isOrphan_iff hr row (t := t)
  unfold standing at h ⊢
  cases ht : (contentsOf t).isTaken r row <;> cases ho : (contentsOf t).isOrphan r row <;>
    rw [ht] at hfree h <;> rw [ho] at horphan h
  · have hfree : free := not_not.mp fun hn => Bool.false_ne_true (hfree.mpr hn)
    have huser : keyOf row ∈ t.users := not_not.mp fun hn => Bool.false_ne_true (horphan.mpr hn)
    exact .inl ⟨huser, hfree, rfl⟩
  · exact .inr (.inr ⟨horphan.mp rfl, rfl⟩)
  · have huser : keyOf row ∈ t.users := not_not.mp fun hn => Bool.false_ne_true (horphan.mpr hn)
    exact .inr (.inl ⟨huser, hfree.mp rfl, rfl⟩)
  · exact absurd h (by decide)

/-! ## Selections -/

section Selections
variable {α : Type} {r : Relation} {column : String} {isLocked : Bool} {reply : Reply}
  {read : Row → Except QueryError α}

theorem mem_selected {rows : Contents} {value : Value} {row : Row} :
    row ∈ Statement.selected rows r column value ↔
      ∃ key : String, (rows r)[key]? = some row ∧ r.valueIn row column = value := by
  rw [Statement.selected, List.mem_filter, mem_values, beq_iff_eq, exists_and_right]

/-- What a selection by a text comes to: no row has the text, or one that has it is found. -/
theorem foundRow_of_text (table : Table α) (encode : α → Row) (textOf : α → String)
    (htable : contentsOf t r = table.map fun _ row => encode row)
    (htext : ∀ row, r.valueIn (encode row) column = .text (textOf row))
    (hread : ∀ {key : String} {found : α}, table[key]? = some found → read (encode found) = .ok found)
    (name : String) {text : String}
    (h : (Statement.select r column (.text text) isLocked).Answers (contentsOf t) reply) :
    (∀ {key : String} {found : α}, table[key]? = some found → textOf found ≠ text) ∧
      foundRow name read (.ok reply) = .error (.notFound name) ∨
    ∃ (key : String) (found : α), table[key]? = some found ∧ textOf found = text ∧
      foundRow name read (.ok reply) = .ok found := by
  have hmem {row : Row} : row ∈ Statement.selected (contentsOf t) r column (.text text) ↔
      ∃ (key : String) (found : α), table[key]? = some found ∧ textOf found = text ∧ row = encode found := by
    rw [mem_selected, htable]
    simp only [Std.ExtTreeMap.getElem?_map, Option.map_eq_some_iff]
    constructor
    · rintro ⟨key, ⟨found, hf, rfl⟩, hvalue⟩
      rw [htext] at hvalue
      exact ⟨key, found, hf, Value.text.inj hvalue, rfl⟩
    · rintro ⟨key, found, hf, rfl, rfl⟩
      exact ⟨key, ⟨found, hf, rfl⟩, htext found⟩
  rcases h with ⟨hnone, rfl⟩ | ⟨row, hrow, rfl⟩
  · refine .inl ⟨fun {key found} hf he => ?_, rfl⟩
    have hown := hmem.mpr ⟨key, found, hf, he, rfl⟩
    rw [hnone] at hown
    cases hown
  · obtain ⟨key, found, hf, he, rfl⟩ := hmem.mp hrow
    exact .inr ⟨key, found, hf, he, foundRow_row name (hread hf)⟩

end Selections

/-- The users and session tokens of the tables fit their columns. -/
structure TablesFit (t : Tables) : Prop where
  user : ∀ {id : String} {u : User}, t.users[id]? = some u → UserFits u
  token : ∀ {id : String} {row : SessionToken}, t.tokens[id]? = some row → TokenFits row

section Found
variable {isLocked : Bool} {reply : Reply}

theorem foundRow_user (h : t.Sound) (hfit : TablesFit t)
    (ha : (Statement.select .user keyName (.text id) isLocked).Answers (contentsOf t) reply) :
    foundRow (userNamed id) readUser (.ok reply) = t.findUser id := by
  rcases foundRow_of_text t.users userRow User.id rfl (fun _ => rfl)
    (fun hu => readUser_userRow (hfit.user hu)) (userNamed id) ha with
    ⟨hnone, hfound⟩ | ⟨key, u, hu, he, hfound⟩
  · have habsent : t.users[id]? = none :=
      Option.eq_none_iff_forall_ne_some.mpr fun u hu => hnone hu (h.user_id hu)
    rw [hfound, Tables.findUser_of_absent (not_mem_of_lookup habsent)]
  · rw [h.user_id hu] at he
    rw [hfound, Tables.findUser_of_row (he ▸ hu)]

theorem foundRow_credentialOfUser (h : t.Sound)
    (ha : (Statement.select .credential keyName (.text id) isLocked).Answers (contentsOf t) reply) :
    foundRow (credentialNamed id) readCredential (.ok reply) = t.credentialOfUser id := by
  rcases foundRow_of_text t.credentials credentialRow Credential.userId rfl (fun _ => rfl)
    (fun _ => readCredential_credentialRow _) (credentialNamed id) ha with
    ⟨hnone, hfound⟩ | ⟨key, c, hc, he, hfound⟩
  · have habsent : t.credentials[id]? = none :=
      Option.eq_none_iff_forall_ne_some.mpr fun c hc => hnone hc (h.credential_id hc)
    rw [hfound, Tables.credentialOfUser_of_none habsent]
  · rw [h.credential_id hc] at he
    rw [hfound, Tables.credentialOfUser_of_row (he ▸ hc)]

theorem foundRow_credentialOfLogin (h : t.Sound) {login : String}
    (ha : (Statement.select .credential "login_user" (.text login) isLocked).Answers (contentsOf t) reply) :
    foundRow (loginNamed login) readCredential (.ok reply) = t.credentialOfLogin login := by
  rcases foundRow_of_text t.credentials credentialRow Credential.login rfl (fun _ => rfl)
    (fun _ => readCredential_credentialRow _) (loginNamed login) ha with
    ⟨hnone, hfound⟩ | ⟨key, c, hc, rfl, hfound⟩
  · rw [hfound, Tables.credentialOfLogin_of_free hnone]
  · rw [hfound, h.credentialOfLogin_of_row hc]

/-- Nobody has the token, or the row that has it is found. -/
theorem foundRow_token (hfit : TablesFit t) {token : String}
    (ha : (Statement.select .sessionToken "token" (.text token) isLocked).Answers (contentsOf t) reply) :
    t.TokenFree token ∧ foundRow tokenNamed readToken (.ok reply) = .error (.notFound tokenNamed) ∨
      ∃ (id : String) (row : SessionToken), t.tokens[id]? = some row ∧ row.token = token ∧
        foundRow tokenNamed readToken (.ok reply) = .ok row :=
  foundRow_of_text t.tokens tokenRow SessionToken.token rfl (fun _ => rfl)
    (fun hr => readToken_tokenRow (hfit.token hr)) tokenNamed ha

end Found

/-! ## Tables that fit -/

namespace TablesFit

theorem empty : TablesFit Tables.empty := by
  constructor <;> simp [Tables.empty]

theorem putUser (h : TablesFit t) {u : User} (hu : UserFits u) : TablesFit (t.putUser u) where
  user hf := by
    rw [Tables.users_putUser] at hf
    split at hf
    · exact Option.some.inj hf ▸ hu
    · exact h.user hf
  token := h.token

theorem putToken (h : TablesFit t) {row : SessionToken} (hr : TokenFits row) :
    TablesFit (t.putToken row) where
  user := h.user
  token hf := by
    rw [Tables.tokens_putToken] at hf
    split at hf
    · exact Option.some.inj hf ▸ hr
    · exact h.token hf

theorem without (h : TablesFit t) (id : String) : TablesFit (t.without id) where
  user hf := by
    rw [Tables.users_without] at hf
    exact h.user (Option.ite_none_left_eq_some.mp hf).2
  token hf := by
    rw [Tables.tokens_without] at hf
    exact h.token (Option.ite_none_left_eq_some.mp hf).2

theorem revokeToken (h : TablesFit t) (id : String) : TablesFit (t.revokeToken id) where
  user := h.user
  token hf := by
    rw [Tables.tokens_revokeToken] at hf
    exact h.token (Option.ite_none_left_eq_some.mp hf).2

/-- A call whose texts and instants fit leaves tables that fit. -/
theorem answer (h : t.Sound) (hfit : TablesFit t) {call : Call} (hcall : CallFits call) :
    TablesFit (t.answer call).2 := by
  cases call with
  | addUser u =>
    by_cases hm : u.id ∈ t.users
    · simpa only [Tables.answer, Tables.addUser_of_known hm] using hfit
    · simpa only [Tables.answer, Tables.addUser_of_new hm] using hfit.putUser hcall
  | findUser id => exact hfit
  | amendUser id changes =>
    by_cases hm : id ∈ t.users
    · obtain ⟨u, hu⟩ := exists_lookup_of_mem hm
      simpa only [Tables.answer, h.amendUser_of_row hu] using
        hfit.putUser ((hfit.user hu).apply hcall.2)
    · simpa only [Tables.answer, Tables.amendUser_of_absent hm] using hfit
  | removeUser id =>
    by_cases hm : id ∈ t.users
    · simpa only [Tables.answer, Tables.removeUser_of_mem hm] using hfit.without id
    · simpa only [Tables.answer, Tables.removeUser_of_absent hm] using hfit
  | setCredential c =>
    by_cases hm : c.userId ∈ t.users
    · by_cases hl : t.LoginFreeFor c.userId c.login
      · rw [Tables.answer, h.setCredential_of_free hm hl]
        exact ⟨hfit.user, hfit.token⟩
      · simpa only [Tables.answer, h.setCredential_of_taken hm hl] using hfit
    · simpa only [Tables.answer, Tables.setCredential_of_absent hm] using hfit
  | credentialOfLogin login => exact hfit
  | credentialOfUser id => exact hfit
  | issueToken id token now =>
    by_cases hm : id ∈ t.users
    · by_cases hk : t.TokenFreeFor id token
      · simpa only [Tables.answer, h.issueToken_of_free hm hk] using hfit.putToken hcall
      · simpa only [Tables.answer, h.issueToken_of_taken hm hk] using hfit
    · simpa only [Tables.answer, Tables.issueToken_of_absent hm] using hfit
  | useToken token now =>
    rcases t.exists_token token with hfree | ⟨id, row, hr, rfl⟩
    · simpa only [Tables.answer, Tables.useToken_of_free hfree] using hfit
    · simpa only [Tables.answer, h.useToken_of_row hr] using
        hfit.putToken ((hfit.token hr).used hcall.2)
  | revokeToken id => exact hfit.revokeToken id

end TablesFit
end PlayerAccounts.Sql
