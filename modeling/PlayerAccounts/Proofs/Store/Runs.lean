import Mathlib.Logic.Function.Basic
import PlayerAccounts.Proofs.Store.Calls
import PlayerAccounts.Service.Program
/-!
# Runs of calls

What holds after any sequence of calls to the store in memory, whoever makes them: the tables are sound,
and the two look-ups that take the first row they come across do not depend on the order in which they
come across the rows.
-/
namespace PlayerAccounts.Store
set_option autoImplicit false

open PlayerAccounts.Account
open PlayerAccounts.Service (Program)
open PlayerAccounts.Time (Instant)

/-! ## One call -/

namespace Tables

/-- Every call keeps the tables sound, whether it succeeds or fails. -/
theorem Sound.answer {t : Tables} (h : Sound t) (call : Call) : Sound (t.answer call).2 := by
  cases call with
  | addUser user =>
    by_cases hm : user.id ∈ t.users
    · simpa only [Tables.answer, addUser_of_known hm] using h
    · simpa only [Tables.answer, addUser_of_new hm] using h.putUser user
  | findUser id => exact h
  | amendUser id changes =>
    by_cases hm : id ∈ t.users
    · obtain ⟨user, hu⟩ := exists_lookup_of_mem hm
      simpa only [Tables.answer, h.amendUser_of_row hu] using h.putUser _
    · simpa only [Tables.answer, amendUser_of_absent hm] using h
  | removeUser id =>
    by_cases hm : id ∈ t.users
    · simpa only [Tables.answer, removeUser_of_mem hm] using h.without id
    · simpa only [Tables.answer, removeUser_of_absent hm] using h
  | setCredential c =>
    by_cases hm : c.userId ∈ t.users
    · by_cases hl : t.LoginFreeFor c.userId c.login
      · simpa only [Tables.answer, h.setCredential_of_free hm hl] using h.putCredential hm hl
      · simpa only [Tables.answer, h.setCredential_of_taken hm hl] using h
    · simpa only [Tables.answer, setCredential_of_absent hm] using h
  | credentialOfLogin login => exact h
  | credentialOfUser id => exact h
  | issueToken id token now =>
    by_cases hm : id ∈ t.users
    · by_cases hk : t.TokenFreeFor id token
      · simpa only [Tables.answer, h.issueToken_of_free hm hk] using
          h.putToken (SessionToken.issued id token now) hm hk le_rfl
      · simpa only [Tables.answer, h.issueToken_of_taken hm hk] using h
    · simpa only [Tables.answer, issueToken_of_absent hm] using h
  | useToken token now =>
    rcases t.exists_token token with hfree | ⟨id, row, hr, rfl⟩
    · simpa only [Tables.answer, useToken_of_free hfree] using h
    · simpa only [Tables.answer, h.useToken_of_row hr] using h.putUsed hr now
  | revokeToken id => exact h.revokeToken id

end Tables

/-! ## Scans in any order -/

/-- An order in which the rows are come across when a table is scanned. -/
structure ScanOrder where
  credentials : List Credential → List Credential
  tokens : List (String × SessionToken) → List (String × SessionToken)
  credentials_perm : ∀ rows, (credentials rows).Perm rows
  tokens_perm : ∀ rows, (tokens rows).Perm rows

namespace Tables

/-- The credential with a login that is come across first. -/
def credentialOfLoginIn (t : Tables) (order : ScanOrder) (login : String) :
    Except StoreError Credential :=
  match (order.credentials t.credentials.values).find? (·.login == login) with
  | some c => .ok c
  | none => .error (.notFound (loginNamed login))

/-- Records the use of a session token on the row that is come across first. -/
def useTokenIn (t : Tables) (order : ScanOrder) (token : String) (now : Instant) :
    Except StoreError SessionToken × Tables :=
  match (order.tokens t.tokens.toList).find? (·.2.token == token) with
  | some (id, row) =>
    let row := row.used now
    (.ok row, { t with tokens := t.tokens.insert id row })
  | none => (.error (.notFound tokenNamed), t)

/-- What a call yields, and the tables after it, when scans go through the rows in this order. -/
def answerIn (t : Tables) (order : ScanOrder) : (call : Call) → Except StoreError call.Answer × Tables
  | .credentialOfLogin login => (t.credentialOfLoginIn order login, t)
  | .useToken token now => t.useTokenIn order token now
  | call => t.answer call

/-- In sound tables no call depends on the order of the rows. -/
theorem Sound.answerIn {t : Tables} (h : Sound t) (order : ScanOrder) (call : Call) :
    t.answerIn order call = t.answer call := by
  cases call with
  | credentialOfLogin login =>
    have hf : (order.credentials t.credentials.values).find? (·.login == login) =
        t.credentials.values.find? (·.login == login) := by
      apply find?_of_perm (order.credentials_perm _)
      intro c hc d hd hl hm
      obtain ⟨id, hc⟩ := mem_values.mp hc
      obtain ⟨other, hd⟩ := mem_values.mp hd
      have he : d.login = c.login := (beq_iff_eq.mp hm).trans (beq_iff_eq.mp hl).symm
      rw [h.login_unique hd hc he, hc] at hd
      exact (Option.some.inj hd).symm
    rw [Tables.answerIn, credentialOfLoginIn, hf]
    rfl
  | useToken token now =>
    have hf : (order.tokens t.tokens.toList).find? (·.2.token == token) =
        t.tokens.toList.find? (·.2.token == token) := by
      apply find?_of_perm (order.tokens_perm _)
      rintro ⟨id, row⟩ hr ⟨other, found⟩ hg hk hm
      rw [Std.ExtTreeMap.mem_toList_iff_getElem?_eq_some] at hr hg
      have he : found.token = row.token := (beq_iff_eq.mp hm).trans (beq_iff_eq.mp hk).symm
      have hid : other = id := h.token_unique hg hr he
      rw [hid, hr] at hg
      rw [hid, Option.some.inj hg]
    rw [Tables.answerIn, useTokenIn, hf]
    rfl
  | _ => rfl

/-- The tables after calls, each of which scans in an order of its own. -/
def afterIn (t : Tables) : List (ScanOrder × Call) → Tables
  | [] => t
  | (order, call) :: calls => (t.answerIn order call).2.afterIn calls

theorem Sound.afterIn {t : Tables} (h : Sound t) (calls : List (ScanOrder × Call)) :
    Sound (t.afterIn calls) := by
  induction calls generalizing t with
  | nil => exact h
  | cons step calls ih =>
    obtain ⟨order, call⟩ := step
    apply ih
    rw [h.answerIn order call]
    exact h.answer call

end Tables

/-! ## Callers who take turns -/

/-- Callers who share the tables, each with the program that is left to run. -/
structure Shared {ι : Type} (α : ι → Type) where
  callers : (i : ι) → Program (α i)
  tables : Tables

namespace Shared
variable {ι : Type} [DecidableEq ι] {α : ι → Type}

/-- The turn of one caller, who makes the next call or notes the next event. A call is one unit: the
tables belong to the caller as long as it takes. -/
def turn (s : Shared α) (i : ι) : Shared α :=
  match s.callers i with
  | .done _ => s
  | .ask call next =>
    let (answer, tables) := s.tables.answer call
    ⟨Function.update s.callers i (next answer), tables⟩
  | .note _ next => { s with callers := Function.update s.callers i next }

/-- The callers and the tables after these turns. -/
def afterTurns (s : Shared α) (turns : List ι) : Shared α := turns.foldl turn s

theorem sound_turn {s : Shared α} (h : s.tables.Sound) (i : ι) : (s.turn i).tables.Sound := by
  rw [turn]
  cases s.callers i with
  | done a => exact h
  | ask call next => exact h.answer call
  | note event next => exact h

theorem sound_afterTurns {s : Shared α} (h : s.tables.Sound) (turns : List ι) :
    (s.afterTurns turns).tables.Sound := by
  induction turns generalizing s with
  | nil => exact h
  | cons i turns ih => exact ih (sound_turn h i)

end Shared

/-! ## The result -/

/-- Whatever calls are made, one caller's or several callers' in turns, and in whatever orders tables are
scanned: the tables keep their constraints, and what the next call yields and leaves behind does not
depend on the order of the rows. -/
theorem runs_sound_in_every_order (calls : List (ScanOrder × Call)) {ι : Type} [DecidableEq ι]
    {α : ι → Type} (callers : (i : ι) → Program (α i)) (turns : List ι) (order : ScanOrder)
    (call : Call) :
    let t := Tables.empty.afterIn calls
    let shared := (Shared.mk callers Tables.empty).afterTurns turns
    (t.Sound ∧ t.answerIn order call = t.answer call) ∧
      shared.tables.Sound ∧ shared.tables.answerIn order call = shared.tables.answer call := by
  have ht : (Tables.empty.afterIn calls).Sound := Tables.Sound.empty.afterIn calls
  have hs := Shared.sound_afterTurns (s := Shared.mk callers Tables.empty) Tables.Sound.empty turns
  exact ⟨⟨ht, ht.answerIn order call⟩, hs, hs.answerIn order call⟩

end PlayerAccounts.Store
