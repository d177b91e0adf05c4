import Mathlib.Order.MinMax
import PlayerAccounts.Proofs.Store.Writes
/-!
# The last use of a session token

A session token remembers when it was last used: the latest of the time of its issue and of all its uses
since. Clocks may be wrong in either direction and anything may happen to the other users meanwhile; the
order of the uses does not matter.
-/
namespace PlayerAccounts.Store
set_option autoImplicit false

open PlayerAccounts.Account
open PlayerAccounts.Time (Instant)

/-! ## Uses -/

/-- The clock reading of a call that uses the token. -/
def Call.useOf? (token : String) : Call → Option Instant
  | .useToken other now => if other = token then some now else none
  | _ => none

/-- The clock readings of all calls that use the token, in their order. -/
def usesOf (token : String) (calls : List Call) : List Instant := calls.filterMap (Call.useOf? token)

/-- A call that gives the user another session token, or takes the token away. -/
def Call.Retokens (id : String) : Call → Prop
  | .issueToken other _ _ | .revokeToken other | .removeUser other => other = id
  | _ => False

instance (id : String) : DecidablePred (Call.Retokens id)
  | .issueToken other _ _ | .revokeToken other | .removeUser other =>
    inferInstanceAs (Decidable (other = id))
  | .addUser _ | .findUser _ | .amendUser _ _ | .setCredential _ | .credentialOfLogin _
  | .credentialOfUser _ | .useToken _ _ => inferInstanceAs (Decidable False)

namespace Tables

/-- Calls made one after the other, none of which gives the user another session token or takes the token
away; it may be tried, as long as it is refused. -/
def KeepsToken (id : String) : Tables → List Call → Prop
  | _, [] => True
  | t, call :: calls =>
    (call.Retokens id → (t.answer call).1.isOk = false) ∧ KeepsToken id (t.answer call).2 calls

instance decidableKeepsToken (id : String) :
    (t : Tables) → (calls : List Call) → Decidable (t.KeepsToken id calls)
  | _, [] => .isTrue trivial
  | t, call :: calls =>
    have : Decidable (KeepsToken id (t.answer call).2 calls) := decidableKeepsToken id _ calls
    inferInstanceAs (Decidable (_ ∧ _))

variable {t : Tables} {id : String}

theorem KeepsToken.of_append {before rest : List Call} (hk : t.KeepsToken id (before ++ rest)) :
    t.KeepsToken id before ∧ (t.after before).KeepsToken id rest := by
  induction before generalizing t with
  | nil => exact ⟨trivial, hk⟩
  | cons call before ih => exact ⟨⟨hk.1, (ih hk.2).1⟩, (ih hk.2).2⟩

/-! ## One call -/

/-- The row of a token after these calls, as far as it is only used in them. -/
def usedIn (row : SessionToken) (calls : List Call) : SessionToken :=
  { row with lastUsed := (usesOf row.token calls).foldl max row.lastUsed }

theorem usedIn_of_ne {row : SessionToken} {token : String} (hne : token ≠ row.token) (now : Instant) :
    usedIn row [.useToken token now] = row := by
  rw [usedIn, usesOf, List.filterMap_cons, Call.useOf?, if_neg hne]
  rfl

theorem Sound.used_eq (h : t.Sound) {row : SessionToken} (hr : t.tokens[id]? = some row) (now : Instant) :
    row.used now = usedIn row [.useToken row.token now] := by
  have hle : row.created ≤ max now row.lastUsed := (h.created_le hr).trans (le_max_right _ _)
  rw [SessionToken.used, SessionToken.lastUsedAfter, max_eq_left hle, max_comm, usedIn, usesOf,
    List.filterMap_cons, Call.useOf?, if_pos rfl]
  rfl

theorem tokens_applyTo_of_ne {w : Write} (h : w.owner? ≠ some id) :
    (w.applyTo t).tokens[id]? = t.tokens[id]? :=
  congrArg Rows.token ((w.rowsOf_applyTo t id).trans (if_neg h))

theorem Sound.token_after_call (h : t.Sound) {call : Call} {row : SessionToken}
    (hr : t.tokens[id]? = some row) (hkept : call.Retokens id → (t.answer call).1.isOk = false) :
    (t.answer call).2.tokens[id]? = some (usedIn row [call]) := by
  obtain ⟨answer, w, hd⟩ := t.exists_done call
  rw [h.answer_of_done hd] at hkept ⊢
  cases hd with
  | tokenIssued | tokenRevoked | userRemoved =>
    -- These succeed, so they are for somebody else.
    refine (tokens_applyTo_of_ne ?_).trans hr
    exact fun ho => nomatch hkept (Option.some.inj ho)
  | @tokenUsed other found now hf =>
    by_cases he : other = id
    · obtain rfl := he
      obtain rfl := Option.some.inj (hf.symm.trans hr)
      rw [← h.used_eq hr]
      exact (tokens_putToken ..).trans (if_pos (h.token_id hr))
    · have howner : (Write.token (found.used now)).owner? ≠ some id := fun ho =>
        he ((h.token_id hf).symm.trans (Option.some.inj ho))
      rw [usedIn_of_ne fun htoken => he (h.token_unique hf hr htoken)]
      exact (tokens_applyTo_of_ne howner).trans hr
  | tokenMissing hfree =>
    rw [usedIn_of_ne fun htoken => hfree hr htoken.symm]
    exact hr
  | _ => exact hr

/-- Whoever uses the token is answered with the row that is stored then. -/
theorem Sound.answer_useToken (h : t.Sound) {row : SessionToken} (hr : t.tokens[id]? = some row)
    (now : Instant) :
    ∃ used, (t.answer (.useToken row.token now)).1 = .ok used ∧
      (t.answer (.useToken row.token now)).2.tokens[id]? = some used := by
  have hcall : t.answer (.useToken row.token now) = _ := h.useToken_of_row hr now
  rw [hcall]
  exact ⟨row.used now, rfl, (tokens_putToken ..).trans (if_pos (h.token_id hr))⟩

/-! ## Many calls -/

theorem usedIn_append (row : SessionToken) (calls more : List Call) :
    usedIn (usedIn row calls) more = usedIn row (calls ++ more) := by
  rw [usedIn, usedIn, usedIn, usesOf, usesOf, usesOf, List.filterMap_append, List.foldl_append]

theorem le_foldl_max (first : Instant) (uses : List Instant) : first ≤ uses.foldl max first := by
  induction uses generalizing first with
  | nil => exact le_rfl
  | cons now uses ih => exact (le_max_left first now).trans (ih (max first now))

theorem Sound.token_after (h : t.Sound) {calls : List Call} {row : SessionToken}
    (hr : t.tokens[id]? = some row) (hk : t.KeepsToken id calls) :
    (t.after calls).tokens[id]? = some (usedIn row calls) := by
  induction calls generalizing t row with
  | nil => exact hr
  | cons call calls ih =>
    have hnext := ih (h.answer call) (h.token_after_call hr hk.1) hk.2
    rwa [usedIn_append] at hnext

theorem Sound.token_of_issue (h : t.Sound) {token : String} {issued : Instant} {row : SessionToken}
    {start : Tables} (hissue : t.answer (.issueToken id token issued) = (.ok row, start)) :
    start.tokens[id]? = some (.issued id token issued) := by
  obtain ⟨answer, w, hd⟩ := t.exists_done (.issueToken id token issued)
  rw [h.answer_of_done hd] at hissue
  cases hd with
  | tokenIssued =>
    cases hissue
    exact (tokens_putToken ..).trans (if_pos rfl)
  | _ => cases hissue

end Tables

/-! ## The result -/

/-- A token that was issued, and what its row is while these calls are made. -/
structure UsedInAnyOrder (id token : String) (issued : Instant) (start : Tables) (calls : List Call) :
    Prop where
  /-- At any time the token was issued when it was, and last used at the latest of that time and the uses
  so far. -/
  row {before rest : List Call} : calls = before ++ rest → (start.after before).tokens[id]? =
    some ⟨id, issued, (usesOf token before).foldl max issued, token⟩
  /-- So the last use never moves back. -/
  never_back {before between rest : List Call} : calls = before ++ between ++ rest →
    ∃ earlier later, (start.after before).tokens[id]? = some earlier ∧
      (start.after (before ++ between)).tokens[id]? = some later ∧ earlier.lastUsed ≤ later.lastUsed
  /-- Other calls with the same uses in another order lead to the same row. -/
  any_order {others : List Call} : start.KeepsToken id others →
    (usesOf token others).Perm (usesOf token calls) →
    (start.after others).tokens[id]? = (start.after calls).tokens[id]?
  /-- Each use is answered with the row as it is stored. -/
  answered {before rest : List Call} {now : Instant} : calls = before ++ .useToken token now :: rest →
    ∃ used, ((start.after before).answer (.useToken token now)).1 = .ok used ∧
      (start.after (before ++ [.useToken token now])).tokens[id]? = some used

/-- After any calls a user is issued a token. While calls are made that neither give the user another one
nor take it away, the token was last used at the latest of its issue and its uses, in whatever order and
with whatever clock readings these come. -/
theorem uses_in_any_order (earlier : List Call) {id token : String} {issued : Instant} {row : SessionToken}
    {start : Tables}
    (hissue : (Tables.empty.after earlier).answer (.issueToken id token issued) = (.ok row, start))
    {calls : List Call} (hk : start.KeepsToken id calls) :
    UsedInAnyOrder id token issued start calls := by
  have hearlier : (Tables.empty.after earlier).Sound := Tables.Sound.empty.after earlier
  have h : start.Sound := by simpa only [hissue] using hearlier.answer (.issueToken id token issued)
  have hstart := hearlier.token_of_issue hissue
  have hrow {before rest : List Call} (hcalls : calls = before ++ rest) :=
    h.token_after hstart (hcalls ▸ hk).of_append.1
  constructor
  · exact hrow
  · intro before between rest hcalls
    refine ⟨_, _, hrow (hcalls.trans (List.append_assoc ..)), hrow hcalls, ?_⟩
    rw [← Tables.usedIn_append]
    exact Tables.le_foldl_max _ _
  · intro others hothers hperm
    have hsame : (usesOf token others).foldl max issued = (usesOf token calls).foldl max issued :=
      hperm.foldl_eq' (fun _ _ _ _ _ => max_right_comm ..) issued
    rw [h.token_after hstart hothers, h.token_after hstart hk]
    exact congrArg (fun last => some (SessionToken.mk id issued last token)) hsame
  · intro before rest now hcalls
    have hused := (h.after before).answer_useToken (hrow hcalls) now
    rwa [Tables.after_append]

/-- Ann has two uses with clocks that disagree. Meanwhile she is refused Bob's token, Bob is refused hers,
and Bob goes. -/
theorem anns_uses_in_any_order :
    let early : Instant := ⟨30, 0, by decide, by decide, by decide, by decide⟩
    let issued : Instant := ⟨60, 0, by decide, by decide, by decide, by decide⟩
    let late : Instant := ⟨90, 0, by decide, by decide, by decide, by decide⟩
    let earlier : List Call := [.addUser (User.fresh "ann" default none),
      .addUser (User.fresh "bob" default none), .issueToken "bob" "B" late]
    let start := ((Tables.empty.after earlier).answer (.issueToken "ann" "A" issued)).2
    let calls : List Call := [.useToken "A" late, .useToken "B" late, .issueToken "ann" "B" late,
      .issueToken "bob" "A" late, .removeUser "bob", .useToken "A" early]
    (Tables.empty.after earlier).answer (.issueToken "ann" "A" issued) =
        (.ok (.issued "ann" "A" issued), start) ∧
      start.KeepsToken "ann" calls ∧ UsedInAnyOrder "ann" "A" issued start calls ∧
      usesOf "A" calls = [late, early] ∧ [late, early].foldl max issued = late := by
  intro early issued late earlier start calls
  have hissue : (Tables.empty.after earlier).answer (.issueToken "ann" "A" issued) =
      (.ok (.issued "ann" "A" issued), start) := Prod.ext (by decide +kernel) rfl
  have hk : start.KeepsToken "ann" calls := by decide +kernel
  exact ⟨hissue, hk, uses_in_any_order earlier hissue hk, by decide +kernel, by decide +kernel⟩

end PlayerAccounts.Store
