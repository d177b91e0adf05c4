import Mathlib.Tactic.TFAE
import PlayerAccounts.Api.Requests
import PlayerAccounts.Proofs.Json.Records
import PlayerAccounts.Proofs.Sql.Calls
import PlayerAccounts.Proofs.Sql.Coding
/-!
# Requests for nothing

A request for an update becomes a changeset. One that asks for nothing is written as a document without
members, its changeset leaves every user as it is, and a database is only asked for the row, since an update
without assignments would not be a statement. All of this is so for no other request.
-/
namespace PlayerAccounts.Sql
set_option autoImplicit false

open PlayerAccounts.Account
open PlayerAccounts.Json

/-! ## Documents -/

theorem encode_changes_eq_braces_iff {r : UserUpdate} :
    Api.changes.encode r = "\x7b\x7d" ↔ r.changes.isEmpty = true := by
  refine encode_record_eq_braces_iff.trans (Iff.trans ?_ isEmpty_iff_carriedBy.symm)
  simp only [carriedBy_changes]
  constructor
  · rintro ⟨hemail, hconfirmed, hactive, hcrystals, hdouble, hexperience, hpremium, -⟩ f
    cases f with
    | email => exact Option.isNone_iff_eq_none.mp hemail
    | emailConfirmed => exact Option.isNone_iff_eq_none.mp hconfirmed
    | active => exact Option.isNone_iff_eq_none.mp hactive
    | crystals => exact Option.isNone_iff_eq_none.mp hcrystals
    | doubleCrystals => exact Option.isNone_iff_eq_none.mp hdouble
    | experience => exact Option.isNone_iff_eq_none.mp hexperience
    | premium => exact Option.isNone_iff_eq_none.mp hpremium
  · intro hnone
    have hsilent : ∀ f : UserField, (f.askedIn r).isNone = true := fun f =>
      Option.isNone_iff_eq_none.mpr (hnone f)
    exact ⟨hsilent .email, hsilent .emailConfirmed, hsilent .active, hsilent .crystals,
      hsilent .doubleCrystals, hsilent .experience, hsilent .premium, trivial⟩

/-! ## Statements -/

theorem amendUser_of_isEmpty {c : Changes} (h : c.isEmpty = true) (id : String) :
    amendUser id c = findUser id := if_pos h

theorem amendUser_of_not_isEmpty {c : Changes} (h : ¬ c.isEmpty = true) (id : String) :
    assignments c ≠ [] ∧ (amendUser id c).run = .send (.update .user (assignments c) id) fun reply =>
      .done (foundRow (Store.userNamed id) readUser reply) := by
  refine ⟨fun hn => h (beq_iff_eq.mpr (eq_none_of_assignments hn)), ?_⟩
  rw [amendUser, if_neg h, run_lookedUp]

theorem amendUser_eq_findUser_iff {c : Changes} (id : String) :
    amendUser id c = findUser id ↔ c.isEmpty = true := by
  refine ⟨fun hsame => ?_, fun h => amendUser_of_isEmpty h id⟩
  by_contra h
  -- The first statements are different already.
  have hrun : (amendUser id c).run = (findUser id).run := congrArg ExceptT.run hsame
  rw [(amendUser_of_not_isEmpty h id).2, findUser, run_lookedUp] at hrun
  cases (Query.send.inj hrun).1

/-! ## The result -/

/-- Of requests that are carried out one after the other the last one that asks for something in a field
decides, and one changeset that carries of each field what the last one asks for does the same. A request
asks for nothing if and only if its changeset is empty, if and only if this leaves every user as it is, if
and only if the document of the request has no members, and if and only if the database is only asked for the
row; otherwise it is sent an update with something to assign. -/
theorem last_changes_win_and_empty_ones_do_nothing :
    (∀ (u : User) (rs : List UserUpdate),
      Overwritten u rs (u.applyAll (rs.map UserUpdate.changes)) ∧
        u.apply (Changes.merged (rs.map UserUpdate.changes)) = u.applyAll (rs.map UserUpdate.changes) ∧
        ∀ (f : UserField) (content : f.Content),
          f.carriedBy (Changes.merged (rs.map UserUpdate.changes)) = some content ↔
            f.LastAskedIn rs content) ∧
    ∀ r : UserUpdate,
      List.TFAE [r.isEmpty = true, r.changes.isEmpty = true, ∀ u : User, u.apply r.changes = u,
        Api.changes.encode r = "\x7b\x7d", ∀ id, amendUser id r.changes = findUser id,
        ∃ id, amendUser id r.changes = findUser id] ∧
      (r.changes.isEmpty = false → ∀ id, assignments r.changes ≠ [] ∧ ∃ next,
        (amendUser id r.changes).run = .send (.update .user (assignments r.changes) id) next) := by
  refine ⟨fun u rs => ⟨overwritten_applyAll u rs, u.apply_merged _, fun f content =>
    carriedBy_merged_iff.trans lastCarriedBy_changes⟩, fun r => ⟨?_, fun h id => ?_⟩⟩
  · tfae_have 1 ↔ 2 := isEmpty_changes_iff.symm
    tfae_have 2 ↔ 3 := isEmpty_iff_apply
    tfae_have 4 ↔ 2 := encode_changes_eq_braces_iff
    tfae_have 2 → 5 := fun h id => amendUser_of_isEmpty h id
    tfae_have 5 → 6 := fun h => ⟨"", h ""⟩
    tfae_have 6 → 2 := fun ⟨id, h⟩ => (amendUser_eq_findUser_iff id).mp h
    tfae_finish
  · obtain ⟨hne, hrun⟩ := amendUser_of_not_isEmpty (Bool.not_eq_true _ ▸ h) id
    exact ⟨hne, _, hrun⟩

end PlayerAccounts.Sql
