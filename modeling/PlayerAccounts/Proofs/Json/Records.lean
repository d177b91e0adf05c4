import Mathlib.Data.List.Basic
import PlayerAccounts.Json.Document
import PlayerAccounts.Proofs.Json.Leaves
/-!
# Written records are read back

A record is written as an object with the members that are not silent. Each member is read into the place of
its field, and a place that stays empty belongs to a silent value, for which the field has the same value to
fall back on.
-/
namespace PlayerAccounts.Json
set_option autoImplicit false

open PlayerAccounts.Text

/-! ## Fields -/

section Field
variable {α : Type} {name : String} {codec : Codec α}

end Field

/-! ## Members -/

/-- The names and values that are written. -/
def membersOf : (fs : List Field) → Values fs → List (String × List Char)
  | [], _ => []
  | f :: fs, (v, vs) => if f.isSilent v then membersOf fs vs else (f.name, f.codec.write v) :: membersOf fs vs

theorem writeFields_eq (fs : List Field) (vs : Values fs) :
    writeFields fs vs = (membersOf fs vs).map Document.writeMember := by
  induction fs with
  | nil => rfl
  | cons f fs ih =>
    obtain ⟨v, vs⟩ := vs
    rw [writeFields, membersOf]
    split
    · exact ih vs
    · rw [List.map_cons, ih vs]
      rfl

/-- None of the values is written. -/
def AllSilent : (fs : List Field) → Values fs → Prop
  | [], _ => True
  | f :: fs, (v, vs) => f.isSilent v = true ∧ AllSilent fs vs

theorem membersOf_eq_nil_iff {fs : List Field} {vs : Values fs} : membersOf fs vs = [] ↔ AllSilent fs vs := by
  induction fs with
  | nil => exact iff_of_true rfl trivial
  | cons f fs ih =>
    obtain ⟨v, vs⟩ := vs
    rw [membersOf, AllSilent]
    split
    case isTrue hsilent => exact ih.trans (iff_and_self.mpr fun _ => hsilent)
    case isFalse hsilent => exact iff_of_false (List.cons_ne_nil _ _) fun h => hsilent h.1

section Takes
variable {f : Field} {fs : List Field}

end Takes

theorem commaSeparated_cons (item : List Char) (items : List (List Char)) :
    commaSeparated (item :: items) = item ++ items.flatMap fun item => ',' :: item := by
  induction items generalizing item with
  | nil => exact (List.append_nil item).symm
  | cons next items ih =>
    rw [commaSeparated, ih next, List.flatMap_cons]
    · rfl
    · exact List.cons_ne_nil _ _

/-- Members behind other ones. -/
def behind (members : List (String × List Char)) : Source :=
  glyphs ((members.map Document.writeMember).flatMap fun item => ',' :: item)

section Members
variable {fs : List Field} {isStrict : Bool}

end Members

/-! ## Records -/

theorem length_le_flatMap (items : List (List Char)) :
    items.length ≤ (items.flatMap fun item => ',' :: item).length := by
  induction items with
  | nil => exact Nat.le_refl 0
  | cons item items ih =>
    rw [List.flatMap_cons, List.length_append, List.length_cons, List.length_cons]
    omega

theorem length_le_commaSeparated (members : List (String × List Char)) :
    members.length ≤ (commaSeparated (members.map Document.writeMember)).length := by
  cases members with
  | nil => exact Nat.zero_le _
  | cons member members =>
    have hle := length_le_flatMap (members.map Document.writeMember)
    have hmember : 0 < (Document.writeMember member).length := Nat.succ_pos _
    rw [List.length_map] at hle
    rw [List.map_cons, commaSeparated_cons, List.length_append, List.length_cons]
    omega

section Record
variable {α : Type} {name : String} {fs : List Field} {isStrict : Bool} {toValues : α → Values fs}
  {ofValues : Values fs → α}

/-- The documents without members are those of records whose values are all silent. -/
theorem encode_record_eq_braces_iff {a : α} :
    (record name fs isStrict toValues ofValues).encode a = "\x7b\x7d" ↔ AllSilent fs (toValues a) := by
  have hdocument : (record name fs isStrict toValues ofValues).encode a =
      String.ofList ('\x7b' :: commaSeparated (writeFields fs (toValues a)) ++ ['\x7d']) := rfl
  rw [hdocument, writeFields_eq, ← membersOf_eq_nil_iff]
  refine ⟨fun hbraces => ?_, fun hnil => by rw [hnil]; rfl⟩
  have hlist := congrArg (fun s : String => s.toList.length) hbraces
  have hlength : (commaSeparated ((membersOf fs (toValues a)).map Document.writeMember)).length + 2 = 2 := by
    simpa using hlist
  have hle := length_le_commaSeparated (membersOf fs (toValues a))
  exact List.eq_nil_of_length_eq_zero (by omega)

end Record
end PlayerAccounts.Json
