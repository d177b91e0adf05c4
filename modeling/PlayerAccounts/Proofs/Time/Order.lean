import Mathlib.Order.Defs.LinearOrder
import PlayerAccounts.Time.Instant
/-!
# The order of instants

Instants are compared by second and then by nanosecond, and any two can be compared.
-/
namespace PlayerAccounts.Time.Instant
set_option autoImplicit false

theorem le_def (a b : Instant) :
    a ≤ b ↔ a.second < b.second ∨ a.second = b.second ∧ a.nanos ≤ b.nanos := Iff.rfl

/-- The order that is there, as a linear one; the instances from which it is built stay preferred. -/
instance (priority := low) : LinearOrder Instant where
  le_refl a := by
    rw [le_def]
    omega
  le_trans a b c hab hbc := by
    rw [le_def] at *
    omega
  le_antisymm a b hab hba := by
    rw [le_def] at *
    apply Instant.ext <;> omega
  le_total a b := by
    rw [le_def, le_def]
    omega
  toDecidableLE := inferInstance
  max_def _ _ := rfl

end PlayerAccounts.Time.Instant
