import PlayerAccounts.Time.Calendar
/-!
# Instants

A point in time in UTC: a second counted from 1970-01-01T00:00:00Z and nanoseconds within it. The
last second of a minute may hold up to two seconds of nanoseconds; the second half of them is a leap
second, which so comes after the second 59 and before the next minute.
-/
namespace PlayerAccounts.Time
set_option autoImplicit false

/-! ## The type -/

/-- The first second of the first year, -262143. -/
def firstSecond : Int := -8334601228800

/-- The last second of the last year, 262142. -/
def lastSecond : Int := 8210266876799

def nanosPerSecond : Nat := 1000000000

def secondsPerDay : Nat := 86400

/-- An instant of the years -262143 to 262142. -/
@[ext] structure Instant where
  second : Int
  nanos : Nat
  first_le : firstSecond ≤ second
  le_last : second ≤ lastSecond
  nanos_lt : nanos < 2 * nanosPerSecond
  leap_at_59 : nanosPerSecond ≤ nanos → second % 60 = 59
deriving DecidableEq, Repr

namespace Instant

/-- The instant with these parts, if there is one. -/
def ofParts? (second : Int) (nanos : Nat) : Option Instant :=
  if h : (firstSecond ≤ second ∧ second ≤ lastSecond) ∧
      nanos < 2 * nanosPerSecond ∧ (nanosPerSecond ≤ nanos → second % 60 = 59) then
    some ⟨second, nanos, h.1.1, h.1.2, h.2.1, h.2.2⟩
  else none

/-- 1970-01-01T00:00:00Z. -/
def epoch : Instant := ⟨0, 0, by decide, by decide, by decide, by decide⟩

instance : Inhabited Instant := ⟨epoch⟩

/-! ## Order -/

/-- Earlier or equal: by second, then by nanoseconds. -/
protected def le (a b : Instant) : Prop :=
  a.second < b.second ∨ a.second = b.second ∧ a.nanos ≤ b.nanos

instance : LE Instant := ⟨Instant.le⟩

instance (a b : Instant) : Decidable (a ≤ b) := inferInstanceAs (Decidable (_ ∨ _ ∧ _))

instance : Max Instant := maxOfLe

/-! ## Civil time -/

def date (t : Instant) : Date := Date.ofDays (t.second / secondsPerDay)

def secondOfDay (t : Instant) : Nat := (t.second % secondsPerDay).toNat

/-! ## Microseconds -/

/-- 2000-01-01T00:00:00Z, the origin of stored timestamps. -/
def storageOrigin : Int := 946684800

/-- Microseconds from the origin of stored timestamps, cut toward it. -/
def toMicros (t : Instant) : Int :=
  ((t.second - storageOrigin) * nanosPerSecond + t.nanos).tdiv 1000

/-- The instant of a stored timestamp, if it lies in the range of years. -/
def ofMicros? (micros : Int) : Option Instant :=
  ofParts? (micros / 1000000 + storageOrigin) ((micros % 1000000).toNat * 1000)

end Instant
end PlayerAccounts.Time
