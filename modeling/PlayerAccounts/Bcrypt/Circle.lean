/-!
# Digits of the circle constant

The binary digits of π behind its point, in words of 32 bits, by Machin's formula
`π/4 = 4·arctan(1/5) − arctan(1/239)`.
-/
namespace PlayerAccounts.Bcrypt
set_option autoImplicit false

/-- Terms of the series of the arc tangent of `1/x` from the term with the odd number `k` on, where
`power` is the unit divided by `x^k`: added if positive, subtracted otherwise. -/
def arctanTerms (x : Nat) : Nat → Nat → Nat → Bool → Int → Int
  | 0, _, _, _, sum => sum
  | terms + 1, power, k, positive, sum =>
    if power = 0 then sum
    else
      let term : Int := Int.ofNat (power / k)
      arctanTerms x terms (power / (x * x)) (k + 2) (!positive)
        (if positive then sum + term else sum - term)

/-- The arc tangent of `1/x` in parts of `2^bits`. -/
def arctanInverse (x bits : Nat) : Int := arctanTerms x bits (Nat.pow 2 bits / x) 1 true 0

/-- Bits beyond the wanted ones, against rounding. -/
def guardBits : Nat := 64

/-- The binary digits of π behind its point, as a number. -/
def circleFraction (bits : Nat) : Nat :=
  let unit := bits + guardBits
  (4 * (4 * arctanInverse 5 unit - arctanInverse 239 unit)).toNat % Nat.pow 2 unit /
    Nat.pow 2 guardBits

/-- The first words of π behind its point. -/
def circleWords (count : Nat) : Array UInt32 :=
  let fraction := circleFraction (32 * count)
  (Array.range count).map fun i => UInt32.ofNat (fraction >>> (32 * (count - 1 - i)))

end PlayerAccounts.Bcrypt
