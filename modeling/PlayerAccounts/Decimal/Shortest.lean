/-!
# The shortest decimal of a binary fraction

A finite 64-bit float is `mantissa · 2^exponent`. Its text has the fewest decimal digits that read
back to it and, among the decimals with that many digits, the nearest one. All arithmetic is on
natural numbers.
-/
namespace PlayerAccounts.Decimal
set_option autoImplicit false

/-! ## The value and its neighbourhood -/

structure Ratio where
  num : Nat
  den : Nat

def Ratio.scaled (n : Nat) (exponent : Int) : Ratio :=
  if 0 ≤ exponent then ⟨n * Nat.pow 2 exponent.toNat, 1⟩
  else ⟨n, Nat.pow 2 (-exponent).toNat⟩

/-- A finite binary float without its sign. -/
structure Binary where
  mantissa : Nat
  exponent : Int
  /-- The distance to the next smaller float is half of the distance to the next larger one. -/
  atBoundary : Bool

/-- The magnitude of a finite float. -/
def Binary.ofBits (bits : UInt64) : Binary :=
  let fraction : Nat := bits.toNat % 0x10000000000000
  let field : Nat := bits.toNat / 0x10000000000000 % 0x800
  if field == 0 then ⟨fraction, -1074, false⟩
  else ⟨fraction + 0x10000000000000, Int.ofNat field - 1075, fraction == 0 && field != 1⟩

/-- A decimal fraction `digits · 10^exponent`. -/
structure Fraction where
  digits : Nat
  exponent : Int

def Fraction.ratio (d : Fraction) : Ratio :=
  if 0 ≤ d.exponent then ⟨d.digits * Nat.pow 10 d.exponent.toNat, 1⟩
  else ⟨d.digits, Nat.pow 10 (-d.exponent).toNat⟩

/-- Whether a decimal reads back to the float: it lies between the midpoints to both neighbours, and
may be a midpoint if the mantissa is even. -/
def Binary.contains (b : Binary) (d : Fraction) : Bool :=
  let low := Ratio.scaled (4 * b.mantissa - if b.atBoundary then 1 else 2) (b.exponent - 2)
  let high := Ratio.scaled (4 * b.mantissa + 2) (b.exponent - 2)
  let r := d.ratio
  if b.mantissa % 2 == 0 then
    low.num * r.den ≤ r.num * low.den && r.num * high.den ≤ high.num * r.den
  else low.num * r.den < r.num * low.den && r.num * high.den < high.num * r.den

/-! ## The grid of each length -/

def digitCount (n : Nat) : Nat := (Nat.toDigits 10 n).length

/-- The exponent `e` with `10^e ≤ r < 10^(e+1)`. -/
def Ratio.magnitude (r : Ratio) : Int :=
  if r.den ≤ r.num then digitCount (r.num / r.den) - 1
  else -(digitCount ((r.den - 1) / r.num) : Int)

/-- The distance of a decimal from a fraction, times both denominators. -/
def Ratio.distance (r : Ratio) (d : Fraction) : Nat :=
  let s := d.ratio
  max (r.num * s.den) (s.num * r.den) - min (r.num * s.den) (s.num * r.den)

/-- The best decimal with this many digits, if one reads back. Of two equally near ones the even one
is taken. -/
def Binary.onGrid? (b : Binary) (length : Nat) : Option Fraction :=
  let r := Ratio.scaled b.mantissa b.exponent
  let exponent := r.magnitude - length + 1
  let quotient :=
    if 0 ≤ exponent then r.num / (r.den * Nat.pow 10 exponent.toNat)
    else r.num * Nat.pow 10 (-exponent).toNat / r.den
  let below : Fraction := ⟨quotient, exponent⟩
  let above : Fraction := ⟨quotient + 1, exponent⟩
  match b.contains below, b.contains above with
  | true, true =>
    if r.distance below < r.distance above then some below
    else if r.distance above < r.distance below then some above
    else some (if quotient % 2 == 0 then below else above)
  | true, false => some below
  | false, true => some above
  | false, false => none

/-- The shortest decimal: the first length whose grid has a decimal that reads back. -/
def Binary.shortest (b : Binary) : Fraction :=
  ((List.range 17).findSome? fun n => b.onGrid? (n + 1)).getD ⟨b.mantissa, 0⟩

/-! ## Its text -/

/-- A decimal with a point: digits before it, then the others. -/
def pointed (digits : List Char) (before : Int) : List Char :=
  if before ≤ 0 then '0' :: '.' :: List.replicate (-before).toNat '0' ++ digits
  else
    let whole := digits.take before.toNat
    let rest := digits.drop before.toNat
    whole ++ List.replicate (before.toNat - digits.length) '0' ++
      '.' :: (if rest.isEmpty then ['0'] else rest)

/-- Decimals from `10^-5` up to below `10^16` are written with a point and at least one digit after it,
others with one digit before the point and a signed exponent. -/
def Fraction.text (d : Fraction) : List Char :=
  let digits := ((Nat.toDigits 10 d.digits).reverse.dropWhile (· == '0')).reverse
  let magnitude := d.exponent + digitCount d.digits - 1
  if -5 ≤ magnitude && magnitude ≤ 15 then pointed digits (magnitude + 1)
  else
    let tail := digits.drop 1
    digits.take 1 ++ (if tail.isEmpty then [] else '.' :: tail) ++
      'e' :: (if magnitude < 0 then '-' else '+') :: Nat.toDigits 10 magnitude.natAbs

def shortest (x : Float) : String :=
  let bits := x.toBits
  let sign := if bits.toNat / 0x8000000000000000 == 1 then ['-'] else []
  let b := Binary.ofBits bits
  String.ofList (sign ++ if b.mantissa == 0 then ['0', '.', '0'] else b.shortest.text)

end PlayerAccounts.Decimal
