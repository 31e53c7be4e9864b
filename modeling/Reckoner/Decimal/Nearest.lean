import Reckoner.Decimal.Double

namespace Reckoner.Decimal.Double

/-- The unit in the last place of a double near `num / den`, as a power of two. -/
def unitPlace (num den : Nat) : Int :=
  let guess : Int := (num.log2 : Int) - den.log2 - 53
  let (n, d) := inUnits 2 num den guess
  max leastExponent (if Nat.pow 2 53 ≤ n / d then guess + 1 else guess)

/-- ±num / den as a double, a tie going to the even mantissa. Everything is exact arithmetic on naturals, so the
result is correctly rounded over the whole range. -/
def nearest (negative : Bool) (num den : Nat) : Double :=
  if num = 0 then .finite negative 0 leastExponent
  else
    let place := unitPlace num den
    let (n, d) := inUnits 2 num den place
    let m := roundDiv n d
    let (m, place) := if m = Nat.pow 2 53 then (Nat.pow 2 52, place + 1) else (m, place)
    if 971 < place then .infinite negative else .finite negative m place

/-- ±digits · 10 ^ place as a double. Powers that lie far out of range are not computed. -/
def ofDecimal (negative : Bool) (digits : Nat) (place : Int) : Double :=
  let leading := place + digitCount digits
  if digits = 0 || leading < -400 then .finite negative 0 leastExponent
  else if 400 < leading then .infinite negative
  else nearest negative (digits * (power 10 place).1) (power 10 place).2

/-- The double nearest to a whole number. -/
def ofInt (n : Int) : Double :=
  nearest (n < 0) n.natAbs 1

example : nearest false 1 10 = ofFloat 0.1 := by decide +kernel
example : ofDecimal false 5 (-324) = .finite false 1 (-1074) := by decide +kernel
example : ofDecimal true 1 400 = .infinite true := by decide +kernel

end Reckoner.Decimal.Double
