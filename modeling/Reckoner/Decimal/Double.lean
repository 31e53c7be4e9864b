import Reckoner.Decimal.Rounding

namespace Reckoner.Decimal

/-- `finite negative m e` is ±m · 2 ^ e. The two zeros differ in their sign. -/
inductive Double where
  | nan
  | infinite (negative : Bool)
  | finite (negative : Bool) (mantissa : Nat) (exponent : Int)
  deriving DecidableEq, Repr

namespace Double

/-- The least exponent: that of the subnormal doubles. -/
def leastExponent : Int := -1074

/-- The word of a double: sign, eleven exponent bits, and the mantissa without its leading bit. -/
def ofBits (word : Nat) : Double :=
  let negative := word / Nat.pow 2 63 % 2 == 1
  let exponent : Nat := word / Nat.pow 2 52 % Nat.pow 2 11
  let fraction := word % Nat.pow 2 52
  if exponent = 2047 then (if fraction = 0 then .infinite negative else .nan)
  else if exponent = 0 then .finite negative fraction leastExponent
  else .finite negative (Nat.pow 2 52 + fraction) ((exponent : Int) - 1075)

def toBits : Double → Nat
  | .nan => 0x7FF8000000000000
  | .infinite negative => negative.toNat * Nat.pow 2 63 + 2047 * Nat.pow 2 52
  | .finite negative m e =>
    negative.toNat * Nat.pow 2 63 +
      (if m < Nat.pow 2 52 then m else (e + 1075).toNat * Nat.pow 2 52 + (m - Nat.pow 2 52))

def ofFloat (x : Float) : Double :=
  ofBits x.toBits.toNat

def toFloat (x : Double) : Float :=
  Float.ofBits x.toBits.toUInt64

def zero : Double := .finite false 0 leastExponent

/-- The same number without a sign on zero. -/
def unsignZero : Double → Double
  | .finite negative m e => .finite (negative && m != 0) m e
  | x => x

def isFinite : Double → Bool
  | .finite .. => true
  | _ => false

/-- The magnitude of a finite double as a quotient of naturals. -/
def quotient (m : Nat) (e : Int) : Nat × Nat :=
  (m * (power 2 e).1, (power 2 e).2)

/-- The whole number that a double denotes, if it denotes one. -/
def toInt? : Double → Option Int
  | .finite negative m e =>
    let (num, den) := quotient m e
    if num % den = 0 then some (if negative then -(num / den : Nat) else (num / den : Nat)) else none
  | _ => none

example : ofFloat 1.0 = .finite false (Nat.pow 2 52) (-52) := by decide
example : ofFloat (-0.0) = .finite true 0 (-1074) := by decide

end Double

end Reckoner.Decimal
