import Reckoner.Decimal.Layout
import Reckoner.Decimal.Nearest

namespace Reckoner.Arithmetic

open Reckoner.Decimal

/-- Is one quotient of naturals less than another? -/
def lessThan (x y : Nat × Nat) : Bool :=
  x.1 * y.2 < y.1 * x.2

/-- The least magnitude that is shown without an exponent: the double nearest to a ten-thousandth. -/
def smallest : Nat × Nat :=
  match Double.nearest false 1 10000 with
  | .finite _ m e => Double.quotient m e
  | _ => (0, 1)

/-- The greatest magnitude that is shown without an exponent. -/
def greatest : Nat × Nat := (Nat.pow 10 10, 1)

def decimals : Nat := 6

def significantDigits : Nat := 5

/-- The double nearest to a quotient rounded to six decimals. -/
def roundedDecimals (negative : Bool) (q : Nat × Nat) : Double :=
  Double.nearest negative (roundDiv (q.1 * Nat.pow 10 decimals) q.2) (Nat.pow 10 decimals)

/-- ±m · 2 ^ e as it is shown. -/
def displayFinite (negative : Bool) (m : Nat) (e : Int) : String :=
  let q := Double.quotient m e
  if m ≠ 0 && (lessThan q smallest || lessThan greatest q) then
    scientific significantDigits negative q.1 q.2
  else
    let rounded := roundedDecimals negative q
    match rounded.toInt? with
    | some n => toString n
    | none => rounded.text

/-- A double as it is shown; an infinity is not. -/
def display? : Double → Option String
  | .nan => some "nan"
  | .infinite _ => none
  | .finite negative m e => some (displayFinite negative m e)

example : displayFinite true 0 (-1074) = "0" := by decide +kernel
example : (display? (Double.nearest false 1 3)) = some "0.333333" := by decide +kernel

end Reckoner.Arithmetic
