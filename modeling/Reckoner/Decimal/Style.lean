import Reckoner.Decimal.Layout

namespace Reckoner.Decimal

inductive Style where
  | fixed
  | exponent
  | general
  deriving DecidableEq, Repr

/-- Digits with a point before the last `decimals` of them. A point with nothing behind it is kept on
demand. -/
def pointBefore (keepPoint : Bool) (decimals : Nat) (digits : String) : String :=
  let whole := digits.toList.take (digits.length - decimals)
  let fraction := digits.toList.drop (digits.length - decimals)
  String.ofList (if fraction.isEmpty && !keepPoint then whole else whole ++ '.' :: fraction)

/-- A number without the zeros at the end of its decimals, nor a point with nothing behind it. -/
def trimFraction (s : String) : String :=
  if s.toList.contains '.' then
    String.ofList (((s.toList.reverse.dropWhile (· == '0')).dropWhile (· == '.')).reverse)
  else s

/-- The leading digits and their exponent; those of zero are zeros. -/
def leadingDigits (count num den : Nat) : String × Int :=
  if num = 0 then (zeros count, 0)
  else
    let (digits, leading) := significant count num den
    (toString digits, leading)

def Style.write (style : Style) (keepPoint : Bool) (precision num den : Nat) : String :=
  match style with
  | .fixed =>
    pointBefore keepPoint precision (padded (precision + 1) (roundDiv (num * Nat.pow 10 precision) den))
  | .exponent =>
    let (digits, leading) := leadingDigits (precision + 1) num den
    pointBefore keepPoint precision digits ++ exponentText Layout.plain.exponentWidth leading
  | .general =>
    let count := max 1 precision
    let (digits, leading) := leadingDigits count num den
    let trim (s : String) := if keepPoint then s else trimFraction s
    if Layout.plain.leastPositional ≤ leading && leading < count then
      let decimals := (count - 1 - leading).toNat
      trim (pointBefore keepPoint decimals (zeros (decimals + 1 - count) ++ digits))
    else
      trim (pointBefore keepPoint (count - 1) digits) ++
        exponentText Layout.plain.exponentWidth leading

example : Style.fixed.write false 2 1 3 = "0.33" := by decide +kernel
example : Style.exponent.write false 1 12345 1 = "1.2e+04" := by decide +kernel
example : Style.general.write false 6 1 4 = "0.25" := by decide +kernel
example : Style.general.write false 3 123456 1 = "1.23e+05" := by decide +kernel

end Reckoner.Decimal
