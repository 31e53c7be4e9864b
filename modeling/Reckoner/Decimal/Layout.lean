import Reckoner.Decimal.Shortest

namespace Reckoner.Decimal

/-- Which exponents are written positionally, and the least width of a written exponent. -/
structure Layout where
  leastPositional : Int
  firstScientific : Int
  exponentWidth : Nat

/-- The layout in which every value is shown. -/
def Layout.plain : Layout := ⟨-4, 16, 2⟩

def zeros (n : Nat) : String :=
  String.ofList (List.replicate n '0')

/-- A number with zeros before it up to a width. -/
def padded (width n : Nat) : String :=
  let digits := toString n
  zeros (width - digits.length) ++ digits

def exponentText (width : Nat) (exponent : Int) : String :=
  (if exponent < 0 then "e-" else "e+") ++ padded width exponent.natAbs

/-- Digits with a point behind the first of them. -/
def pointed (digits : String) : String :=
  match digits.toList with
  | [] => ""
  | [d] => String.ofList [d]
  | d :: rest => String.ofList (d :: '.' :: rest)

/-- Digits with a point at their place, and `.0` behind a whole number. -/
def positional (digits : String) (place : Int) : String :=
  match place with
  | .ofNat k => digits ++ zeros k ++ ".0"
  | .negSucc k =>
    let fraction := k + 1
    if fraction < digits.length then
      let whole := digits.length - fraction
      String.ofList (digits.toList.take whole ++ '.' :: digits.toList.drop whole)
    else "0." ++ zeros (fraction - digits.length) ++ digits

def Layout.write (layout : Layout) (d : Numeral) : String :=
  let digits := toString d.digits
  let leading := d.place + digits.length - 1
  if layout.leastPositional ≤ leading && leading < layout.firstScientific then
    positional digits d.place
  else pointed digits ++ exponentText layout.exponentWidth leading

namespace Double

/-- The fewest digits that read back; the names of the values that are not finite differ by format. -/
def textWith (nan infinity : String) : Double → String
  | .nan => nan
  | .infinite negative => (if negative then "-" else "") ++ infinity
  | .finite negative m e => (if negative then "-" else "") ++ Layout.plain.write (shortest m e)

/-- A double with the fewest digits that read back, positionally for leading digits from 10⁻⁴ to 10¹⁵ and with an
exponent beyond. -/
def text (x : Double) : String :=
  x.textWith "nan" "inf"

end Double

/-- A positive quotient to a number of digits, a tie going to even, and the leading exponent. -/
def significant (count num den : Nat) : Nat × Int :=
  let leading := leadingPlace num den
  let (n, d) := inUnits 10 num den (leading - count + 1)
  let digits := roundDiv n d
  if digits = Nat.pow 10 count then (Nat.pow 10 (count - 1), leading + 1) else (digits, leading)

/-- `d.dddd` and an exponent with its sign and without zeros before it. -/
def scientific (count : Nat) (negative : Bool) (num den : Nat) : String :=
  let (digits, leading) := significant count num den
  (if negative then "-" else "") ++ pointed (toString digits) ++ exponentText 1 leading

end Reckoner.Decimal
