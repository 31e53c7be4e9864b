import Reckoner.Decimal.Nearest
import Reckoner.Text.Blank
import Reckoner.Text.Digit

namespace Reckoner.Decimal

open Reckoner.Text

/-- An optional sign, and what follows it. -/
def takeSign : List Char → Bool × List Char
  | '-' :: rest => (true, rest)
  | '+' :: rest => (false, rest)
  | s => (false, s)

/-- The exponent that closes a literal: nothing, or `e` and a whole number. -/
def exponent? : List Char → Option Int
  | [] => some 0
  | e :: rest =>
    let (negative, digits) := takeSign rest
    if (e == 'e' || e == 'E') && !digits.isEmpty && digits.all isAsciiDigit then
      some (if negative then -(numberOf digits : Int) else numberOf digits)
    else none

/-- A literal without a sign, as digits and the place of the last of them. -/
def unsigned? (s : List Char) : Option (Nat × Int) :=
  let whole := s.takeWhile isAsciiDigit
  let (fraction, rest) := match s.dropWhile isAsciiDigit with
    | '.' :: rest => (rest.takeWhile isAsciiDigit, rest.dropWhile isAsciiDigit)
    | rest => ([], rest)
  if whole.isEmpty && fraction.isEmpty then none
  else (exponent? rest).map fun e => (numberOf (whole ++ fraction), e - fraction.length)

def literal? (s : List Char) : Option Double :=
  let (negative, body) := takeSign s
  (unsigned? body).map fun (digits, place) => Double.ofDecimal negative digits place

/-- Literals, and the names of the values that are not finite in any letter case. -/
def extended? (s : List Char) : Option Double :=
  let (negative, body) := takeSign s
  let name := String.ofList (body.map Char.toLower)
  if name = "inf" || name = "infinity" then some (.infinite negative)
  else if name = "nan" then some .nan
  else literal? s

example : literal? "-12.50e1".toList = some (Double.ofInt (-125)) := by decide +kernel
example : literal? ".e1".toList = none := by decide +kernel

end Reckoner.Decimal
