import Reckoner.Arithmetic.Display
import Reckoner.Arithmetic.Exact
import Reckoner.Arithmetic.Reader
import Reckoner.Decimal.Nearest
import Reckoner.Text.Blank

namespace Reckoner.Arithmetic

open Reckoner.Decimal Reckoner.Text

/-- The double nearest to the decimal that a literal writes. -/
def Number.toDouble (n : Number) : Double :=
  let fraction := n.fraction.getD []
  Double.ofDecimal false (numberOf (n.whole ++ fraction)) (-(fraction.length : Int))

def doubles : Scalars Float where
  ofNumber n := n.toDouble.toFloat
  add := (· + ·)
  sub := (· - ·)
  mul := (· * ·)
  div := (· / ·)
  neg := (- ·)
  isZero := (· == 0.0)

/-- The double that an expression without white space denotes. -/
def readDouble (s : List Char) : Except Fault Double :=
  (read doubles s).map Double.ofFloat

/-- A finite double, or the digits of a whole number. -/
inductive Outcome where
  | number (x : Double)
  | digits (s : String)
  deriving DecidableEq, Repr

def Outcome.isExact : Outcome → Bool
  | .number _ => false
  | .digits _ => true

structure Success where
  expression : String
  value : Outcome
  formatted : String
  deriving DecidableEq, Repr

structure Failure where
  expression : String
  fault : Fault
  deriving DecidableEq, Repr

/-- Expressions may have this many characters that are not white space. -/
def lengthLimit : Int := 200

def withoutBlanks (s : String) : List Char :=
  s.toList.filter (!isBlank ·)

def evaluateDouble (s : List Char) : Except Fault (Outcome × String) := do
  match ← readDouble s with
  | .finite negative m e =>
    return (.number (Double.finite negative m e).unsignZero, displayFinite negative m e)
  | _ => throw .notFinite

def evaluateDigits (s : List Char) : Except Fault (Outcome × String) := do
  let text := toString (← evaluateExact s)
  return (.digits text, text)

/-- The value of an expression without white space and its display. A run of ten digits calls for exact arithmetic on
whole numbers; everything else is computed in doubles. -/
def evaluateChars (limit : Int) (s : List Char) : Except Fault (Outcome × String) :=
  if s.isEmpty then .error .empty
  else if limit < s.length then .error (.tooLong limit)
  else if hasLongRun s then evaluateDigits s
  else evaluateDouble s

/-- Evaluates an expression of at most so many characters. -/
def evaluateWithin (limit : Int) (expression : String) : Except Failure Success :=
  match evaluateChars limit (withoutBlanks expression) with
  | .ok (value, formatted) => .ok ⟨expression, value, formatted⟩
  | .error fault => .error ⟨expression, fault⟩

def evaluate (expression : String) : Except Failure Success :=
  evaluateWithin lengthLimit expression

/-- The conversion beyond the limit that an evaluation would meet. No expression within the usual
length has one. -/
def oversize? (limit : Int) (expression : String) : Option Oversize :=
  let s := withoutBlanks expression
  if limit < s.length || !hasLongRun s then none
  else (Operation.ofChars? s).bind Operation.oversize?

end Reckoner.Arithmetic
