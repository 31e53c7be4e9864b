import Reckoner.Arithmetic.Token

namespace Reckoner.Arithmetic

open Reckoner.Text

/-- The length of a run of digits that calls for exact arithmetic. -/
def longRun : Nat := 10

/-- Do `n` characters of a class stand next to each other, or as many as are missing at the start? -/
def hasRun (p : Char → Bool) (n : Nat) : Nat → List Char → Bool
  | missing, [] => missing = 0
  | missing, c :: rest => missing = 0 || hasRun p n (if p c then missing - 1 else n) rest

/-- Do ten or more digits stand next to each other? -/
def hasLongRun (s : List Char) : Bool :=
  hasRun isDigit longRun longRun s

/-- Two runs of digits with an operator between them. -/
structure Operation where
  left : List Char
  operator : Operator
  right : List Char
  deriving DecidableEq, Repr

def Operation.ofChars? (s : List Char) : Option Operation :=
  match s.dropWhile isDigit with
  | [] => none
  | c :: right =>
    let left := s.takeWhile isDigit
    match Operator.ofSymbol? c with
    | none => none
    | some o =>
      if left.isEmpty || right.isEmpty || !right.all isDigit then none else some ⟨left, o, right⟩

/-- One operation on two whole numbers of any size. A quotient is cut toward zero. -/
def applyExact : Operator → Int → Int → Int
  | .add, a, b => a + b
  | .sub, a, b => a - b
  | .mul, a, b => a * b
  | .div, a, b => a.tdiv b

/-- The result of an operation, unless it divides by zero. -/
def Operation.result? (o : Operation) : Option Int :=
  if o.operator = .div && numberOf o.right = 0 then none
  else some (applyExact o.operator (numberOf o.left) (numberOf o.right))

def evaluateExact (s : List Char) : Except Fault Int :=
  match Operation.ofChars? s with
  | none => .error .unsupported
  | some o =>
    match o.result? with
    | none => .error .exactDivisionByZero
    | some n => .ok n

/-- The first conversion of an operation that is beyond the limit. -/
def Operation.oversize? (o : Operation) : Option Oversize :=
  if conversionLimit < o.left.length then some (.reading o.left.length)
  else if conversionLimit < o.right.length then some (.reading o.right.length)
  else match o.result? with
    | some n => if Nat.pow 10 conversionLimit ≤ n.natAbs then some .writing else none
    | none => none

example : (evaluateExact "10000000000/3".toList).toOption = some 3333333333 := by decide +kernel
example : hasLongRun "1234567890+1".toList = true ∧ hasLongRun "123456789+1".toList = false := by
  decide +kernel

end Reckoner.Arithmetic
