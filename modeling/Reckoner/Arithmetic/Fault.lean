namespace Reckoner.Arithmetic

/-- Why an expression has no value. Positions count characters from zero in the expression without its white
space. -/
inductive Fault where
  | empty
  | tooLong (limit : Int)
  | unexpectedCharacter (c : Char) (position : Nat)
  | unexpectedToken (text : String) (position : Nat)
  | unexpectedEnd
  | unclosed (position : Nat)
  | divisionByZero
  | notFinite
  | unsupported
  | exactDivisionByZero
  deriving DecidableEq, Repr

def Fault.message : Fault → String
  | .empty => "Expression cannot be empty."
  | .tooLong limit => "Expression exceeds " ++ toString limit ++ " characters."
  | .unexpectedCharacter c p =>
    "Unexpected character '" ++ String.singleton c ++ "' at position " ++ toString p ++ "."
  | .unexpectedToken t p => "Unexpected token '" ++ t ++ "' at position " ++ toString p ++ "."
  | .unexpectedEnd => "Unexpected end of expression."
  | .unclosed p => "Missing closing parenthesis for '(' at position " ++ toString p ++ "."
  | .divisionByZero => "Division by zero is not allowed."
  | .notFinite => "Result is not a finite number."
  | .unsupported => "Complex expression not supported"
  | .exactDivisionByZero => "Division by zero"

/-- A whole number is read from, or written with, at most this many digits. -/
def conversionLimit : Nat := 4300

/-- A conversion beyond the limit. -/
inductive Oversize where
  | reading (digits : Nat)
  | writing
  deriving DecidableEq, Repr

def Oversize.message : Oversize → String
  | .reading digits =>
    "Exceeds the limit (4300 digits) for integer string conversion: value has " ++ toString digits ++
      " digits; use sys.set_int_max_str_digits() to increase the limit"
  | .writing =>
    "Exceeds the limit (4300 digits) for integer string conversion; " ++
      "use sys.set_int_max_str_digits() to increase the limit"

end Reckoner.Arithmetic
