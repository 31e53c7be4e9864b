import Reckoner.Text.Blank
import Reckoner.Text.Case
import Reckoner.Text.Digit
import Reckoner.Text.Search

namespace Reckoner.Classifier

open Reckoner.Text

def keywords : List String :=
  ["calculate", "compute", "solve", "what is", "how much", "sum", "difference", "product", "quotient",
    "average", "percentage", "percent", "add", "subtract", "multiply", "divide", "plus", "minus", "times"]

def operators : List Char := ['+', '-', '*', '/', '^', '%']

def hasKeyword (s : List Char) : Bool :=
  keywords.any fun k => occursIn k.toList (lowerChars s)

def digitFollows (s : List Char) : Bool :=
  match s.dropWhile isBlank with
  | c :: _ => isDigit c
  | [] => false

def operatorFollows (s : List Char) : Bool :=
  match s.dropWhile isBlank with
  | c :: rest => operators.contains c && digitFollows rest
  | [] => false

/-- A digit, an operator and a digit, with nothing but white space between them. -/
def hasOperation : List Char → Bool
  | [] => false
  | c :: rest => (isDigit c && operatorFollows rest) || hasOperation rest

/-- Keywords are looked for in the lower-case text, operations in the text as it is. -/
def isArithmetic (s : List Char) : Bool :=
  hasKeyword s || hasOperation s

def isQuestion (text : String) : Bool :=
  isArithmetic text.toList

end Reckoner.Classifier
