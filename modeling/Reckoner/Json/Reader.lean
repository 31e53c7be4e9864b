import Reckoner.Arithmetic.Fault
import Reckoner.Decimal.Literal
import Reckoner.Json.Value
import Reckoner.Text.Encoding

namespace Reckoner.Json

open Reckoner.Arithmetic (conversionLimit)
open Reckoner.Decimal Reckoner.Text

inductive Container where
  | list
  | object
  deriving DecidableEq, Repr

/-- Why a text is refused. A malformed one is refused at the place where reading stopped: the start of a value
that is none, a delimiter that is missing, the quote of a text that does not end, a control character, the backslash
of an unknown escape, or the letter of a bad code point escape. A text with half of a surrogate pair in it is
beyond what values here can hold. -/
inductive Fault where
  | malformed (position : Nat)
  | longNumber (digits : Nat)
  | tooDeep (container : Container)
  | halfPair
  | undecodable
  deriving DecidableEq, Repr

/-- Why reading stopped, with the text from where it stopped. -/
inductive Stop where
  | here (rest : List Char)
  | longNumber (digits : Nat)
  | tooDeep (container : Container)
  | halfPair

def isGap (c : Char) : Bool :=
  c == ' ' || c == '\t' || c == '\n' || c == '\r'

def skipGap (s : List Char) : List Char :=
  s.dropWhile isGap

def hexValue? (c : Char) : Option Nat :=
  let n := c.toNat
  if 48 ≤ n && n ≤ 57 then some (n - 48)
  else if 97 ≤ n && n ≤ 102 then some (n - 87)
  else if 65 ≤ n && n ≤ 70 then some (n - 55)
  else none

def plainEscape? : Char → Option Char
  | '"' => some '"'
  | '\\' => some '\\'
  | '/' => some '/'
  | 'b' => some '\x08'
  | 'f' => some '\x0c'
  | 'n' => some '\n'
  | 'r' => some '\r'
  | 't' => some '\t'
  | _ => none

/-- The code units of a text up to its closing quote. `start` is the text from its opening quote on.
A code point escape needs a character behind its four digits. -/
def readUnits (start : List Char) : List Char → Except Stop (List Nat × List Char)
  | [] => .error (.here start)
  | '"' :: rest => .ok ([], rest)
  | ['\\'] => .error (.here start)
  | '\\' :: 'u' :: a :: b :: c :: d :: e :: rest =>
    match hexValue? a, hexValue? b, hexValue? c, hexValue? d with
    | some a, some b, some c, some d => do
      let (units, rest) ← readUnits start (e :: rest)
      return ((((a * 16 + b) * 16 + c) * 16 + d) :: units, rest)
    | _, _, _, _ => .error (.here ('u' :: a :: b :: c :: d :: e :: rest))
  | '\\' :: 'u' :: rest => .error (.here ('u' :: rest))
  | '\\' :: c :: rest =>
    match plainEscape? c with
    | some c => do
      let (units, rest) ← readUnits start rest
      return (c.toNat :: units, rest)
    | none => .error (.here ('\\' :: c :: rest))
  | c :: rest =>
    if c.toNat < 32 then .error (.here (c :: rest))
    else do
      let (units, rest) ← readUnits start rest
      return (c.toNat :: units, rest)

/-- A text, from behind its opening quote. -/
def readText (s : List Char) : Except Stop (String × List Char) := do
  let (units, rest) ← readUnits ('"' :: s) s
  match chars? (joinPairs units) with
  | some text => return (String.ofList text, rest)
  | none => throw .halfPair

/-- The parts of a number that may follow its whole digits: a point with digits, an exponent. -/
def takeFraction : List Char → List Char × List Char
  | '.' :: d :: rest =>
    if isAsciiDigit d then ('.' :: d :: rest.takeWhile isAsciiDigit, rest.dropWhile isAsciiDigit)
    else ([], '.' :: d :: rest)
  | s => ([], s)

def takeExponent : List Char → List Char × List Char
  | e :: rest =>
    if e == 'e' || e == 'E' then
      let (sign, body) := match rest with
        | '-' :: body => (['-'], body)
        | '+' :: body => (['+'], body)
        | body => ([], body)
      let digits := body.takeWhile isAsciiDigit
      if digits.isEmpty then ([], e :: rest)
      else (e :: sign ++ digits, body.dropWhile isAsciiDigit)
    else ([], e :: rest)
  | [] => ([], [])

/-- Whole digits: a lone zero, or digits that do not begin with one. -/
def takeWhole : List Char → Option (List Char × List Char)
  | '0' :: rest => some (['0'], rest)
  | c :: rest =>
    if isAsciiDigit c then some (c :: rest.takeWhile isAsciiDigit, rest.dropWhile isAsciiDigit)
    else none
  | [] => none

/-- A number; a whole one may have so many digits. -/
def readNumber (digits : Nat) (s : List Char) : Except Stop (Value × List Char) :=
  let (negative, body) := match s with
    | '-' :: body => (true, body)
    | body => (false, body)
  match takeWhole body with
  | none => .error (.here s)
  | some (whole, afterWhole) =>
    let (fraction, afterFraction) := takeFraction afterWhole
    let (exponent, rest) := takeExponent afterFraction
    if fraction.isEmpty && exponent.isEmpty then
      if digits < whole.length then .error (.longNumber whole.length)
      else .ok (.int (if negative then -(numberOf whole : Int) else numberOf whole), rest)
    else
      match unsigned? (whole ++ fraction ++ exponent) with
      | some (digits, place) => .ok (.real (Double.ofDecimal negative digits place), rest)
      | none => .error (.here s)

/-- A value that is no container. -/
def readScalar (digits : Nat) : List Char → Except Stop (Value × List Char)
  | '"' :: rest => do
    let (s, rest) ← readText rest
    return (.text s, rest)
  | 'n' :: 'u' :: 'l' :: 'l' :: rest => .ok (.null, rest)
  | 't' :: 'r' :: 'u' :: 'e' :: rest => .ok (.bool true, rest)
  | 'f' :: 'a' :: 'l' :: 's' :: 'e' :: rest => .ok (.bool false, rest)
  | 'N' :: 'a' :: 'N' :: rest => .ok (.real .nan, rest)
  | 'I' :: 'n' :: 'f' :: 'i' :: 'n' :: 'i' :: 't' :: 'y' :: rest => .ok (.real (.infinite false), rest)
  | '-' :: 'I' :: 'n' :: 'f' :: 'i' :: 'n' :: 'i' :: 't' :: 'y' :: rest =>
    .ok (.real (.infinite true), rest)
  | s => readNumber digits s

mutual

/-- A value, from its first character. The arguments bound the digits, the steps and the depth. -/
def readValue (digits : Nat) : Nat → Nat → List Char → Except Stop (Value × List Char)
  | 0, _, s => .error (.here s)
  | _ + 1, 0, '[' :: _ => .error (.tooDeep .list)
  | _ + 1, 0, '\x7b' :: _ => .error (.tooDeep .object)
  | steps + 1, depth + 1, '[' :: rest =>
    match skipGap rest with
    | ']' :: rest => .ok (.list [], rest)
    | rest => do
      let (items, rest) ← readItems digits steps depth rest
      return (.list items, rest)
  | steps + 1, depth + 1, '\x7b' :: rest =>
    match skipGap rest with
    | '\x7d' :: rest => .ok (.object [], rest)
    | rest => do
      let (members, rest) ← readMembers digits steps depth rest
      return (.object (Members.ofPairs members), rest)
  | _ + 1, _, s => readScalar digits s

/-- The items of a list up to its closing bracket, the first of them at once. -/
def readItems (digits : Nat) : Nat → Nat → List Char → Except Stop (List Value × List Char)
  | 0, _, s => .error (.here s)
  | steps + 1, depth, s => do
    let (item, rest) ← readValue digits steps depth s
    match skipGap rest with
    | ']' :: rest => return ([item], rest)
    | ',' :: rest =>
      let (items, rest) ← readItems digits steps depth (skipGap rest)
      return (item :: items, rest)
    | rest => .error (.here rest)

/-- The members of an object up to its closing brace, the first of them at once. -/
def readMembers (digits : Nat) : Nat → Nat → List Char → Except Stop (List (String × Value) × List Char)
  | steps + 1, depth, '"' :: s => do
    let (name, rest) ← readText s
    match skipGap rest with
    | ':' :: rest =>
      let (value, rest) ← readValue digits steps depth (skipGap rest)
      match skipGap rest with
      | '\x7d' :: rest => return ([(name, value)], rest)
      | ',' :: rest =>
        let (members, rest) ← readMembers digits steps depth (skipGap rest)
        return ((name, value) :: members, rest)
      | rest => .error (.here rest)
    | rest => .error (.here rest)
  | _, _, s => .error (.here s)

end

/-- Reads a text that is one value and nothing else, with bounds for its depth and its digits. -/
def readWithin (depth digits : Nat) (s : List Char) : Except Fault Value :=
  let result : Except Stop Value := do
    let (value, rest) ← readValue digits (2 * s.length + 1) depth (skipGap s)
    match skipGap rest with
    | [] => return value
    | rest => throw (.here rest)
  match result with
  | .ok value => .ok value
  | .error (.here rest) => .error (.malformed (s.length - rest.length))
  | .error (.longNumber digits) => .error (.longNumber digits)
  | .error (.tooDeep container) => .error (.tooDeep container)
  | .error .halfPair => .error .halfPair

/-- Reads a text in which containers may be nested so deep. -/
def read (depth : Nat) (s : List Char) : Except Fault Value :=
  readWithin depth conversionLimit s

/-- Reads bytes in whichever form of Unicode they are. -/
def readBytes (depth : Nat) (bytes : Bytes) : Except Fault Value :=
  match decodeMarked bytes with
  | none => .error .undecodable
  | some codes =>
    match chars? codes with
    | some s => read depth s
    | none => .error .halfPair

end Reckoner.Json
