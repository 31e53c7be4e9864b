import Reckoner.Text.Digit
import Reckoner.Text.Quoted

namespace Reckoner.Prompt

open Reckoner.Text

inductive Alignment where
  | left
  | right
  | center
  | padded
  deriving DecidableEq, Repr

inductive LayoutFault where
  | hugeNumber
  | bothSeparators
  | missingLength
  | malformed (layout : String)
  | separator (mark type : Char)
  | signed (sign : Char)
  | unsignedZero
  | alternate
  | paddedAlignment
  | unknownType (type : Char)
  deriving DecidableEq, Repr

def hexText (n : Nat) : String :=
  String.ofList (Nat.toDigits 16 n)

/-- A character as it is named in a message: itself within ASCII, else its number. -/
def namedChar (c : Char) : String :=
  if 32 < c.toNat && c.toNat < 128 then String.singleton c else "\\x" ++ hexText c.toNat

def LayoutFault.message : LayoutFault → String
  | .hugeNumber => "Too many decimal digits in format string"
  | .bothSeparators => "Cannot specify both ',' and '_'."
  | .missingLength => "Format specifier missing precision"
  | .malformed layout => "Invalid format specifier '" ++ layout ++ "' for object of type 'str'"
  | .separator mark type =>
    "Cannot specify '" ++ String.singleton mark ++ "' with '" ++ namedChar type ++ "'."
  | .signed ' ' => "Space not allowed in string format specifier"
  | .signed _ => "Sign not allowed in string format specifier"
  | .unsignedZero => "Negative zero coercion (z) not allowed in string format specifier"
  | .alternate => "Alternate form (#) not allowed in string format specifier"
  | .paddedAlignment => "'=' alignment not allowed in string format specifier"
  | .unknownType type =>
    "Unknown format code '" ++ namedChar type ++ "' for object of type 'str'"

structure Layout where
  fill : Char
  alignment : Alignment
  sign : Option Char
  unsignedZero : Bool
  alternate : Bool
  width : Option Nat
  separator : Option Char
  length : Option Nat
  type : Char
  deriving DecidableEq, Repr

def Alignment.ofChar? : Char → Option Alignment
  | '<' => some .left
  | '>' => some .right
  | '^' => some .center
  | '=' => some .padded
  | _ => none

/-- Fill and alignment: both, the alignment alone, or neither. -/
def takeAlignment : List Char → Option Char × Option Alignment × List Char
  | a :: b :: rest =>
    match Alignment.ofChar? b with
    | some alignment => (some a, some alignment, rest)
    | none =>
      match Alignment.ofChar? a with
      | some alignment => (none, some alignment, b :: rest)
      | none => (none, none, a :: b :: rest)
  | [a] =>
    match Alignment.ofChar? a with
    | some alignment => (none, some alignment, [])
    | none => (none, none, [a])
  | [] => (none, none, [])

/-- One character of a class, if it comes first. -/
def takeOne (p : Char → Bool) : List Char → Option Char × List Char
  | c :: rest => if p c then (some c, rest) else (none, c :: rest)
  | [] => (none, [])

/-- The digits that come first, as a number if there are any. -/
def takeNumber (s : List Char) : Except LayoutFault (Option Nat × List Char) :=
  let digits := s.takeWhile isDigit
  if digits.isEmpty then .ok (none, s)
  else if Nat.pow 2 63 ≤ numberOf digits then .error .hugeNumber
  else .ok (some (numberOf digits), s.dropWhile isDigit)

/-- The mark between groups of digits: a comma or an underscore, not both. -/
def takeSeparator (s : List Char) : Except LayoutFault (Option Char × List Char) :=
  let (comma, s) := takeOne (· == ',') s
  let (underscore, s) := takeOne (· == '_') s
  match comma, underscore, s with
  | some _, some _, _ => .error .bothSeparators
  | _, some _, ',' :: _ => .error .bothSeparators
  | some c, none, s => .ok (some c, s)
  | none, u, s => .ok (u, s)

/-- The types of numbers that a separator goes with. -/
def separable (mark type : Char) : Bool :=
  "defgEG%F".toList.contains type || (mark == '_' && "boxX".toList.contains type)

/-- Reads a layout. What it may say of numbers alone is read and then refused. -/
def Layout.parse (s : List Char) : Except LayoutFault Layout := do
  let (fill, alignment, rest) := takeAlignment s
  let (sign, rest) := takeOne (fun c => c == ' ' || c == '+' || c == '-') rest
  let (unsignedZero, rest) := takeOne (· == 'z') rest
  let (alternate, rest) := takeOne (· == '#') rest
  let (zero, rest) := if fill.isSome then (none, rest) else takeOne (· == '0') rest
  let (width, rest) ← takeNumber rest
  let (separator, rest) ← takeSeparator rest
  let (length, rest) ← match rest with
    | '.' :: rest => do
      let (length, rest) ← takeNumber rest
      if length.isNone then throw .missingLength
      pure (length, rest)
    | rest => pure (none, rest)
  let type ← match rest with
    | [] => pure 's'
    | [c] => pure c
    | _ => throw (.malformed (String.ofList s))
  match separator with
  | some mark => if !separable mark type then throw (.separator mark type)
  | none => pure ()
  return ⟨(fill <|> zero).getD ' ', alignment.getD .left, sign, unsignedZero.isSome, alternate.isSome,
    width, separator, length, type⟩

/-- How many fill characters stand to the left of a text and to its right. -/
def padding (alignment : Alignment) (missing : Nat) : Nat × Nat :=
  match alignment with
  | .right => (missing, 0)
  | .center => (missing / 2, missing - missing / 2)
  | _ => (0, missing)

def Layout.apply (l : Layout) (s : List Char) : Except LayoutFault (List Char) := do
  if l.type ≠ 's' then throw (.unknownType l.type)
  if let some sign := l.sign then throw (.signed sign)
  if l.unsignedZero then throw .unsignedZero
  if l.alternate then throw .alternate
  if l.alignment = .padded then throw .paddedAlignment
  let cut := match l.length with
    | some n => s.take n
    | none => s
  let (before, after) := padding l.alignment (l.width.getD 0 - cut.length)
  return List.replicate before l.fill ++ cut ++ List.replicate after l.fill

/-- A text laid out as a layout says; the empty layout leaves it as it is. -/
def layOut (layout : List Char) (s : List Char) : Except LayoutFault (List Char) := do
  if layout.isEmpty then return s
  (← Layout.parse layout).apply s

end Reckoner.Prompt
