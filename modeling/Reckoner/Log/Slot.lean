import Reckoner.Decimal.Nearest
import Reckoner.Decimal.Style
import Reckoner.Json.Shown
import Reckoner.Text.Encoding

namespace Reckoner.Log

open Reckoner.Decimal Reckoner.Json

/-- What a slot makes of its value. A text is itself, quoted, or quoted within ASCII. -/
inductive Kind where
  | plain
  | quoted
  | ascii
  | whole
  | based (base : Nat) (upper : Bool)
  | real (style : Style) (upper : Bool)
  | character
  deriving DecidableEq, Repr

def Kind.ofChar? : Char → Option Kind
  | 's' => some .plain
  | 'r' => some .quoted
  | 'a' => some .ascii
  | 'd' | 'i' | 'u' => some .whole
  | 'o' => some (.based 8 false)
  | 'x' => some (.based 16 false)
  | 'X' => some (.based 16 true)
  | 'f' => some (.real .fixed false)
  | 'F' => some (.real .fixed true)
  | 'e' => some (.real .exponent false)
  | 'E' => some (.real .exponent true)
  | 'g' => some (.real .general false)
  | 'G' => some (.real .general true)
  | 'c' => some .character
  | _ => none

structure Slot where
  flags : List Char
  width : Nat
  precision : Option Nat
  letter : Char

/-- Why a value does not fit its slot. Half of a surrogate pair is a character that no text here can hold. -/
inductive SlotFault where
  | noNumber (letter : Char) (typeName : String)
  | noWhole (letter : Char) (typeName : String)
  | noReal (typeName : String)
  | notANumber
  | infinite
  | tooGreat
  | noCharacter
  | beyondCharacters
  | halfPair
  deriving DecidableEq, Repr

def SlotFault.message : SlotFault → String
  | .noNumber c name => "%" ++ String.singleton c ++ " format: a real number is required, not " ++ name
  | .noWhole c name => "%" ++ String.singleton c ++ " format: an integer is required, not " ++ name
  | .noReal name => "must be real number, not " ++ name
  | .notANumber => "cannot convert float NaN to integer"
  | .infinite => "cannot convert float infinity to integer"
  | .tooGreat => "int too large to convert to float"
  | .noCharacter => "%c requires int or char"
  | .beyondCharacters => "%c arg not in range(0x110000)"
  | .halfPair => "surrogates not allowed"

def typeName : Value → String
  | .null => "NoneType"
  | .bool _ => "bool"
  | .int _ => "int"
  | .real _ => "float"
  | .text _ => "str"
  | .list _ => "list"
  | .object _ => "dict"

/-- The whole number that a value is. -/
def whole? : Value → Option Int
  | .bool b => some b.toNat
  | .int n => some n
  | _ => none

/-- The whole number that a value gives, cut toward zero. -/
def wholeOf (letter : Char) : Value → Except SlotFault Int
  | .real .nan => .error .notANumber
  | .real (.infinite _) => .error .infinite
  | .real (.finite negative m e) =>
    let q := Double.quotient m e
    let n : Int := (q.1 / q.2 : Nat)
    .ok (if negative then -n else n)
  | v =>
    match whole? v with
    | some n => .ok n
    | none => .error (.noNumber letter (typeName v))

def realOf : Value → Except SlotFault Double
  | .real x => .ok x
  | v =>
    match whole? v with
    | none => .error (.noReal (typeName v))
    | some n => if (Double.ofInt n).isFinite then .ok (Double.ofInt n) else .error .tooGreat

def characterOf : Value → Except SlotFault String
  | .text s => if s.length = 1 then .ok s else .error .noCharacter
  | v =>
    match whole? v with
    | none => .error .noCharacter
    | some n =>
      if n < 0 || 0x110000 ≤ n then .error .beyondCharacters
      else
        match Text.char? n.toNat with
        | some c => .ok (String.singleton c)
        | none => .error .halfPair

/-- The parts of a number as it is written. -/
structure Written where
  negative : Bool
  mark : String
  digits : String

def upperIf (upper : Bool) (s : String) : String :=
  if upper then s.toUpper else s

/-- How the base of a number is marked in front of it. -/
def baseMark : Nat → String
  | 8 => "0o"
  | 16 => "0x"
  | _ => ""

/-- A whole number in a base, with at least so many digits. -/
def writeWhole (slot : Slot) (base : Nat) (upper : Bool) (n : Int) : Written :=
  let digits := String.ofList (Nat.toDigits base n.natAbs)
  let mark := if slot.flags.contains '#' then baseMark base else ""
  ⟨n < 0, upperIf upper mark, upperIf upper (zeros (slot.precision.getD 1 - digits.length) ++ digits)⟩

/-- How many decimals or digits a number has that no precision is given for. -/
def usualPrecision : Nat := 6

def writeReal (slot : Slot) (style : Style) (upper : Bool) (x : Double) : Written :=
  let digits := match x with
    | .nan => "nan"
    | .infinite _ => "inf"
    | .finite _ m e =>
      let q := Double.quotient m e
      style.write (slot.flags.contains '#') (slot.precision.getD usualPrecision) q.1 q.2
  let negative := match x with
    | .nan => false
    | .infinite negative => negative
    | .finite negative _ _ => negative
  ⟨negative, "", upperIf upper digits⟩

def spaces (n : Nat) : String :=
  String.ofList (List.replicate n ' ')

def Slot.pad (slot : Slot) (s : String) : String :=
  let padding := spaces (slot.width - s.length)
  if slot.flags.contains '-' then s ++ padding else padding ++ s

/-- A number is padded with spaces outside its sign, or with zeros inside. -/
def Slot.padNumber (slot : Slot) (w : Written) : String :=
  let sign := if w.negative then "-" else if slot.flags.contains '+' then "+"
    else if slot.flags.contains ' ' then " " else ""
  let head := sign ++ w.mark
  if slot.flags.contains '0' && !slot.flags.contains '-' then
    head ++ zeros (slot.width - (head.length + w.digits.length)) ++ w.digits
  else slot.pad (head ++ w.digits)

def cut (precision : Option Nat) (s : String) : String :=
  match precision with
  | some n => String.ofList (s.toList.take n)
  | none => s

/-- A value as it stands in a slot of a kind. -/
def Slot.write (slot : Slot) (kind : Kind) (v : Value) : Except SlotFault String :=
  match kind with
  | .plain => .ok (slot.pad (cut slot.precision (shown v)))
  | .quoted => .ok (slot.pad (cut slot.precision (shownInside v)))
  | .ascii => .ok (slot.pad (cut slot.precision (Text.escapeBeyondAscii (shownInside v))))
  | .whole => (wholeOf slot.letter v).map fun n => slot.padNumber (writeWhole slot 10 false n)
  | .based base upper =>
    match whole? v with
    | some n => .ok (slot.padNumber (writeWhole slot base upper n))
    | none => .error (.noWhole slot.letter (typeName v))
  | .real style upper => (realOf v).map fun x => slot.padNumber (writeReal slot style upper x)
  | .character => (characterOf v).map slot.pad

end Reckoner.Log
