import Reckoner.Decimal.Literal
import Reckoner.Json.Value
import Reckoner.Schema.Issue
import Reckoner.Text.Case
import Reckoner.Text.Search

namespace Reckoner.Schema

open Reckoner.Decimal Reckoner.Json Reckoner.Text

/-- A value read as a type, or every issue of every part of it. Texts are never made of other values; the other types
take whatever clearly means one of theirs. -/
abbrev Checked (α : Type) := Except (List Issue) α

abbrev Check (α : Type) := Value → Checked α

def refuse {α : Type} (p : Problem) : Checked α :=
  .error [⟨p, []⟩]

/-- Two results, with the issues of both. -/
def both {α β : Type} (a : Checked α) (b : Checked β) : Checked (α × β) :=
  match a, b with
  | .ok a, .ok b => .ok (a, b)
  | .error x, .ok _ => .error x
  | .ok _, .error y => .error y
  | .error x, .error y => .error (x ++ y)

def under {α : Type} (step : Step) (a : Checked α) : Checked α :=
  a.mapError (·.map (Issue.under step))

def text : Check String
  | .text s => .ok s
  | _ => refuse .notText

def nonemptyText : Check String := fun v => do
  let s ← text v
  if s.isEmpty then refuse .emptyText else return s

def trueWords : List String := ["1", "on", "t", "true", "y", "yes"]

def falseWords : List String := ["0", "off", "f", "false", "n", "no"]

def boolWord (s : String) : Checked Bool :=
  let word := lowerAscii s
  if trueWords.contains word then .ok true
  else if falseWords.contains word then .ok false
  else refuse .unclearBool

def boolInt (n : Int) : Checked Bool :=
  if n = 0 then .ok false else if n = 1 then .ok true else refuse .unclearBool

def bool : Check Bool
  | .bool b => .ok b
  | .int n => boolInt n
  | .real x =>
    match x.toInt? with
    | some n => boolInt n
    | none => refuse .notBool
  | .text s => boolWord s
  | _ => refuse .notBool

/-- The text between its spaces, as numbers are read. -/
def spaced (s : String) : List Char :=
  trimBy isSpacing s.toList

/-- A text with its single underscores taken out, if none is at an end or beside another. -/
def withoutUnderscores? (s : List Char) : Option (List Char) :=
  if s.head? == some '_' || s.getLast? == some '_' || occursIn ['_', '_'] s then none
  else some (s.filter (· != '_'))

/-- A whole number may be written with a point and zeros behind it. -/
def withoutZeroFraction (s : List Char) : List Char :=
  match cutAt (· == '.') s with
  | (whole, some fraction) => if fraction.all (· == '0') then whole else s
  | (_, none) => s

def intWord (s : String) : Checked Int :=
  let body := spaced s
  if digitLimit < body.length then refuse .hugeInt
  else
    match withoutUnderscores? (withoutZeroFraction body) with
    | none => refuse .unclearInt
    | some body =>
      let (negative, digits) := takeSign body
      if digits.isEmpty || !digits.all isAsciiDigit then refuse .unclearInt
      else .ok (if negative then -(numberOf digits : Int) else numberOf digits)
where
  digitLimit : Nat := 4300

def int : Check Int
  | .bool b => .ok b.toNat
  | .int n => .ok n
  | .real x =>
    if !x.isFinite then refuse .notFinite
    else
      match x.toInt? with
      | some n => if n.natAbs < Nat.pow 2 63 then .ok n else refuse .hugeInt
      | none => refuse .fractional
  | .text s => intWord s
  | _ => refuse .notInt

def intBetween (least greatest : Int) : Check Int := fun v => do
  let n ← int v
  if n < least then refuse (.below least)
  else if greatest < n then refuse (.above greatest)
  else return n

def numberWord (s : String) : Checked Double :=
  match extended? (spaced s) with
  | some x => .ok x
  | none =>
    match (withoutUnderscores? (spaced s)).bind extended? with
    | some x => .ok x
    | none => refuse .unclearNumber

def number : Check Double
  | .bool b => .ok (Double.ofInt b.toNat)
  | .int n => .ok (Double.ofInt n)
  | .real x => .ok x
  | .text s => numberWord s
  | _ => refuse .notNumber

def oneOf (choices : List String) : Check String
  | .text s => if choices.contains s then .ok s else refuse (.notOneOf choices)
  | _ => refuse (.notOneOf choices)

/-- Null, or what passes a check. -/
def nullable {α : Type} (check : Check α) : Check (Option α)
  | .null => .ok none
  | v => (check v).map some

def itemsFrom {α : Type} (check : Check α) (index : Nat) : List Value → Checked (List α)
  | [] => .ok []
  | v :: rest =>
    (both (under (.item index) (check v)) (itemsFrom check (index + 1) rest)).map fun p => p.1 :: p.2

def listOf {α : Type} (check : Check α) : Check (List α)
  | .list items => itemsFrom check 0 items
  | _ => refuse .notList

def membersOf {α : Type} (check : Check α) : Members → Checked (List (String × α))
  | [] => .ok []
  | (name, v) :: rest =>
    (both (under (.member name) (check v)) (membersOf check rest)).map fun p => (name, p.1) :: p.2

def dictionaryOf {α : Type} (check : Check α) : Check (List (String × α))
  | .object members => membersOf check members
  | _ => refuse .notDictionary

/-- A member that has to be there. -/
def required {α : Type} (members : Members) (name : String) (check : Check α) : Checked α :=
  under (.member name) <|
    match members.get? name with
    | some v => check v
    | none => refuse .missing

/-- A member with a value for its absence. -/
def optional {α : Type} (members : Members) (name : String) (default : α) (check : Check α) : Checked α :=
  under (.member name) <|
    match members.get? name with
    | some v => check v
    | none => .ok default

/-- A condition on a whole record, looked at only when all its members have passed. -/
def require (holds : Bool) (reason : String) : Checked Unit :=
  if holds then .ok () else refuse (.rejected reason)

theorem both_ok_iff {α β : Type} {a : Checked α} {b : Checked β} {x : α × β} :
    both a b = .ok x ↔ a = .ok x.1 ∧ b = .ok x.2 := by
  obtain ⟨y, z⟩ := x
  cases a <;> cases b <;> simp [both]

end Reckoner.Schema
