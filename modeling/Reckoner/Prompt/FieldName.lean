import Reckoner.Text.Digit
import Reckoner.Text.Quoted

namespace Reckoner.Prompt

open Reckoner.Text

inductive PathFault where
  | positional
  | unknownName (name : String)
  | hugeIndex
  | emptyAccessor
  | unclosedIndex
  | strayAfterIndex
  | unknownAttribute (name : String)
  | textIndex
  | outOfRange
  deriving DecidableEq, Repr

def PathFault.message : PathFault → String
  | .positional => "Format string contains positional fields"
  | .unknownName name => quoted name
  | .hugeIndex => "Too many decimal digits in format string"
  | .emptyAccessor => "Empty attribute in format string"
  | .unclosedIndex => "Missing ']' in format string"
  | .strayAfterIndex => "Only '.' or '[' may follow ']' in format field specifier"
  | .unknownAttribute name => "'str' object has no attribute '" ++ name ++ "'"
  | .textIndex => "string indices must be integers, not 'str'"
  | .outOfRange => "string index out of range"

/-- The greatest index. -/
def greatestIndex : Nat := Nat.pow 2 63 - 1

/-- A whole number made of digits alone, read from the left as far as it is one. -/
def index?From (value : Nat) : List Char → Except PathFault (Option Nat)
  | [] => .ok (some value)
  | c :: rest =>
    match digitValue? c with
    | none => .ok none
    | some d =>
      if greatestIndex < 10 * value + d then .error .hugeIndex
      else index?From (10 * value + d) rest

def index? (s : List Char) : Except PathFault (Option Nat) :=
  if s.isEmpty then .ok none else index?From 0 s

def opensAccessor (c : Char) : Bool :=
  c == '.' || c == '['

/-- Follows accessors from a text. Each turn reads one; the count bounds the turns. A text has no attributes here: what
a template would show of one that the runtime gives to texts, such as a method of theirs, is left out. -/
def follow : Nat → String → List Char → Except PathFault String
  | 0, s, _ => .ok s
  | _ + 1, s, [] => .ok s
  | _ + 1, _, '.' :: rest =>
    let name := rest.takeWhile (!opensAccessor ·)
    if name.isEmpty then .error .emptyAccessor else .error (.unknownAttribute (String.ofList name))
  | turns + 1, s, '[' :: rest =>
    match rest.dropWhile (· != ']') with
    | [] => .error .unclosedIndex
    | _ :: after => do
      let name := rest.takeWhile (· != ']')
      let index ← index? name
      if name.isEmpty then throw .emptyAccessor
      match index with
      | none => throw .textIndex
      | some n =>
        match s.toList[n]? with
        | some c => follow turns (String.singleton c) after
        | none => throw .outOfRange
  | _ + 1, _, _ => .error .strayAfterIndex

/-- The text that a field name stands for among named values. -/
def resolve (values : List (String × String)) (name : List Char) : Except PathFault String := do
  let first := name.takeWhile (!opensAccessor ·)
  let rest := name.dropWhile (!opensAccessor ·)
  let index ← index? first
  if first.isEmpty || index.isSome then throw .positional
  match values.lookup (String.ofList first) with
  | none => throw (.unknownName (String.ofList first))
  | some s => follow (rest.length + 1) s rest

end Reckoner.Prompt
