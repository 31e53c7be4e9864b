import Reckoner.Decimal.Double

namespace Reckoner.Json

open Reckoner.Decimal

/-- Numbers are whole numbers of any size or doubles; the members of an object keep their order. -/
inductive Value where
  | null
  | bool (b : Bool)
  | int (n : Int)
  | real (x : Double)
  | text (s : String)
  | list (items : List Value)
  | object (members : List (String × Value))
  deriving Repr, Inhabited

abbrev Members := List (String × Value)

/-- Puts a member in its old place, or at the end if the name is new. -/
def Members.put (name : String) (value : Value) : Members → Members
  | [] => [(name, value)]
  | (n, v) :: rest => if n = name then (n, value) :: rest else (n, v) :: put name value rest

def Members.ofPairs (pairs : List (String × Value)) : Members :=
  pairs.foldl (fun members p => Members.put p.1 p.2 members) []

def Members.get? (members : Members) (name : String) : Option Value :=
  List.lookup name members

mutual

/-- The whole numbers in a value. -/
def Value.wholes : Value → List Int
  | .int n => [n]
  | .list items => wholesOf items
  | .object members => wholesWithin members
  | _ => []

def Value.wholesOf : List Value → List Int
  | [] => []
  | v :: rest => v.wholes ++ wholesOf rest

def Value.wholesWithin : Members → List Int
  | [] => []
  | (_, v) :: rest => v.wholes ++ wholesWithin rest

end

/-- Null, false, zero, and everything empty. -/
def Value.isVacant : Value → Bool
  | .null => true
  | .bool b => !b
  | .int n => n == 0
  | .real (.finite _ m _) => m == 0
  | .real _ => false
  | .text s => s.isEmpty
  | .list items => items.isEmpty
  | .object members => members.isEmpty

/-- A text, or null in its absence. -/
def Value.ofText? (s : Option String) : Value :=
  match s with
  | some s => .text s
  | none => .null

/-- The text of a value that is one. -/
def Value.text? : Value → Option String
  | .text s => some s
  | _ => none

theorem Members.get?_put_self (members : Members) (name : String) (value : Value) :
    (members.put name value).get? name = some value := by
  induction members with
  | nil => simp [put, get?]
  | cons p rest ih =>
    obtain ⟨n, v⟩ := p
    by_cases h : n = name
    · subst h; simp [put, get?]
    · have h' : (name == n) = false := by simpa using fun e => h e.symm
      simp only [put, h, if_false, get?, List.lookup_cons, h']
      exact ih

end Reckoner.Json
