import Reckoner.Decimal.Layout
import Reckoner.Json.Value
import Reckoner.Text.Quoted

namespace Reckoner.Json

open Reckoner.Text

mutual

def shownInside : Value → String
  | .null => "None"
  | .bool b => if b then "True" else "False"
  | .int n => toString n
  | .real x => x.text
  | .text s => quoted s
  | .list items => "[" ++ ", ".intercalate (shownItems items) ++ "]"
  | .object members => "\x7b" ++ ", ".intercalate (shownMembers members) ++ "\x7d"

def shownItems : List Value → List String
  | [] => []
  | v :: rest => shownInside v :: shownItems rest

def shownMembers : List (String × Value) → List String
  | [] => []
  | (name, v) :: rest => (quoted name ++ ": " ++ shownInside v) :: shownMembers rest

end

def shown : Value → String
  | .text s => s
  | v => shownInside v

end Reckoner.Json
