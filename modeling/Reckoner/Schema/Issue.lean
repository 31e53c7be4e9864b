namespace Reckoner.Schema

/-- One step into a value: a member, or a numbered item. -/
inductive Step where
  | member (name : String)
  | item (index : Nat)
  deriving DecidableEq, Repr

abbrev Path := List Step

inductive Problem where
  | missing
  | notText
  | emptyText
  | notOneOf (choices : List String)
  | notStatus (choices : List String)
  | notBool
  | unclearBool
  | notInt
  | unclearInt
  | hugeInt
  | fractional
  | notFinite
  | below (least : Int)
  | above (greatest : Int)
  | notNumber
  | unclearNumber
  | notList
  | notDictionary
  | notRecord
  | rejected (reason : String)
  | unknownTag (tag : String) (member : String) (expected : List String)
  | noTag (member : String)
  | malformedJson
  deriving DecidableEq, Repr

structure Issue where
  problem : Problem
  path : Path
  deriving DecidableEq, Repr

/-- A choice between quoted words: commas, and `or` before the last. -/
def choice : List String → String
  | [] => ""
  | [w] => "'" ++ w ++ "'"
  | [v, w] => "'" ++ v ++ "' or '" ++ w ++ "'"
  | w :: rest => "'" ++ w ++ "', " ++ choice rest

def Problem.code : Problem → String
  | .missing => "missing"
  | .notText => "string_type"
  | .emptyText => "string_too_short"
  | .notOneOf _ => "literal_error"
  | .notStatus _ => "enum"
  | .notBool => "bool_type"
  | .unclearBool => "bool_parsing"
  | .notInt => "int_type"
  | .unclearInt => "int_parsing"
  | .hugeInt => "int_parsing_size"
  | .fractional => "int_from_float"
  | .notFinite => "finite_number"
  | .below _ => "greater_than_equal"
  | .above _ => "less_than_equal"
  | .notNumber => "float_type"
  | .unclearNumber => "float_parsing"
  | .notList => "list_type"
  | .notDictionary => "dict_type"
  | .notRecord => "model_attributes_type"
  | .rejected _ => "value_error"
  | .unknownTag .. => "union_tag_invalid"
  | .noTag _ => "union_tag_not_found"
  | .malformedJson => "json_invalid"

def Problem.message : Problem → String
  | .missing => "Field required"
  | .notText => "Input should be a valid string"
  | .emptyText => "String should have at least 1 character"
  | .notOneOf choices => "Input should be " ++ choice choices
  | .notStatus choices => "Input should be " ++ choice choices
  | .notBool => "Input should be a valid boolean"
  | .unclearBool => "Input should be a valid boolean, unable to interpret input"
  | .notInt => "Input should be a valid integer"
  | .unclearInt => "Input should be a valid integer, unable to parse string as an integer"
  | .hugeInt => "Unable to parse input string as an integer, exceeded maximum size"
  | .fractional => "Input should be a valid integer, got a number with a fractional part"
  | .notFinite => "Input should be a finite number"
  | .below least => "Input should be greater than or equal to " ++ toString least
  | .above greatest => "Input should be less than or equal to " ++ toString greatest
  | .notNumber => "Input should be a valid number"
  | .unclearNumber => "Input should be a valid number, unable to parse string as a number"
  | .notList => "Input should be a valid list"
  | .notDictionary => "Input should be a valid dictionary"
  | .notRecord => "Input should be a valid dictionary or object to extract fields from"
  | .rejected reason => "Value error, " ++ reason
  | .unknownTag tag member expected =>
    "Input tag '" ++ tag ++ "' found using '" ++ member ++ "' does not match any of the expected tags: " ++
      ", ".intercalate (expected.map fun t => "'" ++ t ++ "'")
  | .noTag member => "Unable to extract tag using discriminator '" ++ member ++ "'"
  | .malformedJson => "JSON decode error"

def Issue.under (step : Step) (i : Issue) : Issue :=
  { i with path := step :: i.path }

example : choice ["a", "b", "c"] = "'a', 'b' or 'c'" := by decide

end Reckoner.Schema
