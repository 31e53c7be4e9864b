import Reckoner.Text.Search
import Reckoner.Web.Percent

namespace Reckoner.Web

open Reckoner.Text

abbrev Query := List (String × String)

def unescapeQuery (s : List Char) : String :=
  String.ofList (unescape (s.map fun c => if c == '+' then ' ' else c))

def queryPair (s : List Char) : String × String :=
  let (name, value) := cutAt (· == '=') s
  (unescapeQuery name, unescapeQuery (value.getD []))

/-- The pairs of a query string; a pair may lack its value, but not everything. -/
def Query.parse (s : List Char) : Query :=
  ((splitAtAll (· == '&') s).filter (!·.isEmpty)).map queryPair

/-- A text with an escape for everything but unreserved characters, and plus signs for spaces. -/
def escapeQuery (s : String) : List Char :=
  s.toList.flatMap fun c => if c == ' ' then ['+'] else if isUnreserved c then [c] else escapeChar c

def Query.write (q : Query) : List Char :=
  "&".toList.intercalate (q.map fun (name, value) => escapeQuery name ++ '=' :: escapeQuery value)

/-- The last value of a name. -/
def Query.last? (q : Query) (name : String) : Option String :=
  List.lookup name q.reverse

/-- All values of a name. -/
def Query.all (q : Query) (name : String) : List String :=
  q.filterMap fun p => if p.1 = name then some p.2 else none

end Reckoner.Web
