import Reckoner.Chat.Turn
import Reckoner.Failure
import Reckoner.Web.Exchange

namespace Reckoner.Web

open Reckoner.Json Reckoner.Schema

/-- The body in which every failure is told: its kind, its message, details if there are any, and the id of the
request. -/
def errorBody (kind message : String) (details : Value) (requestId : Option String) : Members :=
  let trace := match requestId with
    | some id => if id.isEmpty then [] else [("traceId", Value.text id)]
    | none => []
  [("error", .object ([("type", .text kind), ("message", .text message)] ++
    (if details.isVacant then [] else [("details", details)]) ++ trace))]

def stepValue : Step → Value
  | .member name => .text name
  | .item index => .int index

/-- An issue as the details of an error tell it: where, and what. -/
def issueValue (i : Issue) : Value :=
  .object [("loc", .list (i.path.map stepValue)), ("msg", .text i.problem.message)]

/-- What goes wrong while a request is served. A breakdown is told to nobody: the response to it knows nothing of
the request. -/
inductive Trouble where
  | failure (f : Failure)
  | invalid (issues : List Issue)
  | unreadable
  | breakdown

def Trouble.ofContent : ContentFault → Trouble
  | .malformed position => .invalid [⟨.malformedJson, [.member "body", .item position]⟩]
  | .unreadable => .unreadable

def Trouble.ofTurn : Chat.TurnFailure → Trouble
  | .busy b => .failure (.busy b)
  | .defect (.application m) => .failure (.application m)
  | .defect (.value _) | .unacceptable _ => .breakdown

/-- The response to trouble, if there is one. -/
def Trouble.response? (requestId : Option String) : Trouble → Option Response
  | .failure f =>
    some (.json f.status (.object (errorBody f.kind f.message (.object f.details) requestId)))
  | .invalid issues =>
    some (.json 422 (.object (errorBody "VALIDATION_ERROR" "Request validation failed."
      (.list (issues.map issueValue)) requestId)))
  | .unreadable => some (.detail 400 [] "There was an error parsing the body")
  | .breakdown => none

/-- All that can be said after a breakdown. -/
def breakdownResponse : Response :=
  ⟨500, [], .text "Internal Server Error"⟩

end Reckoner.Web
