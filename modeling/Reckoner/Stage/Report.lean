import Reckoner.Json.Printer
import Reckoner.Stage.Run

namespace Reckoner

open Reckoner.Json

def Status.mark : Status → String
  | .complete => "✅"
  | .error => "❌"
  | .pending | .running => "⏳"

def Payload.render : Payload → String
  | .text s => s
  | p => spell .unicode p.toJson

/-- A line about a text, unless the text is missing or empty. -/
def reportLine (before after : String) (s : Option String) : List String :=
  match s with
  | some s => if s.isEmpty then [] else [before ++ s ++ after]
  | none => []

def Stage.inputLine (s : Stage) : List String :=
  match s.input with
  | some p => if p.isEmpty then [] else ["Input: `" ++ p.render ++ "`"]
  | none => []

def Stage.report (s : Stage) : List String :=
  ["**" ++ s.status.mark ++ " Stage " ++ toString s.number ++ ": " ++ s.name ++ "**"] ++ s.inputLine ++
    reportLine "Output: `" "`" s.output ++ reportLine "Error: " "" s.error ++ [""]

def Run.report (r : Run) : String :=
  "\n".intercalate (["**AI Response**", ""] ++ r.stages.flatMap Stage.report)

end Reckoner
