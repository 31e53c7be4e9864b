import Reckoner.Chat.Message
import Reckoner.Gateway.Failure
import Reckoner.Stage.Report
import Reckoner.Text.Blank

namespace Reckoner.Chat

def greeting : String := "Hello! I am your AI assistant."

def offline : String := "❌ **Ollama Connection Failed**\n\nPlease start Ollama: `ollama serve`"

def errorContent (message : String) : String :=
  "❌ **Error:** " ++ message

def runFailed : String := "Pipeline execution failed"

/-- A message of the assistant before it has an id. -/
structure Draft where
  content : String
  isError : Bool
  isPipeline : Bool
  deriving DecidableEq, Repr

def Draft.message (d : Draft) (id : String) : Message :=
  ⟨id, .assistant, d.content, d.isError, d.isPipeline⟩

/-- What is said first: a greeting, or that the model cannot be reached. -/
def Draft.opening (available : Bool) : Draft :=
  if available then ⟨greeting, false, false⟩ else ⟨offline, true, false⟩

def Draft.ofFailure (f : GatewayFailure) : Draft :=
  ⟨errorContent f.message, true, false⟩

/-- The model has said nothing. -/
def silence : GatewayFailure :=
  .response "Language model returned an empty response."

/-- The model's own words without white space at their ends, if that leaves any. -/
def Draft.ofWords (words : String) : Option Draft :=
  let content := Text.trim words
  if content.isEmpty then none else some ⟨content, false, false⟩

/-- The result of the second stage. -/
def computed (r : Run) : String :=
  ((r.stages[1]?.bind (·.output)).getD "None")

/-- The final answer, or the computed value when the model said nothing. -/
def answerOf (r : Run) : String :=
  match r.finalAnswer with
  | some a => if a.isEmpty then "The result is **" ++ computed r ++ "**." else a
  | none => "The result is **" ++ computed r ++ "**."

def Draft.ofRun (r : Run) (showStages : Bool) : Draft :=
  if r.success then
    let content :=
      if showStages then r.report ++ "\n---\n\n**Final Answer:**\n" ++ answerOf r else answerOf r
    ⟨content, false, true⟩
  else
    let content :=
      if showStages then Text.trimEnd (errorContent runFailed ++ "\n\n" ++ r.report)
      else errorContent runFailed
    ⟨content, true, true⟩

end Reckoner.Chat
