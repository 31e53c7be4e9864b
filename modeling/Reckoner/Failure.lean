import Reckoner.Arithmetic.Evaluation
import Reckoner.Chat.Store
import Reckoner.Gateway.Failure
import Reckoner.Json.Value
import Reckoner.Prompt.Basic
import Reckoner.Stage.Transition

namespace Reckoner

open Reckoner.Json

inductive Failure where
  | application (message : String)
  | evaluation (f : Arithmetic.Failure)
  | gateway (f : GatewayFailure)
  | missingVariables (id : String) (names : List String)
  | transition (f : TransitionFault)
  | busy (b : Chat.Busy)
  | unknownSession (sessionId : String)
  deriving DecidableEq, Repr

namespace Failure

def message : Failure → String
  | .application m => m
  | .evaluation f => f.fault.message
  | .gateway f => f.message
  | .missingVariables id names => (Prompt.Refusal.missing id names).message
  | .transition f => f.message
  | .busy b => b.message
  | .unknownSession s => "Unknown session '" ++ s ++ "'."

def status : Failure → Nat
  | .application _ | .missingVariables .. | .transition _ => 500
  | .evaluation _ => 400
  | .gateway _ => 502
  | .busy _ => 409
  | .unknownSession _ => 404

def kind : Failure → String
  | .application _ => "APP_ERROR"
  | .evaluation _ => "EVALUATION_ERROR"
  | .gateway (.status _) => "LLM_HTTP_ERROR"
  | .gateway (.unavailable _) => "LLM_UNAVAILABLE"
  | .gateway (.response _) => "LLM_RESPONSE_ERROR"
  | .gateway (.other _) => "LLM_GATEWAY_ERROR"
  | .missingVariables .. => "PROMPT_RENDER_ERROR"
  | .transition _ => "STAGE_TRANSITION_ERROR"
  | .busy _ => "CONVERSATION_BUSY"
  | .unknownSession _ => "SESSION_NOT_FOUND"

def details : Failure → Members
  | .evaluation f => [("expression", .text f.expression)]
  | .gateway (.status code) => [("upstreamStatus", .int code)]
  | .missingVariables id names =>
    [("promptId", .text id), ("missing", .list (names.map .text))]
  | .transition (.notRunning n _) => [("stage", .int n)]
  | .busy b => [("sessionId", .text b.sessionId)]
  | _ => []

end Failure

end Reckoner
