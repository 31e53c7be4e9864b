import Reckoner.Chat.Reply
import Reckoner.Chat.Store
import Reckoner.Context
import Reckoner.Schema.Issue
import Reckoner.Solver.Basic

namespace Reckoner.Chat

open Reckoner.Gateway

/-- What a turn waits for: an answer to the message itself, or the solution of a question. -/
inductive Wait where
  | answer (text : String)
  | solution (p : Solver.Pending)
  deriving DecidableEq, Repr

namespace Wait

def call (m : Solver.Manner) : Wait → Call
  | answer text => .plain text
  | solution p => p.call m

/-- How many replies of the model are still to come, at most. -/
def remaining : Wait → Nat
  | answer _ => 1
  | solution p => p.remaining

end Wait

/-- A turn in flight: whether its reply shows the stages, the conversation with the person's message in
it, and the context in which it is served. -/
structure Turn where
  sessionId : String
  showStages : Bool
  conversation : Conversation
  context : Context
  token : Context.Token
  wait : Wait

/-- The context when the turn is over. -/
def Turn.contextAfter (t : Turn) : Context :=
  match t.context.release .sessionId t.token with
  | .ok (c, _) => c
  | .error _ => t.context

structure Response where
  reply : Message
  run : Option Run
  messages : List Message
  deriving DecidableEq, Repr

/-- Why a turn has no response: another is in flight, its message is not acceptable, or a call of the
model broke down in a way that the gateway does not report. -/
inductive TurnFailure where
  | busy (b : Busy)
  | unacceptable (issues : List Schema.Issue)
  | defect (d : Defect)

inductive Progress where
  | waiting (t : Turn)
  | ended (context : Context) (result : Except TurnFailure Response)

def Progress.remaining : Progress → Nat
  | .waiting t => t.wait.remaining
  | .ended .. => 0

end Reckoner.Chat
