import Reckoner.Gateway.Failure
import Reckoner.Json.Reader

namespace Reckoner.Gateway

open Reckoner.Json Reckoner.Text

/-- What comes back from a model server: nothing, or a status and a body. -/
inductive Reply where
  | unreachable
  | answer (status : Int) (body : Bytes)

/-- A reply may also hold a value nested too deep to be read, or a text with half of a surrogate pair, which no
text here can hold. -/
inductive ReadFailure where
  | gateway (f : GatewayFailure)
  | tooDeep (c : Container)
  | halfPair
  deriving DecidableEq, Repr

def notJson : GatewayFailure :=
  .response "Language model response was not valid JSON."

def noText : GatewayFailure :=
  .response "Language model response did not include generated text."

def isSuccess (status : Int) : Bool :=
  200 ≤ status && status < 300

/-- The text that an object holds as its response. -/
def generated? : Value → Option String
  | .object members =>
    match members.lookup "response" with
    | some (.text s) => some s
    | _ => none
  | _ => none

/-- The text that a body gives, read with containers nested no deeper than so many levels. -/
def ofBody (depth : Nat) (body : Bytes) : Except ReadFailure String :=
  match readBytes depth body with
  | .error (.tooDeep c) => .error (.tooDeep c)
  | .error .halfPair => .error .halfPair
  | .error _ => .error (.gateway notJson)
  | .ok v =>
    match generated? v with
    | some s => .ok s
    | none => .error (.gateway noText)

def Reply.text (depth : Nat) : Reply → Except ReadFailure String
  | .unreachable => .error (.gateway .unreachable)
  | .answer status body =>
    if isSuccess status then ofBody depth body else .error (.gateway (.status status))

/-- Does the reply to a probe show that the server is there? -/
def Reply.isAlive : Reply → Bool
  | .unreachable => false
  | .answer status _ => isSuccess status

end Reckoner.Gateway
