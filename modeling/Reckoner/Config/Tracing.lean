import Reckoner.Json.Value

namespace Reckoner.Config

open Reckoner.Json

/-- How runs are traced by an outside service. -/
structure Tracing where
  publicKey : Option String
  secretKey : Option String
  host : Option String
  release : Option String
  deriving DecidableEq, Repr

def given (key : Option String) : Bool :=
  match key with
  | some s => !s.isEmpty
  | none => false

/-- Runs are traced when both keys are given. -/
def Tracing.isEnabled (t : Tracing) : Bool :=
  given t.publicKey && given t.secretKey

/-- The client of the tracing service, by what it says to the keys that it is given: nothing, or why it fails. -/
abbrev Client := Tracing → Option String

/-- Why runs that are to be traced cannot be: the client is not there, or it fails. -/
inductive TracingFault where
  | clientMissing
  | client (message : String)
  deriving DecidableEq, Repr

def TracingFault.message : TracingFault → String
  | .clientMissing => "Install palchat[tracing] to trace pipeline runs with Langfuse."
  | .client m => m

/-- How many tracers follow each run, with the client that is there. -/
def Tracing.tracers (client : Option Client) (t : Tracing) : Except TracingFault Nat :=
  if t.isEnabled then
    match client with
    | none => .error .clientMissing
    | some trace =>
      match trace t with
      | none => .ok 1
      | some m => .error (.client m)
  else .ok 0

/-- What groups the runs of a session; runs without a session are not grouped. -/
def runMetadata (sessionId : Option String) : Members :=
  match sessionId with
  | some s => if s.isEmpty then [] else [("langfuse_session_id", .text s), ("session_id", .text s)]
  | none => []

end Reckoner.Config
