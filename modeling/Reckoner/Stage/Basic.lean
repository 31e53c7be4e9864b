import Reckoner.Json.Value

namespace Reckoner

open Reckoner.Json

inductive Status where
  | pending
  | running
  | complete
  | error
  deriving DecidableEq, Repr

namespace Status

def all : List Status := [.pending, .running, .complete, .error]

def name : Status → String
  | .pending => "pending"
  | .running => "running"
  | .complete => "complete"
  | .error => "error"

def ofName? (s : String) : Option Status :=
  all.find? fun status => status.name == s

def isTerminal : Status → Bool
  | .complete | .error => true
  | .pending | .running => false

theorem ofName?_name (s : Status) : ofName? s.name = some s := by
  cases s <;> decide

end Status

/-- What a stage takes: a text, or named texts. -/
inductive Payload where
  | text (s : String)
  | fields (members : List (String × String))
  deriving DecidableEq, Repr

def Payload.isEmpty : Payload → Bool
  | .text s => s.isEmpty
  | .fields members => members.isEmpty

def Payload.toJson : Payload → Value
  | .text s => .text s
  | .fields members => .object (members.map fun (n, s) => (n, .text s))

/-- A stage by which a question is answered: what it took, what it gave and how far it is. -/
structure Stage where
  position : Fin 3
  name : String
  status : Status
  input : Option Payload
  output : Option String
  error : Option String
  deriving DecidableEq, Repr

namespace Stage

/-- Stages are counted from one. -/
def number (s : Stage) : Nat :=
  s.position + 1

def isTerminal (s : Stage) : Bool :=
  s.status.isTerminal

def toMembers (s : Stage) : Members :=
  [("stage", .int s.number), ("name", .text s.name), ("status", .text s.status.name),
    ("input", (s.input.map Payload.toJson).getD .null), ("output", .ofText? s.output),
    ("error", .ofText? s.error)]

end Stage

end Reckoner
