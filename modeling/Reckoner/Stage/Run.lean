import Reckoner.Stage.Basic

namespace Reckoner

open Reckoner.Json

/-- The finished run of a question through its stages. It succeeds exactly when all three stages are complete and
there is a final answer. -/
structure Run where
  stages : List Stage
  success : Bool
  finalAnswer : Option String
  deriving DecidableEq, Repr

namespace Run

inductive Fault where
  | unordered
  | unfinished (number : Nat)
  | success
  deriving DecidableEq, Repr

def Fault.message : Fault → String
  | .unordered => "Pipeline stages must be ordered by their index."
  | .unfinished n => "Stage " ++ toString n ++ " has not finished."
  | .success => "Run success must reflect whether all three stages completed."

/-- The first stage that is out of place or not finished, counting from a place. -/
def stageFault? (place : Nat) : List Stage → Option Fault
  | [] => none
  | s :: rest =>
    if s.position.val ≠ place then some .unordered
    else if !s.isTerminal then some (.unfinished s.number)
    else stageFault? (place + 1) rest

def allComplete (stages : List Stage) : Bool :=
  stages.length = 3 && stages.all (·.status = .complete)

def fault? (r : Run) : Option Fault :=
  match stageFault? 0 r.stages with
  | some f => some f
  | none =>
    if r.success = (allComplete r.stages && r.finalAnswer.isSome) then none else some .success

def failedStage? (r : Run) : Option Stage :=
  r.stages.find? (·.status = .error)

def toMembers (r : Run) : Members :=
  [("stages", .list (r.stages.map fun s => .object s.toMembers)), ("success", .bool r.success),
    ("finalAnswer", .ofText? r.finalAnswer)]

/-- The run that a list of finished stages and the answer make. -/
def ofStages (stages : List Stage) (answer : Option String) : Run :=
  let success := allComplete stages
  ⟨stages, success, if success then answer else none⟩

end Run

end Reckoner
