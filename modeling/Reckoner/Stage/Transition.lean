import Reckoner.Stage.Basic

namespace Reckoner

inductive TransitionFault where
  | notRunning (number : Nat) (status : Status)
  | finished (number : Nat)
  | tooEarly (number before : Nat)
  | outOfOrder (number : Nat)
  deriving DecidableEq, Repr

def TransitionFault.message : TransitionFault → String
  | .notRunning n status =>
    "Stage " ++ toString n ++ " cannot finish from status '" ++ status.name ++ "'."
  | .finished n => "Stage " ++ toString n ++ " has already finished."
  | .tooEarly n before =>
    "Stage " ++ toString n ++ " cannot start before stage " ++ toString before ++ " finishes."
  | .outOfOrder n => "Stage " ++ toString n ++ " is out of order."

namespace Stage

def start (position : Fin 3) (name : String) (input : Option Payload) : Stage :=
  ⟨position, name, .running, input, none, none⟩

def complete (s : Stage) (output : String) : Except TransitionFault Stage :=
  if s.status = .running then .ok { s with status := .complete, output := some output }
  else .error (.notRunning s.number s.status)

def fail (s : Stage) (reason : String) : Except TransitionFault Stage :=
  if s.status = .running then .ok { s with status := .error, error := some reason }
  else .error (.notRunning s.number s.status)

/-- Takes one report into a list of stages: it replaces an unfinished stage, or follows the last. -/
def mergeOne (stages : List Stage) (s : Stage) : Except TransitionFault (List Stage) :=
  match stages[s.position.val]? with
  | some old =>
    if old.isTerminal then .error (.finished s.number)
    else .ok (stages.set s.position s)
  | none =>
    if s.position.val = stages.length then
      match stages.getLast? with
      | some last =>
        if last.isTerminal then .ok (stages ++ [s]) else .error (.tooEarly s.number last.number)
      | none => .ok [s]
    else .error (.outOfOrder s.number)

def merge (stages updates : List Stage) : Except TransitionFault (List Stage) :=
  updates.foldlM mergeOne stages

theorem merge_append (stages a b : List Stage) :
    merge stages (a ++ b) = (merge stages a).bind (merge · b) := by
  simp only [merge, List.foldlM_append]
  rfl

end Stage

end Reckoner
