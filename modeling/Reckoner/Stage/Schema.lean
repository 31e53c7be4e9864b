import Reckoner.Schema.Check
import Reckoner.Stage.Run
import Reckoner.Stage.Transition

namespace Reckoner

open Reckoner.Json Reckoner.Schema

def Stage.firstNumber : Int := 1

def Stage.lastNumber : Int := 3

/-- The place of a stage with a number, which lies between one and three. -/
def Stage.positionOf (n : Int) : Fin 3 :=
  if n ≤ 1 then ⟨0, by decide⟩ else if n = 2 then ⟨1, by decide⟩ else ⟨2, by decide⟩

def Status.check : Check Status
  | .text s =>
    match Status.ofName? s with
    | some status => .ok status
    | none => refuse (.notStatus (Status.all.map Status.name))
  | _ => refuse (.notStatus (Status.all.map Status.name))

/-- A text or named texts; every part that does not fit either is reported. -/
def Payload.check : Check Payload
  | .text s => .ok (.text s)
  | v =>
    match dictionaryOf Schema.text v with
    | .ok members => .ok (.fields members)
    | .error issues =>
      .error (⟨.notText, [.member "str"]⟩ :: issues.map (Issue.under (.member "dict[str,str]")))

def Stage.check (members : Members) : Checked Stage :=
  let number := required members "stage" (intBetween Stage.firstNumber Stage.lastNumber)
  let name := required members "name" Schema.text
  let status := optional members "status" .pending Status.check
  let input := optional members "input" none (nullable Payload.check)
  let output := optional members "output" none (nullable Schema.text)
  let error := optional members "error" none (nullable Schema.text)
  (both number (both name (both status (both input (both output error))))).map
    fun (number, name, status, input, output, error) =>
      ⟨Stage.positionOf number, name, status, input, output, error⟩

/-- A stage that starts as data say. -/
def Stage.checkStart (members : Members) : Checked Stage :=
  let given (name : String) := (members.get? name).getD .null
  let number := under (.member "stage") (intBetween Stage.firstNumber Stage.lastNumber (given "index"))
  let name := under (.member "name") (Schema.text (given "name"))
  let input := under (.member "input") (nullable Payload.check (given "input"))
  (both number (both name input)).map fun (n, name, input) => Stage.start (Stage.positionOf n) name input

def Run.check (stages : List Stage) (members : Members) : Checked Run := do
  let success := required members "success" Schema.bool
  let answer := optional members "finalAnswer" none (nullable Schema.text)
  let (success, answer) ← both success answer
  let run : Run := ⟨stages, success, answer⟩
  match run.fault? with
  | some f => refuse (.rejected f.message)
  | none => return run

end Reckoner
