import Reckoner.Arithmetic.Evaluation
import Reckoner.Json.Shown
import Reckoner.Schema.Check

namespace Reckoner.Arithmetic

open Reckoner.Decimal Reckoner.Json Reckoner.Schema

/-- A result as data tell it, with a tag that tells a success from a failure. The value of a success is a finite
number, or a text exactly when it is said to be exact. -/
inductive Report where
  | success (s : Success)
  | failure (expression message : String)
  deriving DecidableEq, Repr

def successTag : String := "ok"

def failureTag : String := "error"

def Success.toMembers (s : Success) : Members :=
  [("status", .text successTag), ("expression", .text s.expression),
    ("value", match s.value with | .number x => .real x | .digits d => .text d),
    ("exact", .bool s.value.isExact), ("formatted", .text s.formatted)]

def Report.toMembers : Report → Members
  | .success s => s.toMembers
  | .failure e m => [("status", .text failureTag), ("expression", .text e), ("message", .text m)]

/-- The report of an evaluation. -/
def Report.of : Except Failure Success → Report
  | .ok s => .success s
  | .error f => .failure f.expression f.fault.message

/-- A text, or a number; what is neither is reported as both. -/
def Outcome.check : Check Outcome
  | .text s => .ok (.digits s)
  | v =>
    match Schema.number v with
    | .ok x => .ok (.number x)
    | .error issues =>
      .error (issues.map (Issue.under (.member "float")) ++ [⟨.notText, [.member "str"]⟩])

def Outcome.isFinite : Outcome → Bool
  | .number x => x.isFinite
  | .digits _ => true

def checkSuccess (members : Members) : Checked Report := do
  let expression := required members "expression" text
  let value := required members "value" Outcome.check
  let exact := optional members "exact" false bool
  let formatted := required members "formatted" text
  let (expression, value, exact, formatted) ← both expression (both value (both exact formatted))
  require (exact = value.isExact)
    "Exact results carry a decimal string; float results carry a number."
  require value.isFinite "Float results must be finite."
  return .success ⟨expression, value, formatted⟩

def checkFailure (members : Members) : Checked Report :=
  (both (required members "expression" text) (required members "message" text)).map
    fun (e, m) => .failure e m

def Report.check (members : Members) : Checked Report :=
  match members.get? "status" with
  | none => refuse (.noTag "status")
  | some tag =>
    if tag.text? = some successTag then under (.member successTag) (checkSuccess members)
    else if tag.text? = some failureTag then under (.member failureTag) (checkFailure members)
    else refuse (.unknownTag (shown tag) "status" [successTag, failureTag])

end Reckoner.Arithmetic
