import Reckoner.Json.Value

namespace Reckoner.Gateway

open Reckoner.Decimal Reckoner.Json

inductive Temperature where
  | whole (n : Int)
  | real (x : Double)
  deriving DecidableEq, Repr

def Temperature.toJson : Temperature → Value
  | .whole n => .int n
  | .real x => .real x

structure Defaults where
  model : String
  temperature : Temperature
  deriving DecidableEq, Repr

structure Request where
  model : String
  prompt : String
  temperature : Temperature
  options : Members

/-- What is asked of the model, and what the call chooses for itself. -/
structure Call where
  prompt : String
  model : Option String
  temperature : Option Temperature
  options : Members

/-- A call that leaves everything but the prompt to the gateway. -/
def Call.plain (prompt : String) : Call := ⟨prompt, none, none, []⟩

/-- A call that chooses its temperature. -/
def Call.withTemperature (prompt : String) (t : Temperature) : Call := ⟨prompt, none, some t, []⟩

/-- What a call leaves open is filled in from the defaults; options given with it come last and may replace the
temperature. -/
def Defaults.request (d : Defaults) (c : Call) : Request where
  model := match c.model with
    | some m => if m.isEmpty then d.model else m
    | none => d.model
  prompt := c.prompt
  temperature := c.temperature.getD d.temperature
  options := c.options

def Request.toMembers (r : Request) : Members :=
  [("model", .text r.model), ("prompt", .text r.prompt), ("stream", .bool false),
    ("options", .object (Members.ofPairs (("temperature", r.temperature.toJson) :: r.options)))]

end Reckoner.Gateway
