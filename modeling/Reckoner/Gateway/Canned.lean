import Reckoner.Gateway.Failure
import Reckoner.Gateway.Request

namespace Reckoner.Gateway

/-- A gateway whose replies are laid out beforehand, or behind which nothing can be reached. It keeps the requests
that it has answered. -/
structure Canned where
  defaults : Defaults
  reachable : Bool
  /-- What a probe is told, if it gets through. -/
  available : Bool
  queue : List (Except CallFailure String)
  requests : List Request

namespace Canned

def new (defaults : Defaults) : Canned := ⟨defaults, true, true, [], []⟩

def offline (defaults : Defaults) : Canned := ⟨defaults, false, true, [], []⟩

def isAvailable (c : Canned) : Bool :=
  c.reachable && c.available

def push (c : Canned) (item : Except CallFailure String) : Canned :=
  { c with queue := c.queue ++ [item] }

/-- Drops the replies that are left, and is available again. -/
def clear (c : Canned) : Canned :=
  { c with queue := [], available := true }

def setAvailable (c : Canned) (available : Bool) : Canned :=
  { c with available := available }

def exhausted : GatewayFailure :=
  .unavailable "No fake completions queued for the language model gateway."

/-- The next reply, to a request that is kept. -/
def generate (c : Canned) (call : Call) : Canned × Except CallFailure String :=
  let c := { c with requests := c.requests ++ [c.defaults.request call] }
  if c.reachable then
    match c.queue with
    | [] => (c, .error (.gateway exhausted))
    | item :: rest => ({ c with queue := rest }, item)
  else (c, .error (.gateway .unreachable))

end Canned

end Reckoner.Gateway
