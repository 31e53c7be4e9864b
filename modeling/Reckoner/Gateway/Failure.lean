namespace Reckoner

/-- A failure that the gateway reports: an answer with a status that is no success, no answer, an
answer that cannot be used, or another in its own words. -/
inductive GatewayFailure where
  | status (code : Int)
  | unavailable (message : String)
  | response (message : String)
  | other (message : String)
  deriving DecidableEq, Repr

def GatewayFailure.message : GatewayFailure → String
  | .status code => "HTTP error! status: " ++ toString code
  | .unavailable m | .response m | .other m => m

/-- There is no answer at all. -/
def GatewayFailure.unreachable : GatewayFailure :=
  .unavailable "Language model backend is unreachable."

/-- A failure that is not the gateway's own. -/
inductive Defect where
  | application (message : String)
  | value (message : String)
  deriving DecidableEq, Repr

/-- A call ends with a failure of the gateway or with a defect. -/
inductive CallFailure where
  | gateway (f : GatewayFailure)
  | defect (d : Defect)
  deriving DecidableEq, Repr

end Reckoner
