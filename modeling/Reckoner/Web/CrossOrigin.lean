import Reckoner.Web.Exchange

namespace Reckoner.Web

/-- The origins that may call; a star among them stands for all. -/
structure CrossOrigin where
  origins : List String
  deriving DecidableEq, Repr

namespace CrossOrigin

def allowedMethods : List String := ["GET", "POST", "DELETE", "OPTIONS"]

def isOpen (c : CrossOrigin) : Bool :=
  c.origins.contains "*"

def allows (c : CrossOrigin) (origin : String) : Bool :=
  c.isOpen || c.origins.contains origin

def credentials : String × String := ("access-control-allow-credentials", "true")

def allowOrigin : String := "access-control-allow-origin"

/-- The answer to a page that asks beforehand. -/
def preflight (c : CrossOrigin) (origin method : String) : Response :=
  let refusals := (if c.allows origin then [] else ["origin"]) ++
    (if allowedMethods.contains method then [] else ["method"])
  let headers := [credentials, ("access-control-allow-methods", ", ".intercalate allowedMethods)] ++
    if c.allows origin then [(allowOrigin, origin)] else []
  if refusals.isEmpty then ⟨200, headers, .text "OK"⟩
  else ⟨400, headers, .text ("Disallowed CORS " ++ ", ".intercalate refusals)⟩

/-- The origin that is told to a caller; one that sends cookies is told its own. -/
def toldOrigin (c : CrossOrigin) (origin : String) (hasCookie : Bool) : Option String :=
  if c.isOpen then some (if hasCookie then origin else "*")
  else if c.origins.contains origin then some origin
  else none

def decorate (c : CrossOrigin) (origin : String) (hasCookie : Bool) (r : Response) : Response :=
  let r := r.withHeader credentials.1 credentials.2
  let r := r.withHeader "access-control-expose-headers" "X-Request-ID"
  match c.toldOrigin origin hasCookie with
  | some o => r.withHeader allowOrigin o
  | none => r

/-- The method that a page asks for beforehand. -/
def asked? (r : Request) : Option String :=
  if r.method = "OPTIONS" then r.header? "access-control-request-method" else none

end CrossOrigin

end Reckoner.Web
