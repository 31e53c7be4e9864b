import Reckoner.Text.Blank
import Reckoner.Web.Query

namespace Reckoner.Web

open Reckoner.Text

def sessionRoot : List Char := "/chat/session/".toList

/-- What stands behind the session path, if it is one part that is not empty. -/
def pathSession? (path : List Char) : Option String :=
  if sessionRoot.isPrefixOf path then
    let rest := path.drop sessionRoot.length
    if rest.isEmpty || rest.contains '/' then none else some (String.ofList rest)
  else none

/-- The session that a request is about: the last part of a session path, or a query parameter. -/
def sessionOf (path : List Char) (query : Query) : Option String :=
  match pathSession? path with
  | some s => some s
  | none => query.last? "sessionId"

inductive Endpoint where
  | evaluate
  | modelStatus
  | say
  | openSession (id : String)
  | showSession (id : String)
  | dropSession (id : String)
  | listen
  | health
  deriving DecidableEq, Repr

structure Route where
  method : String
  accepts : List Char → Option Endpoint

namespace Route

/-- One path, which may have a line break at its end. -/
def fixed (method path : String) (e : Endpoint) : Route :=
  ⟨method, fun p => if p = path.toList || p = path.toList ++ ['\n'] then some e else none⟩

/-- The path of a session, whose name is one part that is not empty. -/
def session (method : String) (make : String → Endpoint) : Route :=
  ⟨method, fun p =>
    if sessionRoot.isPrefixOf p then
      let name := p.drop sessionRoot.length
      if name.isEmpty || name.contains '/' then none else some (make (String.ofList name))
    else none⟩

def accepting (r : Route) (path : List Char) : Bool :=
  (r.accepts path).isSome

end Route

def routes (hasEvents : Bool) : List Route :=
  [.fixed "GET" "/evaluate" .evaluate, .fixed "GET" "/llm/status" .modelStatus, .fixed "POST" "/chat" .say,
    .session "POST" .openSession, .session "GET" .showSession, .session "DELETE" .dropSession] ++
  (if hasEvents then [.fixed "GET" "/events" .listen] else []) ++
  [.fixed "GET" "/health" .health]

end Reckoner.Web
