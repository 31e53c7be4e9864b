import Reckoner.Web.Framework

namespace Reckoner.Web

open Reckoner.Json

/-- The error that a body tells, if it is one of the service's own error bodies. -/
def Response.error? (r : Response) : Option Value :=
  match r.body with
  | .json (.object members) => Members.get? members "error"
  | _ => none

/-- What the service relies on. The framework tells no errors in the service's form, leaves the bodies of responses
as they are, and leads requests to endpoints of routes that take them. -/
structure Framework.Lawful (w : Framework) : Prop where
  own {routes : List Route} {r : Request} {response : Response} (h : w.place routes r = .own response) :
    response.error? = none
  preflight {c : CrossOrigin} {r : Request} {response : Response} (h : w.preflight c r = some response) :
    response.error? = none
  expose (c : CrossOrigin) (r : Request) (response : Response) : (w.expose c r response).body = response.body
  endpoint {routes : List Route} {r : Request} {e : Endpoint} (h : w.place routes r = .endpoint e) :
    ∃ route ∈ routes, route.method = r.method ∧ route.accepts r.path = some e

end Reckoner.Web
