import Reckoner.Web.Service.Serving

namespace Reckoner.Web.Service

/-- Serves a request at its place; nothing is said after a breakdown. -/
def route (w : Framework) (s : Service) (time : String) (context : Context) (r : Request) :
    Service × Option Response :=
  match w.place (routes s.settings.enableEvents) r with
  | .own response => (s, some response)
  | .endpoint e =>
    match s.serve w time context r e with
    | (s, .ok response) => (s, some response)
    | (s, .error t) => (s, t.response? context.requestId)

/-- Serves a request that may come from a page of another origin. -/
def answer (w : Framework) (s : Service) (time : String) (context : Context) (r : Request) :
    Service × Option Response :=
  match s.settings.origins with
  | [] => s.route w time context r
  | origins =>
    match w.preflight ⟨origins⟩ r with
    | some response => (s, some response)
    | none =>
      let (s, response) := s.route w time context r
      (s, response.map (w.expose ⟨origins⟩ r))

/-- The context of a request: its own id or a fresh one, and its session. There is none if the address of the request
cannot be taken apart. -/
def contextOf (w : Framework) (fresh : String) (r : Request) : Option Context :=
  (w.addressPath r).map fun path =>
    ⟨some (Context.requestIdOr fresh (r.header? "x-request-id")), sessionOf path r.query⟩

/-- Handles a request: it is led to its place and served there, pages of other origins are told what they may read,
and every response but that to a breakdown gets the id of its request. -/
def handle (w : Framework) (s : Service) (time fresh : String) (r : Request) : Service × Response :=
  match contextOf w fresh r with
  | none => (s, breakdownResponse)
  | some context =>
    match s.answer w time context r with
    | (s, some response) => (s, response.withHeader "x-request-id" (context.requestId.getD ""))
    | (s, none) => (s, breakdownResponse)

end Reckoner.Web.Service
