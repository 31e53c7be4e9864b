import Reckoner.Arithmetic.Schema
import Reckoner.Feed.Stream
import Reckoner.Web.Framework
import Reckoner.Web.Service.Basic

namespace Reckoner.Web.Service

open Reckoner.Json Reckoner.Schema

def evaluate (q : Query) : Except Trouble Response :=
  match q.last? "expression" with
  | none => .error (.invalid [⟨.missing, [.member "query", .member "expression"]⟩])
  | some expression =>
    match Arithmetic.evaluate expression with
    | .ok result => .ok (.object result.toMembers)
    | .error f => .error (.failure (.evaluation f))

def modelStatus (s : Service) : Except Trouble Response :=
  match s.gateway with
  | .error f => .error (.failure (.gateway f))
  | .ok g => .ok (.object [("available", .bool g.isAvailable), ("model", .text g.defaults.model),
      ("baseUrl", .text s.settings.baseUrl)])

def responseMembers (r : Chat.Response) : Members :=
  [("response", .object r.reply.toMembers),
    ("pipeline", match r.run with | some run => .object run.toMembers | none => .null),
    ("messages", .list (r.messages.map fun m => .object m.toMembers))]

def historyResponse (c : Chat.Conversation) : Response :=
  .object [("sessionId", .text c.sessionId),
    ("messages", .list (c.messages.map fun m => .object m.toMembers))]

/-- Bodies that are no JSON are refused before anything else, other bodies only after the gateway is
there. -/
def say (w : Framework) (s : Service) (context : Context) (r : Request) : Service × Except Trouble Response :=
  match w.content r with
  | .error f => (s, .error (.ofContent f))
  | .ok content =>
    match s.conversationGateway, content.check with
    | .error t, _ => (s, .error t)
    | .ok _, .error issues => (s, .error (.invalid issues))
    | .ok g, .ok said =>
      let (g, assistant, _, result) :=
        s.assistant.respond g context said.sessionId said.message said.verbose
      ({ s with assistant, gateway := .ok g },
        (result.mapError .ofTurn).map fun a => .object (responseMembers a))

def openSession (s : Service) (id : String) : Service × Except Trouble Response :=
  match s.conversationGateway with
  | .error t => (s, .error t)
  | .ok g =>
    let (assistant, c) := s.assistant.start g id
    ({ s with assistant }, .ok (historyResponse c))

def showSession (s : Service) (id : String) : Except Trouble Response := do
  let _ ← s.conversationGateway
  return historyResponse (← (s.assistant.history id).mapError .failure)

def dropSession (s : Service) (id : String) : Service × Except Trouble Response :=
  match s.conversationGateway with
  | .error t => (s, .error t)
  | .ok _ =>
    match s.assistant.reset id with
    | .error b => (s, .error (.failure (.busy b)))
    | .ok assistant => ({ s with assistant }, .ok ⟨204, [], .empty⟩)

/-- The stream that a query asks for. Kinds that do not exist are left out; naming none selects all. -/
def askedStream (q : Query) : Checked Feed.Stream :=
  let members := Members.ofPairs (q.map fun (n, v) => (n, .text v))
  let sessionId := required members "sessionId" nonemptyText
  let maxEvents := optional members "maxEvents" none fun v => (intBetween 1 100 v).map some
  let untilReply := optional members "untilReply" false bool
  let named := q.all "type"
  let kinds := if named.isEmpty then Feed.kinds else Feed.kinds.filter named.contains
  under (.member "query") <|
    (both sessionId (both maxEvents untilReply)).map fun (id, most, untilReply) =>
      .new id most kinds untilReply

def listen (s : Service) (time : String) (q : Query) : Service × Except Trouble Response :=
  match askedStream q, s.assistant.feed with
  | .error issues, _ => (s, .error (.invalid issues))
  | .ok _, none => (s, .error .breakdown)
  | .ok stream, some feed =>
    let (frames, feed) := stream.takeAll time feed
    ({ s with assistant := { s.assistant with feed := some feed } },
      .ok ⟨200, [("cache-control", "no-cache"), ("x-accel-buffering", "no")], .events frames⟩)

def serve (w : Framework) (s : Service) (time : String) (context : Context) (r : Request) :
    Endpoint → Service × Except Trouble Response
  | .evaluate => (s, evaluate r.query)
  | .modelStatus => (s, s.modelStatus)
  | .say => s.say w context r
  | .openSession id => s.openSession id
  | .showSession id => (s, s.showSession id)
  | .dropSession id => s.dropSession id
  | .listen => s.listen time r.query
  | .health => (s, .ok (.object [("status", .text "ok")]))

end Reckoner.Web.Service
