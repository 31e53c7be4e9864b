import Reckoner.Json.Printer
import Reckoner.Text.Encoding

namespace Reckoner.Feed

open Reckoner.Arithmetic (Oversize)
open Reckoner.Json Reckoner.Text

/-- What happened in a session and where, with the number of the event within its session. -/
structure Event where
  sessionId : String
  sequence : Nat
  kind : String
  node : String
  data : Members
  deriving Repr

/-- The kind of the event that ends a turn. -/
def replyKind : String := "reply"

def stageKind : String := "stage"

def pipelineKind : String := "pipeline"

/-- The kinds that a listener can select. -/
def kinds : List String := [stageKind, pipelineKind, replyKind]

def Event.toMembers (e : Event) (time : String) : Members :=
  [("sessionId", .text e.sessionId), ("sequence", .int e.sequence), ("type", .text e.kind),
    ("node", .text e.node), ("timestamp", .text time), ("data", .object e.data)]

/-- A frame of a server-sent event stream: an id if there is one, a kind, and one line of JSON. -/
structure Frame where
  id : Option Int
  kind : String
  data : Value
  deriving Repr

namespace Frame

/-- The line of an id; a frame without one has no such line. -/
def idLines : Option Int → Except Oversize (List String)
  | some n => do
    let digits ← writeWhole n
    return ["id: " ++ digits]
  | none => .ok []

def lines (f : Frame) : Except Oversize (List String) := do
  let id ← idLines f.id
  let data ← write .unicode f.data
  return id ++ ["event: " ++ f.kind, "data: " ++ data]

def text (f : Frame) : Except Oversize String := do
  let lines ← f.lines
  return "\n".intercalate lines ++ "\n\n"

/-- A frame as it is sent. -/
def bytes (f : Frame) : Except Oversize Bytes :=
  f.text.map bytesOf

end Frame

end Reckoner.Feed
