import Reckoner.Feed.Basic

namespace Reckoner.Feed

open Reckoner.Json

inductive Phase where
  | unopened
  | running (replied : Bool)
  | closed
  deriving DecidableEq, Repr

/-- The stream of one listener: a ready frame, then a frame for each event of a selected kind, and a heartbeat
whenever nothing is queued. Heartbeats do not count towards the greatest number of frames. -/
structure Stream where
  sessionId : String
  maxEvents : Option Int
  kinds : List String
  untilReply : Bool
  sent : Nat
  phase : Phase

namespace Stream

def new (sessionId : String) (maxEvents : Option Int) (kinds : List String) (untilReply : Bool) : Stream :=
  ⟨sessionId, maxEvents, kinds, untilReply, 0, .unopened⟩

def ready (s : Stream) : Frame :=
  ⟨none, "ready", .object [("sessionId", .text s.sessionId), ("status", .text "ready")]⟩

def heartbeat (s : Stream) : Frame :=
  ⟨none, "heartbeat", .object [("sessionId", .text s.sessionId), ("status", .text "idle")]⟩

def frameOf (time : String) (e : Event) : Frame :=
  ⟨some e.sequence, e.kind, .object (e.toMembers time)⟩

def selects (s : Stream) (e : Event) : Bool :=
  s.kinds.contains e.kind

def isFull (s : Stream) : Bool :=
  match s.maxEvents with
  | some limit => limit ≤ s.sent
  | none => false

/-- Ends the stream; one that never opened has nothing to give up. -/
def close (s : Stream) (f : Feed) : Stream × Feed :=
  match s.phase with
  | .running _ => ({ s with phase := .closed }, f.unregister s.sessionId)
  | _ => ({ s with phase := .closed }, f)

/-- The next event of a selected kind; those before it in the queue are dropped. -/
def nextEvent (s : Stream) (f : Feed) : Option Event × Feed :=
  let c := f.channel s.sessionId
  match c.queue.dropWhile (!s.selects ·) with
  | [] => (none, f.set s.sessionId { c with queue := [] })
  | e :: rest => (some e, f.set s.sessionId { c with queue := rest })

/-- The next frame, or none when the stream has ended. -/
def pull (time : String) (s : Stream) (f : Feed) : Option Frame × Stream × Feed :=
  match s.phase with
  | .unopened => (some s.ready, { s with sent := 1, phase := .running false }, f.register s.sessionId)
  | .closed => (none, s, f)
  | .running replied =>
    if replied || s.isFull then
      let (s, f) := s.close f
      (none, s, f)
    else
      match s.nextEvent f with
      | (none, f) => (some s.heartbeat, s, f)
      | (some e, f) =>
        let replied := s.untilReply && e.kind == replyKind
        (some (frameOf time e), { s with sent := s.sent + 1, phase := .running replied }, f)

/-- Pulls so often, and stops where the stream ends or is idle. -/
def pullMany (time : String) : Nat → Stream → Feed → List Frame × Stream × Feed
  | 0, s, f => ([], s, f)
  | n + 1, s, f =>
    match s.pull time f with
    | (none, s, f) => ([], s, f)
    | (some frame, s, f) =>
      if frame.kind = "heartbeat" then ([frame], s, f)
      else
        let (frames, s, f) := pullMany time n s f
        (frame :: frames, s, f)

/-- Everything that a new stream sends of what is queued. -/
def takeAll (time : String) (s : Stream) (f : Feed) : List Frame × Feed :=
  let (frames, s, f) := pullMany time ((f.channel s.sessionId).queue.length + 2) s f
  (frames, (s.close f).2)

end Stream

end Reckoner.Feed
