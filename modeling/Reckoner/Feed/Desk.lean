import Reckoner.Feed.Basic

namespace Reckoner.Feed

/-- Why there is no next event: nobody has ever listened, the time ran out, a waiter was woken too
late, or the limit of the queue is no size. -/
inductive NoEvent where
  | nothingQueued
  | timedOut
  | badLimit
  deriving DecidableEq, Repr

def NoEvent.message : NoEvent → String
  | .nothingQueued => "No events available."
  | .timedOut => ""
  | .badLimit => "maxlen must be non-negative"

inductive Outcome where
  | pending
  | event (e : Event)
  | failed (reason : NoEvent)
  | cancelled

inductive Operation where
  | emit (sessionId kind node : String) (data : Json.Members)
  | drain (sessionId : String)
  | clear (sessionId : String)
  | register (sessionId : String)
  | unregister (sessionId : String)
  | next (sessionId : String)
  | wait (sessionId tag : String)
  | cancel (tag : String)
  | collect (tag : String)

inductive Answer where
  | done
  | event (e : Event)
  | events (es : List Event)
  | count (n : Nat)
  | outcome (o : Outcome)
  | refused (reason : NoEvent)
  | unknownTag (tag : String)

/-- The feed, absent if its limit is no size; who waits under which tag; and what waits came to. -/
structure Desk where
  feed : Option Feed
  tags : Table Nat
  outcomes : List Outcome

namespace Desk

def new (limit : Int) : Desk :=
  ⟨if limit < 0 then none else some (Feed.new limit.toNat), .empty, []⟩

/-- Starts to count a wait, with its outcome so far. -/
def begin (d : Desk) (tag : String) (o : Outcome) : Desk :=
  { d with tags := d.tags.put tag d.outcomes.length, outcomes := d.outcomes ++ [o] }

def resolve (outcomes : List Outcome) : List (Nat × Option Event) → List Outcome
  | [] => outcomes
  | (w, some e) :: rest => resolve (outcomes.set w (.event e)) rest
  | (w, none) :: rest => resolve (outcomes.set w (.failed .nothingQueued)) rest

/-- The oldest event of a session at once, or why there is none. -/
def next (f : Feed) (sessionId : String) : Feed × Except NoEvent Event :=
  let c := f.channel sessionId
  match c.take? with
  | some (e, c) => (f.set sessionId c, .ok e)
  | none => (f.set sessionId c, .error (if c.registered then .timedOut else .nothingQueued))

def wait (d : Desk) (f : Feed) (sessionId tag : String) : Desk :=
  match next f sessionId with
  | (f, .ok e) => { d with feed := some f }.begin tag (.event e)
  | (f, .error .timedOut) =>
    let c := f.channel sessionId
    let f := f.set sessionId { c with waiting := c.waiting ++ [d.outcomes.length] }
    { d with feed := some f }.begin tag .pending
  | (f, .error reason) => { d with feed := some f }.begin tag (.failed reason)

/-- Gives up a wait that has not ended. -/
def cancel (d : Desk) (w : Nat) : Desk :=
  match d.outcomes[w]? with
  | some .pending =>
    let stop (c : Channel) : Channel := { c with waiting := c.waiting.filter (· != w) }
    let feed := d.feed.map fun f =>
      { f with channels := ⟨f.channels.entries.map fun (s, c) => (s, stop c)⟩ }
    { d with feed := feed, outcomes := d.outcomes.set w .cancelled }
  | _ => d

def stepFeed (d : Desk) (f : Feed) : Operation → Desk × Answer
  | .emit s kind node data =>
    let (f, e) := f.emit s kind node data
    let (f, woken) := f.settle s
    ({ d with feed := some f, outcomes := resolve d.outcomes woken }, .event e)
  | .drain s => ({ d with feed := some (f.drain s).2 }, .events (f.drain s).1)
  | .clear s => ({ d with feed := some (f.clear s).2 }, .count (f.clear s).1)
  | .register s => ({ d with feed := some (f.register s) }, .done)
  | .unregister s => ({ d with feed := some (f.unregister s) }, .done)
  | .next s =>
    match next f s with
    | (f, .ok e) => ({ d with feed := some f }, .event e)
    | (f, .error reason) => ({ d with feed := some f }, .refused reason)
  | .wait s tag => (d.wait f s tag, .done)
  | _ => (d, .done)

/-- Without a usable limit, whatever would make a channel fails. -/
def stepWithout (d : Desk) : Operation → Desk × Answer
  | .drain _ => (d, .events [])
  | .clear _ => (d, .count 0)
  | .unregister _ => (d, .done)
  | .wait _ tag => (d.begin tag (.failed .badLimit), .done)
  | _ => (d, .refused .badLimit)

def stepTag (d : Desk) (tag : String) (act : Nat → Desk × Answer) : Desk × Answer :=
  match d.tags.get? tag with
  | some w => act w
  | none => (d, .unknownTag tag)

def step (d : Desk) (o : Operation) : Desk × Answer :=
  match o, d.feed with
  | .cancel tag, _ => d.stepTag tag fun w => (d.cancel w, .done)
  | .collect tag, _ =>
    d.stepTag tag fun w => (d, .outcome (d.outcomes[w]?.getD .pending))
  | o, some f => d.stepFeed f o
  | o, none => d.stepWithout o

end Desk

end Reckoner.Feed
