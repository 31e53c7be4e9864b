import Reckoner.Feed.Channel
import Reckoner.Table

namespace Reckoner

open Reckoner.Feed

/-- One channel for each session, made when something first happens on it. -/
structure Feed where
  limit : Nat
  channels : Table Channel

namespace Feed

/-- How many events a queue keeps unless told otherwise. -/
def usualLimit : Nat := 200

def new (limit : Nat) : Feed := ⟨limit, .empty⟩

def channel (f : Feed) (sessionId : String) : Channel :=
  (f.channels.get? sessionId).getD Channel.new

def set (f : Feed) (sessionId : String) (c : Channel) : Feed :=
  { f with channels := f.channels.put sessionId c }

def emit (f : Feed) (sessionId kind node : String) (data : Json.Members) : Feed × Event :=
  let (c, e) := (f.channel sessionId).emit f.limit sessionId kind node data
  (f.set sessionId c, e)

/-- Lets the listener's loop of a session queue what was handed to it. -/
def settle (f : Feed) (sessionId : String) : Feed × List (Nat × Option Event) :=
  let (c, woken) := (f.channel sessionId).settle f.limit
  (f.set sessionId c, woken)

/-- Emits an event and lets the loop run. -/
def publish (f : Feed) (sessionId kind node : String) (data : Json.Members) : Feed :=
  ((f.emit sessionId kind node data).1.settle sessionId).1

def register (f : Feed) (sessionId : String) : Feed :=
  f.set sessionId (f.channel sessionId).register

/-- A session without a channel has no listener. -/
def unregister (f : Feed) (sessionId : String) : Feed :=
  match f.channels.get? sessionId with
  | some c => f.set sessionId c.unregister
  | none => f

def drain (f : Feed) (sessionId : String) : List Event × Feed :=
  match f.channels.get? sessionId with
  | some c => (c.drain.1, f.set sessionId c.drain.2)
  | none => ([], f)

/-- Discards the queued events and counts them. -/
def clear (f : Feed) (sessionId : String) : Nat × Feed :=
  ((f.drain sessionId).1.length, (f.drain sessionId).2)

theorem channel_set (f : Feed) (sessionId other : String) (c : Channel) :
    (f.set sessionId c).channel other = if other = sessionId then c else f.channel other := by
  simp only [channel, set, Table.get?_put]
  split <;> rfl

theorem set_set (f : Feed) (sessionId : String) (c d : Channel) :
    (f.set sessionId c).set sessionId d = f.set sessionId d := by
  simp only [set, Table.put_put]

end Feed

end Reckoner
