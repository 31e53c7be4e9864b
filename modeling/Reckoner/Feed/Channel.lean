import Reckoner.Feed.Event

namespace Reckoner.Feed

/-- The last events of a session up to a limit, and those who wait for the next one. While somebody listens, an event
is handed to the listener's loop, which queues it later and wakes everybody who waits, in the order in which they
began; each takes the oldest event that is left. -/
structure Channel where
  queue : List Event
  issued : Nat
  /-- Has anybody ever listened? -/
  registered : Bool
  /-- Does anybody listen now? -/
  listening : Bool
  /-- Events handed to the listener's loop and not yet queued. -/
  pending : List Event
  waiting : List Nat

namespace Channel

def new : Channel := ⟨[], 0, false, false, [], []⟩

/-- The last events of a list, up to a limit. -/
def lastOf (limit : Nat) (events : List Event) : List Event :=
  events.drop (events.length - limit)

def enqueue (limit : Nat) (c : Channel) (e : Event) : Channel :=
  { c with queue := lastOf limit (c.queue ++ [e]) }

/-- Each waiter in turn takes the oldest event, or finds none. -/
def serve : List Nat → List Event → List (Nat × Option Event) × List Event
  | [], queue => ([], queue)
  | w :: rest, [] => ((w, none) :: (serve rest []).1, [])
  | w :: rest, e :: queue => ((w, some e) :: (serve rest queue).1, (serve rest queue).2)

/-- Issues the next number to an event, and queues it or hands it to the listener's loop. -/
def emit (limit : Nat) (c : Channel) (sessionId kind node : String) (data : Json.Members) :
    Channel × Event :=
  let e : Event := ⟨sessionId, c.issued + 1, kind, node, data⟩
  let c := { c with issued := c.issued + 1 }
  (if c.registered && c.listening then { c with pending := c.pending ++ [e] } else c.enqueue limit e, e)

/-- The loop queues one event and wakes everybody who waits. -/
def perform (limit : Nat) (c : Channel) : Channel × List (Nat × Option Event) :=
  match c.pending with
  | [] => (c, [])
  | e :: rest =>
    let c := { c.enqueue limit e with pending := rest }
    let served := serve c.waiting c.queue
    ({ c with waiting := [], queue := served.2 }, served.1)

/-- The loop does so often. -/
def performAll (limit : Nat) : Nat → Channel → Channel × List (Nat × Option Event)
  | 0, c => (c, [])
  | n + 1, c =>
    let first := c.perform limit
    let later := performAll limit n first.1
    (later.1, first.2 ++ later.2)

def settle (limit : Nat) (c : Channel) : Channel × List (Nat × Option Event) :=
  performAll limit c.pending.length c

def register (c : Channel) : Channel :=
  { c with registered := true, listening := true }

def unregister (c : Channel) : Channel :=
  { c with listening := false }

/-- The oldest event, taken out of the queue. -/
def take? (c : Channel) : Option (Event × Channel) :=
  match c.queue with
  | [] => none
  | e :: rest => some (e, { c with queue := rest })

def drain (c : Channel) : List Event × Channel :=
  (c.queue, { c with queue := [] })

theorem length_lastOf (limit : Nat) (events : List Event) : (lastOf limit events).length ≤ limit := by
  simp only [lastOf, List.length_drop]
  omega

theorem serve_fst_map (waiters : List Nat) (queue : List Event) :
    (serve waiters queue).1.map (·.1) = waiters := by
  induction waiters generalizing queue with
  | nil => rfl
  | cons w rest ih => cases queue <;> simp [serve, ih]

theorem serve_snd (waiters : List Nat) (queue : List Event) :
    (serve waiters queue).2 = queue.drop waiters.length := by
  induction waiters generalizing queue with
  | nil => rfl
  | cons w rest ih => cases queue <;> simp [serve, ih]

end Channel

end Reckoner.Feed
