import Reckoner.Proofs.Feed.Settling

namespace Reckoner.Feed

namespace Channel

/-- A call is made on the channel of one session: it changes no other one, and what it does and answers depends on
nothing else. -/
inductive Call where
  | emit (kind node : String) (data : Json.Members)
  | perform
  | register
  | unregister
  | next (waiter : Nat)
  | giveUp (waiter : Nat)
  | drain
  | clear

/-- What a call comes to; whoever is woken by the loop is told of an event, or that none is left. -/
inductive Call.Answer where
  | done
  | emitted (e : Event)
  | woken (served : List (Nat × Option Event))
  | event (e : Event)
  | waits
  | refused (reason : NoEvent)
  | events (es : List Event)
  | count (n : Nat)

namespace Call.Answer

/-- The events that are handed out with an answer. -/
def handed : Answer → List Event
  | woken served => served.filterMap (·.2)
  | event e => [e]
  | events es => es
  | _ => []

def emitted? : Answer → Option Event
  | emitted e => some e
  | _ => none

end Call.Answer

/-- One more waits. -/
def join (c : Channel) (waiter : Nat) : Channel :=
  { c with waiting := c.waiting ++ [waiter] }

/-- One waits no longer. -/
def quit (c : Channel) (waiter : Nat) : Channel :=
  { c with waiting := c.waiting.filter (· != waiter) }

theorem quit_of_not_mem {c : Channel} {waiter : Nat} (absent : waiter ∉ c.waiting) :
    c.quit waiter = c := by
  have same : c.waiting.filter (· != waiter) = c.waiting := by
    apply List.filter_eq_self.mpr
    intro other ho
    have apart : other ≠ waiter := ne_of_mem_of_not_mem ho absent
    simpa using apart
  rw [quit, same]

def call (limit : Nat) (sessionId : String) (c : Channel) : Call → Channel × Call.Answer
  | .emit kind node data =>
    ((c.emit limit sessionId kind node data).1, .emitted (c.emit limit sessionId kind node data).2)
  | .perform => ((c.perform limit).1, .woken (c.perform limit).2)
  | .register => (c.register, .done)
  | .unregister => (c.unregister, .done)
  | .next waiter =>
    match c.take? with
    | some (e, c) => (c, .event e)
    | none => if c.registered then (c.join waiter, .waits) else (c, .refused .nothingQueued)
  | .giveUp waiter => (c.quit waiter, .done)
  | .drain => (c.drain.2, .events c.drain.1)
  | .clear => (c.drain.2, .count c.drain.1.length)

def callAll (limit : Nat) (sessionId : String) (c : Channel) (calls : List Call) : Channel :=
  calls.foldl (fun c x => (c.call limit sessionId x).1) c

/-- The answers to calls that are made one after the other. -/
def answers (limit : Nat) (sessionId : String) (c : Channel) : List Call → List Call.Answer
  | [] => []
  | x :: rest =>
    (c.call limit sessionId x).2 :: answers limit sessionId (c.call limit sessionId x).1 rest

end Channel

/-- A call on the channel of a session. -/
def call (f : Feed) (sessionId : String) : Channel.Call → Feed × Channel.Call.Answer
  | .emit kind node data =>
    ((f.emit sessionId kind node data).1, .emitted (f.emit sessionId kind node data).2)
  | .perform =>
    let after := (f.channel sessionId).perform f.limit
    (f.set sessionId after.1, .woken after.2)
  | .register => (f.register sessionId, .done)
  | .unregister => (f.unregister sessionId, .done)
  | .next waiter =>
    match Desk.next f sessionId with
    | (f, .ok e) => (f, .event e)
    | (f, .error .timedOut) => (f.set sessionId ((f.channel sessionId).join waiter), .waits)
    | (f, .error reason) => (f, .refused reason)
  | .giveUp waiter => (f.set sessionId ((f.channel sessionId).quit waiter), .done)
  | .drain => ((f.drain sessionId).2, .events (f.drain sessionId).1)
  | .clear => ((f.clear sessionId).2, .count (f.clear sessionId).1)

section

variable {f : Feed} {sessionId : String}

theorem call_next (f : Feed) (sessionId : String) (waiter : Nat) :
    (f.call sessionId (.next waiter)).1.channel =
        Function.update f.channel sessionId
          ((f.channel sessionId).call f.limit sessionId (.next waiter)).1 ∧
      (f.call sessionId (.next waiter)).2 =
        ((f.channel sessionId).call f.limit sessionId (.next waiter)).2 := by
  cases hq : (f.channel sessionId).queue with
  | cons e rest =>
    simp only [call, Desk.next_of_cons hq, Channel.call, Channel.take?, hq]
    exact ⟨channel_set_eq_update _ _ _, trivial⟩
  | nil =>
    cases hr : (f.channel sessionId).registered with
    | true =>
      simp only [call, Desk.next_of_nil hq, hr, if_true, Channel.call, Channel.take?, hq]
      rw [channel_set_eq_update, Desk.channel_set_self]
      exact ⟨rfl, trivial⟩
    | false =>
      simp only [call, Desk.next_of_nil hq, hr, Bool.false_eq_true, if_false, Channel.call,
        Channel.take?, hq]
      rw [Desk.channel_set_self, Function.update_eq_self]
      exact ⟨rfl, trivial⟩

/-- A call does to its channel, and answers, what it does and answers there alone. -/
theorem call_eq (f : Feed) (sessionId : String) (x : Channel.Call) :
    (f.call sessionId x).1.channel =
        Function.update f.channel sessionId ((f.channel sessionId).call f.limit sessionId x).1 ∧
      (f.call sessionId x).2 = ((f.channel sessionId).call f.limit sessionId x).2 := by
  cases x with
  | next waiter => exact call_next f sessionId waiter
  | emit kind node data => exact ⟨channel_set_eq_update _ _ _, rfl⟩
  | perform | register | giveUp waiter => exact ⟨channel_set_eq_update _ _ _, rfl⟩
  | unregister => exact ⟨channel_unregister f sessionId, rfl⟩
  | drain =>
    refine ⟨channel_drain f sessionId, ?_⟩
    show Channel.Call.Answer.events (f.drain sessionId).1 = _
    rw [drain_fst]
    rfl
  | clear =>
    refine ⟨channel_drain f sessionId, ?_⟩
    show Channel.Call.Answer.count (f.drain sessionId).1.length = _
    rw [drain_fst]
    rfl

theorem limit_call (f : Feed) (sessionId : String) (x : Channel.Call) :
    (f.call sessionId x).1.limit = f.limit := by
  cases x with
  | next waiter =>
    have same := Desk.limit_next f sessionId
    simp only [call]
    split <;> rename_i h <;> rw [h] at same <;> exact same
  | unregister => exact Desk.limit_unregister f sessionId
  | drain | clear => exact Desk.limit_drain f sessionId
  | emit | perform | register | giveUp => rfl

end

end Reckoner.Feed
