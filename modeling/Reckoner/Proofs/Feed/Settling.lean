import Reckoner.Feed.Desk
import Mathlib.Logic.Function.Basic

namespace Reckoner

namespace Feed

open Reckoner.Feed

theorem drain_fst (f : Feed) (sessionId : String) : (f.drain sessionId).1 = (f.channel sessionId).queue := by
  unfold drain channel
  cases f.channels.get? sessionId <;> rfl

theorem channel_drain (f : Feed) (sessionId : String) :
    (f.drain sessionId).2.channel =
      Function.update f.channel sessionId { f.channel sessionId with queue := [] } := by
  funext other
  unfold drain
  cases h : f.channels.get? sessionId with
  | some c =>
    have found : f.channel sessionId = c := by simp [channel, h]
    rw [channel_set, Function.update_apply, found]
    rfl
  | none =>
    have fresh : f.channel sessionId = Channel.new := by simp [channel, h]
    have same : { f.channel sessionId with queue := [] } = f.channel sessionId := by rw [fresh]; rfl
    rw [same, Function.update_eq_self]

theorem channel_unregister (f : Feed) (sessionId : String) :
    (f.unregister sessionId).channel =
      Function.update f.channel sessionId (f.channel sessionId).unregister := by
  funext other
  unfold unregister
  cases h : f.channels.get? sessionId with
  | some c =>
    have found : f.channel sessionId = c := by simp [channel, h]
    rw [channel_set, Function.update_apply, found]
  | none =>
    have fresh : f.channel sessionId = Channel.new := by simp [channel, h]
    have same : (f.channel sessionId).unregister = f.channel sessionId := by rw [fresh]; rfl
    rw [same, Function.update_eq_self]

theorem channel_set_eq_update (f : Feed) (sessionId : String) (c : Channel) :
    (f.set sessionId c).channel = Function.update f.channel sessionId c := by
  funext other
  rw [channel_set, Function.update_apply]

/-- The same change made to every channel, which leaves a new one as it is. -/
theorem channel_map (f : Feed) (change : Channel → Channel) (fresh : change Channel.new = Channel.new)
    (sessionId : String) :
    ({ f with channels := ⟨f.channels.entries.map fun (s, c) => (s, change c)⟩ } : Feed).channel
      sessionId = change (f.channel sessionId) := by
  obtain ⟨limit, ⟨entries⟩⟩ := f
  simp only [channel, Table.get?]
  induction entries with
  | nil => exact fresh.symm
  | cons p rest ih =>
    obtain ⟨s, c⟩ := p
    rw [List.map_cons, List.lookup_cons, List.lookup_cons]
    cases sessionId == s with
    | true => rfl
    | false => exact ih

end Feed

namespace Feed.Channel

/-- The events that the limit pushes out of a list. -/
def overflow (limit : Nat) (events : List Event) : List Event :=
  events.take (events.length - limit)

theorem overflow_append_lastOf (limit : Nat) (events : List Event) :
    overflow limit events ++ lastOf limit events = events :=
  List.take_append_drop _ events

/-- Who is woken by the next event: all who wait, if somebody listens. -/
def woken (c : Channel) : List Nat :=
  if c.registered && c.listening then c.waiting else []

/-- What an event finds in the queue when the waits are served. -/
def filled (limit : Nat) (c : Channel) (e : Event) : List Event :=
  lastOf limit (c.queue ++ [e])

/-- The channel when an event has been emitted and settled. -/
def posted (limit : Nat) (c : Channel) (e : Event) : Channel :=
  { c with
    issued := c.issued + 1
    queue := (c.filled limit e).drop c.woken.length
    waiting := c.waiting.drop c.woken.length }

/-- The next event of a session. -/
def upcoming (c : Channel) (sessionId kind node : String) (data : Json.Members) : Event :=
  ⟨sessionId, c.issued + 1, kind, node, data⟩

theorem emit_snd (limit : Nat) (c : Channel) (sessionId kind node : String) (data : Json.Members) :
    (c.emit limit sessionId kind node data).2 = c.upcoming sessionId kind node data := rfl

theorem settle_emit {limit : Nat} {c : Channel} (idle : c.pending = [])
    (sessionId kind node : String) (data : Json.Members) :
    (c.emit limit sessionId kind node data).1.settle limit =
      (c.posted limit (c.upcoming sessionId kind node data),
        (serve c.woken (c.filled limit (c.upcoming sessionId kind node data))).1) := by
  obtain ⟨queue, issued, registered, listening, pending, waiting⟩ := c
  obtain rfl : pending = [] := idle
  cases hl : registered && listening with
  | true =>
    simp [emit, settle, performAll, perform, posted, upcoming, filled, woken, enqueue, serve_snd, hl]
  | false =>
    simp [emit, settle, performAll, posted, upcoming, filled, woken, enqueue, serve, hl]

end Feed.Channel

namespace Feed.Desk

/-- The channel of a session, as it is before anything has happened on it if nothing has. -/
def channel (d : Desk) (sessionId : String) : Channel :=
  (d.feed.map (·.channel sessionId)).getD Channel.new

/-- The queue of a session. -/
def queue (d : Desk) (sessionId : String) : List Event :=
  (d.channel sessionId).queue

/-- The desk has a feed whose queues keep so many events. -/
def Keeps (limit : Nat) (d : Desk) : Prop :=
  ∃ f, d.feed = some f ∧ f.limit = limit

theorem keeps_new (limit : Nat) : Keeps limit (new limit) :=
  ⟨Feed.new limit, by simp [new], rfl⟩

theorem limit_drain (f : Feed) (sessionId : String) : (f.drain sessionId).2.limit = f.limit := by
  unfold Feed.drain
  split <;> rfl

theorem limit_unregister (f : Feed) (sessionId : String) :
    (f.unregister sessionId).limit = f.limit := by
  unfold Feed.unregister
  split <;> rfl

theorem limit_next (f : Feed) (sessionId : String) : (next f sessionId).1.limit = f.limit := by
  dsimp only [next]
  split <;> rfl

theorem keeps_stepFeed {d : Desk} {f : Feed} (open_ : d.feed = some f) (o : Operation) :
    Keeps f.limit (d.stepFeed f o).1 := by
  cases o with
  | emit s kind node data => exact ⟨_, rfl, rfl⟩
  | drain s => exact ⟨_, rfl, limit_drain f s⟩
  | clear s => exact ⟨_, rfl, limit_drain f s⟩
  | register s => exact ⟨_, rfl, rfl⟩
  | unregister s => exact ⟨_, rfl, limit_unregister f s⟩
  | next s =>
    have same := limit_next f s
    simp only [stepFeed]
    split <;> rename_i h <;> rw [h] at same <;> exact ⟨_, rfl, same⟩
  | wait s tag =>
    have same := limit_next f s
    simp only [stepFeed, wait]
    split <;> rename_i h <;> rw [h] at same <;> exact ⟨_, rfl, same⟩
  | cancel tag => exact ⟨f, open_, rfl⟩
  | collect tag => exact ⟨f, open_, rfl⟩

theorem Keeps.step {limit : Nat} {d : Desk} (h : Keeps limit d) (o : Operation) :
    Keeps limit (d.step o).1 := by
  obtain ⟨f, open_, rfl⟩ := h
  have fed := keeps_stepFeed open_ o
  cases o with
  | cancel tag =>
    simp only [Desk.step, stepTag]
    split
    · unfold cancel
      split
      · simp only [Keeps, open_, Option.map_some]
        exact ⟨_, rfl, rfl⟩
      · exact ⟨f, open_, rfl⟩
    · exact ⟨f, open_, rfl⟩
  | collect tag =>
    simp only [Desk.step, stepTag]
    split <;> exact ⟨f, open_, rfl⟩
  | _ => simpa only [Desk.step, open_] using fed

/-- All that an operation can do to the channels and to the outcomes of waits. -/
inductive Change (limit : Nat) (d : Desk) : Operation → Desk → Answer → Prop where
  | posted {s kind node : String} {data : Json.Members} {d' : Desk} {e : Event}
      (event : e = (d.channel s).upcoming s kind node data)
      (channels : d'.channel = Function.update d.channel s ((d.channel s).posted limit e))
      (outcomes : d'.outcomes =
        resolve d.outcomes (Channel.serve (d.channel s).woken ((d.channel s).filled limit e)).1) :
      Change limit d (.emit s kind node data) d' (.event e)
  | drained {s : String} {d' : Desk}
      (channels : d'.channel = Function.update d.channel s { d.channel s with queue := [] })
      (outcomes : d'.outcomes = d.outcomes) :
      Change limit d (.drain s) d' (.events (d.queue s))
  | cleared {s : String} {d' : Desk}
      (channels : d'.channel = Function.update d.channel s { d.channel s with queue := [] })
      (outcomes : d'.outcomes = d.outcomes) :
      Change limit d (.clear s) d' (.count (d.queue s).length)
  | opened {s : String} {d' : Desk}
      (channels : d'.channel = Function.update d.channel s (d.channel s).register)
      (outcomes : d'.outcomes = d.outcomes) :
      Change limit d (.register s) d' .done
  | closed {s : String} {d' : Desk}
      (channels : d'.channel = Function.update d.channel s (d.channel s).unregister)
      (outcomes : d'.outcomes = d.outcomes) :
      Change limit d (.unregister s) d' .done
  | taken {s : String} {d' : Desk} {e : Event} {rest : List Event} (found : d.queue s = e :: rest)
      (channels : d'.channel = Function.update d.channel s { d.channel s with queue := rest })
      (outcomes : d'.outcomes = d.outcomes) :
      Change limit d (.next s) d' (.event e)
  | missed {s : String} {d' : Desk} {reason : NoEvent} (channels : d'.channel = d.channel)
      (outcomes : d'.outcomes = d.outcomes) :
      Change limit d (.next s) d' (.refused reason)
  | served {s tag : String} {d' : Desk} {e : Event} {rest : List Event}
      (found : d.queue s = e :: rest)
      (channels : d'.channel = Function.update d.channel s { d.channel s with queue := rest })
      (outcomes : d'.outcomes = d.outcomes ++ [.event e]) :
      Change limit d (.wait s tag) d' .done
  | joined {s tag : String} {d' : Desk}
      (channels : d'.channel = Function.update d.channel s
        { d.channel s with waiting := (d.channel s).waiting ++ [d.outcomes.length] })
      (outcomes : d'.outcomes = d.outcomes ++ [.pending]) :
      Change limit d (.wait s tag) d' .done
  | failed {s tag : String} {d' : Desk} {reason : NoEvent} (channels : d'.channel = d.channel)
      (outcomes : d'.outcomes = d.outcomes ++ [.failed reason]) :
      Change limit d (.wait s tag) d' .done
  | cancelled {tag : String} {d' : Desk} {w : Nat} (pending : d.outcomes[w]? = some .pending)
      (channels : ∀ s, d'.channel s =
        { d.channel s with waiting := (d.channel s).waiting.filter (· != w) })
      (outcomes : d'.outcomes = d.outcomes.set w .cancelled) :
      Change limit d (.cancel tag) d' .done
  | kept {tag : String} {d' : Desk} {a : Answer} (channels : d'.channel = d.channel)
      (outcomes : d'.outcomes = d.outcomes) :
      Change limit d (.cancel tag) d' a
  | looked {tag : String} {a : Answer} : Change limit d (.collect tag) d a

section

variable {limit : Nat} {d : Desk} {f : Feed}

theorem channel_of_feed (open_ : d.feed = some f) : d.channel = f.channel := by
  funext s
  simp [channel, open_]

/-- Taking the next event takes it out of the queue. -/
theorem next_of_cons {s : String} {e : Event} {rest : List Event}
    (found : (f.channel s).queue = e :: rest) :
    next f s = (f.set s { f.channel s with queue := rest }, .ok e) := by
  simp [next, Channel.take?, found]

theorem next_of_nil {s : String} (empty : (f.channel s).queue = []) :
    next f s = (f.set s (f.channel s),
      .error (if (f.channel s).registered then .timedOut else .nothingQueued)) := by
  simp [next, Channel.take?, empty]

theorem channel_set_self (f : Feed) (s : String) : (f.set s (f.channel s)).channel = f.channel := by
  rw [Feed.channel_set_eq_update, Function.update_eq_self]

theorem change_next (open_ : d.feed = some f) (s : String) :
    Change limit d (.next s) (d.step (.next s)).1 (d.step (.next s)).2 := by
  have same := channel_of_feed open_
  cases hq : (f.channel s).queue with
  | cons e rest =>
    simp only [step, open_, stepFeed, next_of_cons hq]
    have found : d.queue s = e :: rest := by rw [queue, same, hq]
    refine .taken found ?_ rfl
    rw [channel_of_feed rfl, Feed.channel_set_eq_update, same]
  | nil =>
    simp only [step, open_, stepFeed, next_of_nil hq]
    exact .missed (by rw [channel_of_feed rfl, channel_set_self, same]) rfl

theorem change_wait (open_ : d.feed = some f) (s tag : String) :
    Change limit d (.wait s tag) (d.step (.wait s tag)).1 (d.step (.wait s tag)).2 := by
  have same := channel_of_feed open_
  cases hq : (f.channel s).queue with
  | cons e rest =>
    simp only [step, open_, stepFeed, wait, next_of_cons hq]
    have found : d.queue s = e :: rest := by rw [queue, same, hq]
    refine .served found ?_ rfl
    rw [begin, channel_of_feed rfl, Feed.channel_set_eq_update, same]
  | nil =>
    cases hr : (f.channel s).registered with
    | true =>
      simp only [step, open_, stepFeed, wait, next_of_nil hq, hr, if_true]
      refine .joined ?_ rfl
      rw [begin, channel_of_feed rfl, Feed.channel_set_eq_update, channel_set_self, same]
    | false =>
      simp only [step, open_, stepFeed, wait, next_of_nil hq, hr, Bool.false_eq_true, if_false]
      exact .failed (by rw [begin, channel_of_feed rfl, channel_set_self, same]) rfl

theorem change_cancel (open_ : d.feed = some f) (tag : String) :
    Change limit d (.cancel tag) (d.step (.cancel tag)).1 (d.step (.cancel tag)).2 := by
  have same := channel_of_feed open_
  simp only [step, stepTag]
  cases d.tags.get? tag with
  | none => exact .kept rfl rfl
  | some w =>
    dsimp only
    unfold cancel
    split
    · rename_i pending
      refine .cancelled pending ?_ rfl
      intro s
      have stopped := Feed.channel_map f (fun c => { c with waiting := c.waiting.filter (· != w) }) rfl s
      rw [channel_of_feed (by rw [open_]; rfl), same]
      exact stopped
    · exact .kept rfl rfl

theorem change_emit (open_ : d.feed = some f) (keeps : f.limit = limit)
    (idle : ∀ s, (d.channel s).pending = []) (s kind node : String) (data : Json.Members) :
    Change limit d (.emit s kind node data) (d.step (.emit s kind node data)).1
      (d.step (.emit s kind node data)).2 := by
  have same := channel_of_feed open_
  have quiet : (f.channel s).pending = [] := same ▸ idle s
  have settles := @Channel.settle_emit f.limit _ quiet s kind node data
  have again : (f.set s ((f.channel s).emit f.limit s kind node data).1).channel s =
      ((f.channel s).emit f.limit s kind node data).1 := by
    rw [Feed.channel_set, if_pos rfl]
  have keep : (f.set s ((f.channel s).emit f.limit s kind node data).1).limit = f.limit := rfl
  simp only [step, open_, stepFeed, Feed.emit, Feed.settle, again, keep, settles, Channel.emit_snd]
  subst keeps
  refine .posted (by rw [same]) ?_ (by rw [same])
  rw [channel_of_feed rfl, Feed.channel_set_eq_update, Feed.channel_set_eq_update,
    Function.update_idem, same]

/-- Every operation of a settled desk makes one of these changes. -/
theorem change_step (keeps : Keeps limit d) (idle : ∀ s, (d.channel s).pending = [])
    (o : Operation) : Change limit d o (d.step o).1 (d.step o).2 := by
  obtain ⟨f, open_, keeps⟩ := keeps
  have same := channel_of_feed open_
  cases o with
  | emit s kind node data => exact change_emit open_ keeps idle s kind node data
  | drain s =>
    simp only [step, open_, stepFeed, Feed.drain_fst]
    have drained : d.queue s = (f.channel s).queue := by rw [queue, same]
    rw [← drained]
    exact .drained (by rw [channel_of_feed rfl, Feed.channel_drain, same]) rfl
  | clear s =>
    simp only [step, open_, stepFeed, Feed.clear, Feed.drain_fst]
    have drained : d.queue s = (f.channel s).queue := by rw [queue, same]
    rw [← drained]
    exact .cleared (by rw [channel_of_feed rfl, Feed.channel_drain, same]) rfl
  | register s =>
    simp only [step, open_, stepFeed, Feed.register]
    exact .opened (by rw [channel_of_feed rfl, Feed.channel_set_eq_update, same]) rfl
  | unregister s =>
    simp only [step, open_, stepFeed]
    exact .closed (by rw [channel_of_feed rfl, Feed.channel_unregister, same]) rfl
  | next s => exact change_next open_ s
  | wait s tag => exact change_wait open_ s tag
  | cancel tag => exact change_cancel open_ tag
  | collect tag =>
    simp only [step, stepTag]
    cases d.tags.get? tag with
    | none => exact .looked
    | some w => exact .looked

end

end Feed.Desk

end Reckoner
