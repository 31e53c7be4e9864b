import Reckoner.Proofs.Chat.Journal
import Reckoner.Proofs.Feed.Calls

namespace Reckoner.Chat

open Reckoner.Feed

/-- What happens to a store and its feed: an effect, or a call that a listener or the loop makes on the feed in
between. -/
inductive Occurrence where
  | effect (x : Effect)
  | call (sessionId : String) (c : Channel.Call)

namespace Occurrence

def sessionId : Occurrence → String
  | effect x => x.sessionId
  | call s _ => s

/-- The effects among what occurs. -/
def effect? : Occurrence → Option Effect
  | effect x => some x
  | call .. => none

/-- What an occurrence is to the channel of its session. -/
def asCall : Occurrence → Option Channel.Call
  | effect (.tell _ kind node data) => some (.emit kind node data)
  | effect (.forget _) => some .clear
  | effect _ => none
  | call _ c => some c

end Occurrence

/-- What occurs in a session. -/
def occurringIn (s : String) (occurrences : List Occurrence) : List Occurrence :=
  occurrences.filter (·.sessionId = s)

/-- What occurs on the channel of a session. -/
def callsIn (s : String) (occurrences : List Occurrence) : List Channel.Call :=
  (occurringIn s occurrences).filterMap Occurrence.asCall

namespace Books

def occur (b : Books) : Occurrence → Books
  | .effect x => b.after x
  | .call s c => { b with feed := b.feed.map fun f => (f.call s c).1 }

def occurAll (b : Books) (occurrences : List Occurrence) : Books :=
  occurrences.foldl occur b

/-- What the feed answers to what occurs, if anything. -/
def answer? (b : Books) (x : Occurrence) : Option Channel.Call.Answer :=
  x.asCall.bind fun c => b.feed.map fun f => (f.call x.sessionId c).2

/-- The answers of the channel of a session, in order. -/
def answersIn (s : String) (b : Books) : List Occurrence → List Channel.Call.Answer
  | [] => []
  | x :: rest =>
    (if x.sessionId = s then (b.answer? x).toList else []) ++ answersIn s (b.occur x) rest

/-- The events of a session that are handed out, in order. -/
def handedOut (s : String) (b : Books) (occurrences : List Occurrence) : List Event :=
  (b.answersIn s occurrences).flatMap (·.handed)

/-- The events of a session that are emitted, in order. -/
def emittedIn (s : String) (b : Books) (occurrences : List Occurrence) : List Event :=
  (b.answersIn s occurrences).filterMap (·.emitted?)

/-- The channel of a session, as it is before anything has happened on it if nothing has. -/
def channel (b : Books) (s : String) : Channel :=
  (b.feed.map (·.channel s)).getD Channel.new

/-- The books have a feed whose queues keep so many events. -/
def Keeps (limit : Nat) (b : Books) : Prop :=
  ∃ f, b.feed = some f ∧ f.limit = limit

section

variable {b : Books} {limit : Nat}

theorem isBusy_after_other (b : Books) {x : Effect} {s : String} (other : x.sessionId ≠ s) :
    (b.after x).store.isBusy s = b.store.isBusy s := by
  cases x with
  | hold t =>
    have apart : (s == t) = false := beq_false_of_ne (Ne.symm other)
    rw [after, Store.isBusy_hold, apart, Bool.false_or]
  | leave t =>
    have apart : (s != t) = true := bne_iff_ne.mpr (Ne.symm other)
    rw [after, Store.isBusy_leave, apart, Bool.and_true]
  | save c | tell t | forget t => rfl

/-- Effects make their calls on the feed too. -/
theorem feed_occur (b : Books) (x : Occurrence) : (b.occur x).feed =
    match x.asCall with
    | some c => b.feed.map fun f => (f.call x.sessionId c).1
    | none => b.feed := by
  cases x with
  | effect x => cases x <;> rfl
  | call s c => rfl

theorem Keeps.occur (h : Keeps limit b) (x : Occurrence) : Keeps limit (b.occur x) := by
  obtain ⟨f, fed, rfl⟩ := h
  have feed := feed_occur b x
  cases hc : x.asCall with
  | none => exact ⟨f, by rw [feed, hc, fed], rfl⟩
  | some c =>
    exact ⟨(f.call x.sessionId c).1, by rw [feed, hc, fed]; rfl, Feed.limit_call f x.sessionId c⟩

theorem Keeps.occurAll (h : Keeps limit b) (occurrences : List Occurrence) :
    Keeps limit (b.occurAll occurrences) := by
  induction occurrences generalizing b with
  | nil => exact h
  | cons x rest ih => exact ih (h.occur x)

/-- An occurrence does to the channel of its session, and is answered, what it is to it. -/
theorem channel_occur_own (h : Keeps limit b) {x : Occurrence} {c : Channel.Call} (there : x.asCall = some c) :
    (b.occur x).channel x.sessionId = ((b.channel x.sessionId).call limit x.sessionId c).1 ∧
      b.answer? x = some ((b.channel x.sessionId).call limit x.sessionId c).2 := by
  obtain ⟨f, fed, rfl⟩ := h
  have called := Feed.call_eq f x.sessionId c
  have here : b.channel x.sessionId = f.channel x.sessionId := by rw [channel, fed]; rfl
  have feed : (b.occur x).feed = some (f.call x.sessionId c).1 := by
    rw [feed_occur, there, fed]
    rfl
  have answer : b.answer? x = some (f.call x.sessionId c).2 := by
    rw [answer?, there, fed]
    rfl
  rw [here, answer, called.2]
  refine ⟨?_, rfl⟩
  rw [channel, feed, Option.map_some, Option.getD_some, called.1, Function.update_self]

/-- What is no call on a session's channel leaves it alone. -/
theorem channel_occur_other (b : Books) {x : Occurrence} {s : String}
    (other : x.sessionId ≠ s ∨ x.asCall = none) : (b.occur x).channel s = b.channel s := by
  have feed := feed_occur b x
  cases hc : x.asCall with
  | none =>
    rw [hc] at feed
    rw [channel, feed, channel]
  | some c =>
    have apart : s ≠ x.sessionId := by simpa [hc, eq_comm] using other
    rw [hc] at feed
    rw [channel, feed, channel]
    cases b.feed with
    | none => rfl
    | some f =>
      simp only [Option.map_some, Option.getD_some]
      rw [(Feed.call_eq f x.sessionId c).1, Function.update_of_ne apart]

theorem callsIn_cons (s : String) (x : Occurrence) (rest : List Occurrence) :
    callsIn s (x :: rest) = (if x.sessionId = s then x.asCall.toList else []) ++ callsIn s rest := by
  rw [callsIn, occurringIn, List.filter_cons]
  by_cases same : x.sessionId = s
  · rw [if_pos (by simpa using same), if_pos same, List.filterMap_cons]
    cases x.asCall <;> rfl
  · rw [if_neg (by simpa using same), if_neg same]
    rfl

/-- The channel of a session comes to what its calls make of it, and its answers are theirs. -/
theorem channel_occurAll (h : Keeps limit b) (s : String) (occurrences : List Occurrence) :
    (b.occurAll occurrences).channel s =
        (b.channel s).callAll limit s (callsIn s occurrences) ∧
      b.answersIn s occurrences = (b.channel s).answers limit s (callsIn s occurrences) := by
  induction occurrences generalizing b with
  | nil => exact ⟨rfl, rfl⟩
  | cons x rest ih =>
    obtain ⟨channels, answered⟩ := ih (h.occur x)
    rw [callsIn_cons]
    show ((b.occur x).occurAll rest).channel s = _ ∧ _
    rw [answersIn, channels, answered]
    by_cases same : x.sessionId = s
    · subst same
      rw [if_pos rfl, if_pos rfl]
      cases there : x.asCall with
      | none =>
        rw [channel_occur_other b (Or.inr there), answer?, there]
        exact ⟨rfl, rfl⟩
      | some c =>
        obtain ⟨called, answer⟩ := channel_occur_own h there
        rw [called, answer]
        exact ⟨rfl, rfl⟩
    · rw [if_neg same, if_neg same, channel_occur_other b (Or.inl same)]
      exact ⟨rfl, rfl⟩

end

end Books

end Reckoner.Chat
