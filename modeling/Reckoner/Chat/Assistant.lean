import Reckoner.Chat.Turn
import Reckoner.Classifier
import Reckoner.Failure
import Reckoner.Gateway.Canned
import Reckoner.Solver.Note

namespace Reckoner.Chat

open Reckoner.Gateway

/-- The assistant keeps the conversations, tells the listeners what happens, and serves turns step by step. Messages
are numbered in the order in which they are made. -/
structure Assistant where
  store : Store
  /-- Absent when nobody is to be told anything. -/
  feed : Option Feed
  issued : Nat
  manner : Solver.Manner
  showStages : Bool

namespace Assistant

def idOf (n : Nat) : String :=
  "m" ++ toString n

def publish (a : Assistant) (sessionId : String) (notes : List Solver.Note) : Assistant :=
  { a with feed := a.feed.map (Solver.publish · sessionId notes) }

def replyData (m : Message) : Json.Members :=
  [("messageId", .text m.id), ("isError", .bool m.isError), ("isPipeline", .bool m.isPipeline)]

def announce (a : Assistant) (sessionId : String) (m : Message) : Assistant :=
  { a with feed := a.feed.map fun f =>
      (f.emit sessionId Feed.replyKind "conversation" (replyData m)).1 }

def leave (a : Assistant) (sessionId : String) : Assistant :=
  { a with store := a.store.leave sessionId }

/-- Saves the reply, announces it and leaves the turn. -/
def conclude (a : Assistant) (t : Turn) (d : Draft) (run : Option Run) : Assistant × Progress :=
  let m := d.message (idOf (a.issued + 1))
  let c := t.conversation.add m
  let a := { a with store := a.store.save c, issued := a.issued + 1 }
  ((a.announce t.sessionId m).leave t.sessionId,
    .ended t.contextAfter (.ok ⟨m, run, c.messages⟩))

/-- The gateway's own failures are told in the conversation; other failures end the turn without a
reply, and the message stays. -/
def giveUp (a : Assistant) (t : Turn) (f : CallFailure) : Assistant × Progress :=
  match f with
  | .gateway g => a.conclude t (.ofFailure g) none
  | .defect d => (a.leave t.sessionId, .ended t.contextAfter (.error (.defect d)))

def proceed (a : Assistant) (t : Turn) (move : Solver.Move) : Assistant × Progress :=
  let a := a.publish t.sessionId move.notes
  match move.next with
  | .waiting p => (a, .waiting { t with wait := .solution p })
  | .solved r => a.conclude t (.ofRun r t.showStages) (some r)
  | .failed f => a.giveUp t f

/-- Enters a turn; a session has one at a time. -/
def enter (a : Assistant) (context : Context) (sessionId text : String) (verbose : Option Bool) :
    Assistant × Progress :=
  match a.store.enter sessionId with
  | .error b => (a, .ended context (.error (.busy b)))
  | .ok store =>
    let a := { a with store, issued := a.issued + 1 }
    match Message.make ⟨idOf a.issued, .user, text, false, false⟩ with
    | .error issues => (a.leave sessionId, .ended context (.error (.unacceptable issues)))
    | .ok m =>
      let c := (a.store.current sessionId).add m
      let a := { a with store := a.store.save c }
      let bound := context.bind .sessionId (some sessionId)
      let t : Turn := ⟨sessionId, verbose.getD a.showStages, c, bound.1, bound.2, .answer text⟩
      if Classifier.isQuestion text then a.proceed t (Solver.start text) else (a, .waiting t)

/-- Goes on with a turn when the model has replied. -/
def resume (a : Assistant) (t : Turn) (reply : Except CallFailure String) : Assistant × Progress :=
  match t.wait with
  | .solution p => a.proceed t (p.resume reply)
  | .answer _ =>
    match reply with
    | .error f => a.giveUp t f
    | .ok words =>
      match Draft.ofWords words with
      | some d => a.conclude t d none
      | none => a.giveUp t (.gateway silence)

theorem remaining_conclude (a : Assistant) (t : Turn) (d : Draft) (run : Option Run) :
    (a.conclude t d run).2.remaining = 0 := rfl

theorem remaining_giveUp (a : Assistant) (t : Turn) (f : CallFailure) :
    (a.giveUp t f).2.remaining = 0 := by
  cases f <;> rfl

theorem remaining_proceed (a : Assistant) (t : Turn) (move : Solver.Move) :
    (a.proceed t move).2.remaining = move.next.remaining := by
  unfold proceed
  cases h : move.next with
  | waiting p => rfl
  | solved r => rfl
  | failed f => simpa [Solver.Next.remaining] using remaining_giveUp _ t f

/-- Each reply brings a turn nearer to its end. -/
theorem remaining_resume (a : Assistant) (t : Turn) (reply : Except CallFailure String) :
    (a.resume t reply).2.remaining < t.wait.remaining := by
  unfold resume
  cases h : t.wait with
  | solution p =>
    simpa [remaining_proceed, Wait.remaining] using Solver.remaining_resume p reply
  | answer text =>
    cases reply with
    | error f => simp [remaining_giveUp, Wait.remaining]
    | ok words =>
      refine Nat.lt_of_le_of_lt (Nat.le_of_eq ?_) Nat.zero_lt_one
      show (match Draft.ofWords words with
        | some d => a.conclude t d none
        | none => a.giveUp t (.gateway silence)).2.remaining = 0
      split
      · exact remaining_conclude ..
      · exact remaining_giveUp ..

/-- Follows a turn to its end, with a gateway that answers each call at once. -/
def follow (g : Canned) (a : Assistant) (p : Progress) :
    Canned × Assistant × Context × Except TurnFailure Response :=
  match p with
  | .ended context result => (g, a, context, result)
  | .waiting t =>
    let called := g.generate (t.wait.call a.manner)
    let next := a.resume t called.2
    follow called.1 next.1 next.2
  termination_by p.remaining
  decreasing_by exact remaining_resume a t _

def respond (a : Assistant) (g : Canned) (context : Context) (sessionId text : String)
    (verbose : Option Bool) : Canned × Assistant × Context × Except TurnFailure Response :=
  let entered := a.enter context sessionId text verbose
  follow g entered.1 entered.2

/-- Opens a conversation in which the assistant speaks first. -/
def openWith (a : Assistant) (sessionId : String) (available : Bool) : Assistant × Conversation :=
  let d := Draft.opening available
  let c : Conversation :=
    ⟨sessionId, [d.message (idOf (a.issued + 1))], [("llmAvailable", .bool available)]⟩
  ({ a with store := a.store.save c, issued := a.issued + 1 }, c)

/-- The conversation of a session, opened if there is none. -/
def start (a : Assistant) (g : Canned) (sessionId : String) : Assistant × Conversation :=
  match a.store.get? sessionId with
  | some c => (a, c)
  | none => a.openWith sessionId g.isAvailable

def history (a : Assistant) (sessionId : String) : Except Failure Conversation :=
  match a.store.get? sessionId with
  | some c => .ok c
  | none => .error (.unknownSession sessionId)

/-- Forgets a conversation and its queued events, unless a turn is in flight. -/
def reset (a : Assistant) (sessionId : String) : Except Busy Assistant := do
  let store ← a.store.clear sessionId
  return { a with store, feed := a.feed.map fun f => (f.clear sessionId).2 }

end Assistant

end Reckoner.Chat
