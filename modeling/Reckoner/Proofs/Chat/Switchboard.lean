import Reckoner.Proofs.Chat.TurnSteps
import Mathlib.Data.List.Nodup

namespace Reckoner.Chat

open Reckoner.Gateway

/-- Many requests at once: the assistant and everything that waits, turns for a reply of the model and openings of
conversations for a probe of it. Whoever waits is answered in any order. -/
structure Switchboard where
  assistant : Assistant
  turns : List Turn
  /-- Sessions without a conversation when their opening began. -/
  openings : List String

/-- A request comes in, or the turn or the opening that waits at a place is answered. -/
inductive Action where
  | respond (context : Context) (sessionId text : String) (verbose : Option Bool)
  | reply (place : Nat) (reply : Except CallFailure String)
  | start (sessionId : String)
  | probe (place : Nat) (available : Bool)
  | reset (sessionId : String)
  | history (sessionId : String)

/-- What a request is told, or that it waits, or that nobody waits at the place. -/
inductive Outcome where
  | waiting
  | ended (sessionId : String) (result : Except TurnFailure Response)
  | started (c : Conversation)
  | reset (result : Except Busy Unit)
  | history (result : Except Failure Conversation)
  | nobody

/-- What is done to the history of a session: its person asks, the assistant answers, or all is
forgotten. -/
inductive Deed where
  | asked (sessionId : String) (m : Message)
  | answered (sessionId : String) (m : Message)
  | forgotten (sessionId : String)
  deriving DecidableEq

namespace Switchboard

/-- The switchboard before the first request. -/
def new (feed : Option Feed) (manner : Solver.Manner) (showStages : Bool) : Switchboard :=
  ⟨⟨.empty, feed, 0, manner, showStages⟩, [], []⟩

abbrev store (w : Switchboard) : Store := w.assistant.store

/-- The history of a session as it is stored. -/
def saved (w : Switchboard) (sessionId : String) : List Message :=
  (w.store.current sessionId).messages

/-- The sessions with a turn in flight. -/
def talking (w : Switchboard) : List String := w.turns.map Turn.sessionId

def step (w : Switchboard) : Action → Switchboard × Outcome
  | .respond context s text verbose =>
    let after := w.assistant.enter context s text verbose
    match after.2 with
    | .waiting t => ({ w with assistant := after.1, turns := w.turns ++ [t] }, .waiting)
    | .ended _ result => ({ w with assistant := after.1 }, .ended s result)
  | .reply place reply =>
    match w.turns[place]? with
    | none => (w, .nobody)
    | some t =>
      let after := w.assistant.resume t reply
      match after.2 with
      | .waiting t => ({ w with assistant := after.1, turns := w.turns.set place t }, .waiting)
      | .ended _ result =>
        ({ w with assistant := after.1, turns := w.turns.eraseIdx place }, .ended t.sessionId result)
  | .start s =>
    match w.store.get? s with
    | some c => (w, .started c)
    | none => ({ w with openings := w.openings ++ [s] }, .waiting)
  | .probe place available =>
    match w.openings[place]? with
    | none => (w, .nobody)
    | some s =>
      let after := w.assistant.openWith s available
      ({ w with assistant := after.1, openings := w.openings.eraseIdx place }, .started after.2)
  | .reset s =>
    match w.assistant.reset s with
    | .ok a => ({ w with assistant := a }, .reset (.ok ()))
    | .error b => (w, .reset (.error b))
  | .history s => (w, .history (w.assistant.history s))

def run (w : Switchboard) : List Action → Switchboard
  | [] => w
  | x :: rest => run (w.step x).1 rest

/-- The deed that an outcome shows. -/
def deed? (w : Switchboard) : Action → Outcome → Option Deed
  | .respond _ s text _, .waiting => some (.asked s (w.assistant.said text))
  | .reset s, .reset (.ok _) => some (.forgotten s)
  | _, .ended s (.ok r) => some (.answered s r.reply)
  | _, _ => none

/-- All deeds of a run, in order. -/
def deeds (w : Switchboard) : List Action → List Deed
  | [] => []
  | x :: rest => (w.deed? x (w.step x).2).toList ++ deeds (w.step x).1 rest

theorem run_append (w : Switchboard) (x y : List Action) : w.run (x ++ y) = (w.run x).run y := by
  induction x generalizing w with
  | nil => rfl
  | cons a x ih => exact ih _

/-- All that a step can change. -/
inductive Change (w : Switchboard) : Action → Switchboard → Outcome → Prop where
  | idle {x : Action} {w' : Switchboard} {o : Outcome} (store : w'.store = w.store)
      (turns : w'.turns = w.turns) (issued : w.assistant.issued ≤ w'.assistant.issued)
      (quiet : w.deed? x o = none) : Change w x w' o
  | begun {context : Context} {s text : String} {verbose : Option Bool} {w' : Switchboard} {t : Turn}
      (free : w.store.isBusy s = false) (turns : w'.turns = w.turns ++ [t]) (session : t.sessionId = s)
      (copy : t.conversation = w.assistant.asking s text)
      (store : w'.store = (w.store.hold s).save (w.assistant.asking s text))
      (issued : w'.assistant.issued = w.assistant.issued + 1) :
      Change w (.respond context s text verbose) w' .waiting
  | waits {place : Nat} {reply : Except CallFailure String} {w' : Switchboard} {t : Turn} {wait : Wait}
      (found : w.turns[place]? = some t) (turns : w'.turns = w.turns.set place { t with wait })
      (store : w'.store = w.store) (issued : w'.assistant.issued = w.assistant.issued) :
      Change w (.reply place reply) w' .waiting
  | concluded {place : Nat} {reply : Except CallFailure String} {w' : Switchboard} {t : Turn}
      {d : Draft} {r : Option Run} (found : w.turns[place]? = some t)
      (turns : w'.turns = w.turns.eraseIdx place)
      (store : w'.store =
        (w.store.save (t.conversation.add (w.assistant.told d))).leave t.sessionId)
      (issued : w'.assistant.issued = w.assistant.issued + 1) :
      Change w (.reply place reply) w' (.ended t.sessionId
        (.ok ⟨w.assistant.told d, r, (t.conversation.add (w.assistant.told d)).messages⟩))
  | broken {place : Nat} {d : Defect} {w' : Switchboard} {t : Turn}
      (found : w.turns[place]? = some t) (turns : w'.turns = w.turns.eraseIdx place)
      (store : w'.store = w.store.leave t.sessionId)
      (issued : w'.assistant.issued = w.assistant.issued) :
      Change w (.reply place (.error (.defect d))) w' (.ended t.sessionId (.error (.defect d)))
  | opened {place : Nat} {available : Bool} {w' : Switchboard} {s : String} {c : Conversation}
      (found : w.openings[place]? = some s) (session : c.sessionId = s)
      (messages : c.messages = [w.assistant.told (.opening available)])
      (turns : w'.turns = w.turns) (store : w'.store = w.store.save c)
      (issued : w'.assistant.issued = w.assistant.issued + 1) :
      Change w (.probe place available) w' (.started c)
  | cleared {s : String} {w' : Switchboard} (free : w.store.isBusy s = false)
      (turns : w'.turns = w.turns)
      (store : w'.store = w.store.forget s)
      (issued : w'.assistant.issued = w.assistant.issued) :
      Change w (.reset s) w' (.reset (.ok ()))

theorem step_respond_busy {w : Switchboard} {s : String} (h : w.store.isBusy s = true)
    (context : Context) (text : String) (verbose : Option Bool) :
    w.step (.respond context s text verbose) = (w, .ended s (.error (.busy (.reply s)))) := by
  simp only [step, Assistant.enter_of_busy h]

theorem step_reset_busy {w : Switchboard} {s : String} (h : w.store.isBusy s = true) :
    w.step (.reset s) = (w, .reset (.error (.reset s))) := by
  have refused : w.assistant.reset s = .error (.reset s) := by
    simp [Assistant.reset, Store.clear_of_busy h, bind, Except.bind]
  simp only [step, refused]

theorem step_reset_free {w : Switchboard} {s : String} (h : w.store.isBusy s = false) :
    w.step (.reset s) = ({ w with assistant := { w.assistant with
      store := w.store.forget s, feed := w.assistant.feed.map fun f => (f.clear s).2 } },
      .reset (.ok ())) := by
  have done : w.assistant.reset s = .ok { w.assistant with
      store := w.store.forget s, feed := w.assistant.feed.map fun f => (f.clear s).2 } := by
    simp [Assistant.reset, Store.clear_of_free h, bind, Except.bind, pure, Except.pure]
  simp only [step, done]

theorem change_respond (w : Switchboard) (context : Context) (s text : String)
    (verbose : Option Bool) :
    Change w (.respond context s text verbose) (w.step (.respond context s text verbose)).1
      (w.step (.respond context s text verbose)).2 := by
  cases hb : w.store.isBusy s with
  | true =>
    rw [step_respond_busy hb]
    exact .idle rfl rfl (Nat.le_refl _) rfl
  | false =>
    rcases Assistant.enter_cases hb context text verbose with h | h
    · obtain ⟨issues, hp⟩ := h.progress
      simp only [step, hp]
      exact .idle h.store rfl (h.issued ▸ Nat.le_succ _) rfl
    · obtain ⟨showStages, wait, hp⟩ := h.progress
      simp only [step, hp]
      exact .begun hb rfl rfl rfl h.store h.issued

theorem change_reply (w : Switchboard) (place : Nat) (reply : Except CallFailure String) :
    Change w (.reply place reply) (w.step (.reply place reply)).1
      (w.step (.reply place reply)).2 := by
  cases ht : w.turns[place]? with
  | none =>
    simp only [step, ht]
    exact .idle rfl rfl (Nat.le_refl _) rfl
  | some t =>
    rcases Assistant.resume_cases w.assistant t reply with h | ⟨d, h⟩ | ⟨d, rfl, h⟩
    · obtain ⟨wait, hp⟩ := h.progress
      simp only [step, ht, hp]
      exact .waits ht rfl h.store h.issued
    · obtain ⟨r, hp⟩ := h.progress
      simp only [step, ht, hp]
      exact .concluded ht rfl h.store h.issued
    · simp only [step, ht, h.progress]
      exact .broken ht rfl h.store h.issued

theorem change_step (w : Switchboard) (x : Action) : Change w x (w.step x).1 (w.step x).2 := by
  cases x with
  | respond context s text verbose => exact change_respond w context s text verbose
  | reply place reply => exact change_reply w place reply
  | start s =>
    cases hc : w.store.get? s with
    | some c =>
      simp only [step, hc]
      exact .idle rfl rfl (Nat.le_refl _) rfl
    | none =>
      simp only [step, hc]
      exact .idle rfl rfl (Nat.le_refl _) rfl
  | probe place available =>
    cases hs : w.openings[place]? with
    | none =>
      simp only [step, hs]
      exact .idle rfl rfl (Nat.le_refl _) rfl
    | some s =>
      simp only [step, hs]
      exact .opened hs rfl rfl rfl rfl rfl
  | reset s =>
    cases hb : w.store.isBusy s with
    | true =>
      rw [step_reset_busy hb]
      exact .idle rfl rfl (Nat.le_refl _) rfl
    | false =>
      rw [step_reset_free hb]
      exact .cleared hb rfl rfl rfl
  | history s => exact .idle rfl rfl (Nat.le_refl _) rfl

end Switchboard

end Reckoner.Chat
