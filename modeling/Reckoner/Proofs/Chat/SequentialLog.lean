import Reckoner.Proofs.Chat.InFlight

namespace Reckoner.Chat

/-- The exchanges of a session since it was last forgotten, and the question in flight. -/
structure Log where
  /-- The questions that are answered, with their answers. -/
  exchanges : List (Message × Message)
  asked : Option Message
  deriving DecidableEq

namespace Log

def empty : Log := ⟨[], none⟩

def messages (l : Log) : List Message :=
  (l.exchanges.flatMap fun e => [e.1, e.2]) ++ l.asked.toList

def ask (l : Log) (m : Message) : Log :=
  { l with asked := some m }

/-- Pairs the question in flight with its answer. -/
def answer (l : Log) (reply : Message) : Log :=
  ⟨l.exchanges ++ l.asked.toList.map fun m => (m, reply), none⟩

/-- The log of a session after a deed, which may be another session's. -/
def after (s : String) (l : Log) : Deed → Log
  | .asked other m => if other = s then l.ask m else l
  | .answered other m => if other = s then l.answer m else l
  | .forgotten other => if other = s then empty else l

/-- The log of a session after all deeds. -/
def ofDeeds (s : String) (deeds : List Deed) : Log :=
  deeds.foldl (after s) empty

/-- The person asks and the assistant answers. -/
structure Alternates (l : Log) : Prop where
  exchanges : ∀ e ∈ l.exchanges, e.1.role = .user ∧ e.2.role = .assistant
  asked : ∀ m ∈ l.asked, m.role = .user

theorem messages_ask {l : Log} (h : l.asked = none) (m : Message) :
    (l.ask m).messages = l.messages ++ [m] := by
  simp [messages, ask, h]

theorem messages_answer {l : Log} {m : Message} (h : l.asked = some m) (reply : Message) :
    (l.answer reply).messages = l.messages ++ [reply] := by
  simp [messages, answer, h]

theorem alternates_empty : Alternates empty where
  exchanges e h := by simp [empty] at h
  asked m h := by simp [empty] at h

theorem Alternates.ask {l : Log} (h : l.Alternates) {m : Message} (hm : m.role = .user) :
    (l.ask m).Alternates where
  exchanges := h.exchanges
  asked m' hm' := by
    obtain rfl : m = m' := Option.some.inj hm'
    exact hm

theorem Alternates.answer {l : Log} (h : l.Alternates) {reply : Message}
    (hr : reply.role = .assistant) : (l.answer reply).Alternates where
  exchanges e he := by
    rcases List.mem_append.mp he with he | he
    · exact h.exchanges e he
    · obtain ⟨m, hm, rfl⟩ := List.mem_map.mp he
      exact ⟨h.asked m (Option.mem_toList.mp hm), hr⟩
  asked m hm := by simp [Log.answer] at hm

end Log

/-- The gateway answers or reports a failure of its own, and no conversation is opened. -/
def Action.isOrdinary : Action → Bool
  | .reply _ (.error (.defect _)) => false
  | .start _ | .probe .. => false
  | _ => true

namespace Switchboard

/-- The stored histories are what the logs say. -/
structure Logged (w : Switchboard) (log : String → Log) : Prop extends UpToDate w where
  history : ∀ s, w.saved s = (log s).messages
  asked : ∀ s, (log s).asked.isSome = w.store.isBusy s
  alternates : ∀ s, (log s).Alternates

/-- The logs after the deed that an outcome shows, if it shows one. -/
def logsAfter (w : Switchboard) (x : Action) (o : Outcome) (log : String → Log) (s : String) : Log :=
  (w.deed? x o).toList.foldl (Log.after s) (log s)

section

variable {w w' : Switchboard} {x : Action} {o : Outcome} {log : String → Log}

theorem logsAfter_of_none (h : w.deed? x o = none) : w.logsAfter x o log = log := by
  funext s
  simp [logsAfter, h]

theorem logsAfter_of_some {deed : Deed} (h : w.deed? x o = some deed) (s : String) :
    w.logsAfter x o log s = (log s).after s deed := by
  simp [logsAfter, h]

theorem logged_new (feed : Option Feed) (manner : Solver.Manner) (showStages : Bool) :
    Logged (new feed manner showStages) (fun _ => .empty) where
  toUpToDate := upToDate_new feed manner showStages
  history _ := rfl
  asked _ := rfl
  alternates _ := Log.alternates_empty

theorem overwrites_of_isOrdinary (hx : x.isOrdinary = true) : w.overwrites x = false := by
  cases x with
  | probe place available => simp [Action.isOrdinary] at hx
  | _ => rfl

/-- The question in flight, if its turn is. -/
theorem Logged.asked_turn (h : Logged w log) {place : Nat} {t : Turn}
    (found : w.turns[place]? = some t) : ∃ m, (log t.sessionId).asked = some m := by
  have busy := (h.inFlight t.sessionId).mpr (mem_talking found)
  exact Option.isSome_iff_exists.mp ((h.asked t.sessionId).trans busy)

theorem Logged.asked_free (h : Logged w log) {s : String} (free : w.store.isBusy s = false) :
    (log s).asked = none := by
  have silent := (h.asked s).trans free
  simpa using silent

theorem Logged.history_change (h : Logged w log) (c : Change w x w' o) (hx : x.isOrdinary = true)
    (s : String) : w'.saved s = (w.logsAfter x o log s).messages := by
  have kept := h.history s
  cases c with
  | idle store _ _ quiet => rw [logsAfter_of_none quiet, ← kept, saved_of_store store s]
  | @begun _ other text _ _ _ free turns session copy store =>
    rw [logsAfter_of_some rfl, h.saved_begun store s, Log.after]
    by_cases hs : s = other
    · subst hs
      rw [if_pos rfl, if_pos rfl, Log.messages_ask (h.asked_free free), ← kept]
    · rw [if_neg hs, if_neg (Ne.symm hs), ← kept]
  | waits found turns store => rw [logsAfter_of_none rfl, ← kept, saved_of_store store s]
  | @concluded _ _ _ t d _ found turns store =>
    rw [logsAfter_of_some rfl, h.saved_concluded found store s, Log.after]
    by_cases hs : s = t.sessionId
    · subst hs
      -- The log knows the question, and the turn's copy ends with it.
      obtain ⟨m, asked⟩ := h.asked_turn found
      rw [if_pos rfl, if_pos rfl, Log.messages_answer asked, ← kept, h.saved_turn found]
    · rw [if_neg hs, if_neg (Ne.symm hs), ← kept]
  | broken | opened => simp [Action.isOrdinary] at hx
  | @cleared other _ free turns store =>
    rw [logsAfter_of_some rfl, saved_cleared store s, Log.after]
    by_cases hs : s = other
    · rw [if_pos hs, if_pos hs.symm]
      rfl
    · rw [if_neg hs, if_neg (Ne.symm hs), ← kept]

theorem Logged.asked_change (h : Logged w log) (c : Change w x w' o) (hx : x.isOrdinary = true)
    (s : String) : (w.logsAfter x o log s).asked.isSome = w'.store.isBusy s := by
  have kept := h.asked s
  cases c with
  | idle store _ _ quiet => rw [logsAfter_of_none quiet, kept, store]
  | @begun _ other text _ _ _ free turns session copy store =>
    rw [logsAfter_of_some rfl, store, Store.isBusy_save, Store.isBusy_hold, Log.after]
    by_cases hs : s = other
    · simp [hs, Log.ask]
    · rw [if_neg (Ne.symm hs), kept]
      simp [hs]
  | waits found turns store => rw [logsAfter_of_none rfl, kept, store]
  | @concluded _ _ _ t d _ found turns store =>
    rw [logsAfter_of_some rfl, store, Store.isBusy_leave, Store.isBusy_save, Log.after]
    by_cases hs : s = t.sessionId
    · simp [hs, Log.answer]
    · rw [if_neg (Ne.symm hs), kept]
      simp [hs]
  | broken | opened => simp [Action.isOrdinary] at hx
  | @cleared other _ free turns store =>
    rw [logsAfter_of_some rfl, store, Store.isBusy_forget, Log.after]
    by_cases hs : s = other
    · subst hs
      rw [if_pos rfl, free]
      rfl
    · rw [if_neg (Ne.symm hs), kept]

theorem Logged.alternates_change (h : Logged w log) (c : Change w x w' o)
    (hx : x.isOrdinary = true) (s : String) : (w.logsAfter x o log s).Alternates := by
  have kept := h.alternates s
  cases c with
  | idle _ _ _ quiet =>
    rw [logsAfter_of_none quiet]
    exact kept
  | begun =>
    rw [logsAfter_of_some rfl, Log.after]
    split
    · exact kept.ask rfl
    · exact kept
  | waits =>
    rw [logsAfter_of_none rfl]
    exact kept
  | concluded =>
    rw [logsAfter_of_some rfl, Log.after]
    split
    · exact kept.answer rfl
    · exact kept
  | broken | opened => simp [Action.isOrdinary] at hx
  | cleared =>
    rw [logsAfter_of_some rfl, Log.after]
    split
    · exact Log.alternates_empty
    · exact kept

theorem Logged.change (h : Logged w log) (c : Change w x w' o) (hx : x.isOrdinary = true) :
    Logged w' (w.logsAfter x o log) where
  toUpToDate := h.toUpToDate.change c (overwrites_of_isOrdinary hx)
  history := h.history_change c hx
  asked := h.asked_change c hx
  alternates := h.alternates_change c hx

theorem Logged.run (h : Logged w log) (actions : List Action)
    (ordinary : ∀ x ∈ actions, x.isOrdinary = true) :
    Logged (w.run actions) (fun s => (w.deeds actions).foldl (Log.after s) (log s)) := by
  -- The logs move along with the run, so both are general in the induction.
  induction actions generalizing w log with
  | nil => exact h
  | cons x rest ih =>
    have stepped := h.change (change_step w x) (ordinary x List.mem_cons_self)
    have rested := ih stepped fun y hy => ordinary y (List.mem_cons_of_mem x hy)
    simp only [deeds, List.foldl_append]
    exact rested

/-- A response lists what is stored when its turn ends. -/
theorem WellKept.messages_response (h : WellKept w) {s : String} {r : Response}
    (ended : (w.step x).2 = .ended s (.ok r)) : r.messages = (w.step x).1.saved s := by
  have c := change_step w x
  rw [ended] at c
  cases c with
  | idle _ _ _ quiet => cases x <;> simp [deed?] at quiet
  | concluded found turns store =>
    rw [h.saved_concluded found store, if_pos rfl, Conversation.messages_add]

end

/-- In every ordinary run a session has at most one turn in flight, its history is what its log says,
who comes while its turn is in flight changes nothing, and a response lists what is then stored. -/
theorem turns_refine_log (feed : Option Feed) (manner : Solver.Manner) (showStages : Bool)
    (actions : List Action) (ordinary : ∀ x ∈ actions, x.isOrdinary = true) :
    let w := (new feed manner showStages).run actions
    let log := fun s => Log.ofDeeds s ((new feed manner showStages).deeds actions)
    w.talking.Nodup ∧
    (∀ s, w.store.isBusy s = true ↔ s ∈ w.talking) ∧
    (∀ s, w.saved s = (log s).messages) ∧
    (∀ s, (log s).asked.isSome = true ↔ s ∈ w.talking) ∧
    (∀ s, (log s).Alternates) ∧
    (∀ s ∈ w.talking, ∀ context text verbose,
      w.step (.respond context s text verbose) = (w, .ended s (.error (.busy (.reply s))))) ∧
    (∀ s ∈ w.talking, w.step (.reset s) = (w, .reset (.error (.reset s)))) ∧
    (∀ x s r, (w.step x).2 = .ended s (.ok r) → r.messages = (w.step x).1.saved s) := by
  intro w log
  have logged : Logged w log := (logged_new feed manner showStages).run actions ordinary
  have asked : ∀ s, (log s).asked.isSome = true ↔ s ∈ w.talking := by
    intro s
    rw [logged.asked s]
    exact logged.inFlight s
  refine ⟨logged.apart, logged.inFlight, logged.history, asked, logged.alternates, ?_, ?_, ?_⟩
  · intro s hs context text verbose
    exact step_respond_busy ((logged.inFlight s).mpr hs) context text verbose
  · intro s hs
    exact step_reset_busy ((logged.inFlight s).mpr hs)
  · intro x s r ended
    exact logged.messages_response ended

/-- Two persons talk at once, one of them twice, and the other one is answered first. -/
theorem turns_refine_log_overlapping :
    let manner : Solver.Manner := ⟨.whole 0, .whole 0⟩
    let actions : List Action := [.respond .unbound "a" "Who are you?" none,
      .respond .unbound "b" "2 + 2" none, .respond .unbound "a" "Hello?" none, .reset "a",
      .reply 1 (.error (.gateway silence)), .history "b", .reply 0 (.ok "An assistant.")]
    (∀ x ∈ actions, x.isOrdinary = true) ∧
    ∀ s, ((new none manner true).run actions).saved s =
      (Log.ofDeeds s ((new none manner true).deeds actions)).messages := by
  intro manner actions
  have ordinary : ∀ x ∈ actions, x.isOrdinary = true := by decide
  exact ⟨ordinary, (turns_refine_log none manner true actions ordinary).2.2.1⟩

end Switchboard

end Reckoner.Chat
