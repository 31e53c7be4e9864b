import Reckoner.Chat.Assistant

namespace Reckoner.Chat

open Reckoner.Gateway

theorem Message.make_of_spoken {m : Message} (h : Text.blank m.content = false) :
    Message.make m = .ok m := by
  simp [Message.make, Schema.require, h, bind, Except.bind, pure, Except.pure]

theorem Message.make_of_blank {m : Message} (h : Text.blank m.content = true) :
    ∃ issues, Message.make m = .error issues := by
  simp [Message.make, Schema.require, h, bind, Except.bind, Schema.refuse]

@[simp] theorem Conversation.sessionId_add (c : Conversation) (m : Message) :
    (c.add m).sessionId = c.sessionId := rfl

@[simp] theorem Conversation.messages_add (c : Conversation) (m : Message) :
    (c.add m).messages = c.messages ++ [m] := rfl

namespace Store

/-- The store with a turn of a session in flight. -/
def hold (s : Store) (sessionId : String) : Store :=
  { s with inFlight := sessionId :: s.inFlight }

/-- The store without the conversation of a session. -/
def forget (s : Store) (sessionId : String) : Store :=
  { s with sessions := s.sessions.erase sessionId }

/-- Every conversation is stored under its own session. -/
def Filed (s : Store) : Prop :=
  ∀ sessionId c, s.get? sessionId = some c → c.sessionId = sessionId

theorem filed_empty : Filed empty := by
  intro sessionId c h
  simp [get?, empty, Table.get?, Table.empty] at h

theorem Filed.save {s : Store} (h : s.Filed) (c : Conversation) : (s.save c).Filed := by
  intro sessionId d hd
  rw [get?_save] at hd
  split at hd
  · rename_i same
    obtain rfl : c = d := Option.some.inj hd
    exact same.symm
  · exact h sessionId d hd

theorem Filed.current {s : Store} (h : s.Filed) (sessionId : String) :
    (s.current sessionId).sessionId = sessionId := by
  unfold Store.current
  cases hc : s.get? sessionId with
  | some c => exact h sessionId c hc
  | none => rfl

theorem clear_of_free {s : Store} {sessionId : String} (h : s.isBusy sessionId = false) :
    s.clear sessionId = .ok (s.forget sessionId) := by
  simp [clear, h, forget]

theorem clear_of_busy {s : Store} {sessionId : String} (h : s.isBusy sessionId = true) :
    s.clear sessionId = .error (.reset sessionId) := by
  simp [clear, h]

theorem enter_of_busy {s : Store} {sessionId : String} (h : s.isBusy sessionId = true) :
    s.enter sessionId = .error (.reply sessionId) := by
  simp [enter, h]

theorem enter_of_free {s : Store} {sessionId : String} (h : s.isBusy sessionId = false) :
    s.enter sessionId = .ok (s.hold sessionId) := by
  simp [enter, h, hold]

@[simp] theorem get?_leave (s : Store) (sessionId other : String) :
    (s.leave sessionId).get? other = s.get? other := rfl

@[simp] theorem current_leave (s : Store) (sessionId other : String) :
    (s.leave sessionId).current other = s.current other := rfl

@[simp] theorem isBusy_save (s : Store) (c : Conversation) (other : String) :
    (s.save c).isBusy other = s.isBusy other := rfl

@[simp] theorem isBusy_forget (s : Store) (sessionId other : String) :
    (s.forget sessionId).isBusy other = s.isBusy other := rfl

theorem get?_forget (s : Store) (sessionId other : String) :
    (s.forget sessionId).get? other = if other = sessionId then none else s.get? other :=
  Table.get?_erase s.sessions sessionId other

theorem current_forget (s : Store) (sessionId other : String) :
    (s.forget sessionId).current other =
      if other = sessionId then Conversation.new other else s.current other := by
  unfold current
  rw [get?_forget]
  split <;> rfl

theorem Filed.forget {s : Store} (h : s.Filed) (sessionId : String) : (s.forget sessionId).Filed := by
  intro other c hc
  rw [get?_forget] at hc
  split at hc
  · simp at hc
  · exact h other c hc

theorem isBusy_hold (s : Store) (sessionId other : String) :
    (s.hold sessionId).isBusy other = (other == sessionId || s.isBusy other) :=
  List.contains_cons

theorem current_save (s : Store) (c : Conversation) (other : String) :
    (s.save c).current other = if other = c.sessionId then c else s.current other := by
  unfold current
  rw [get?_save]
  split <;> rfl

/-- A turn that is left at once has not been there. -/
theorem leave_hold {s : Store} {sessionId : String} (h : s.isBusy sessionId = false) :
    (s.hold sessionId).leave sessionId = s := by
  have absent : sessionId ∉ s.inFlight := by simpa [isBusy] using h
  have same : s.inFlight.filter (· != sessionId) = s.inFlight := by
    apply List.filter_eq_self.mpr
    intro x hx
    have hne : x ≠ sessionId := by
      rintro rfl
      exact absent hx
    simpa using hne
  simp [leave, hold, same]

end Store

namespace Assistant

/-- The message that a person's text becomes. -/
def said (a : Assistant) (text : String) : Message :=
  ⟨idOf (a.issued + 1), .user, text, false, false⟩

/-- The reply that a draft becomes. -/
def told (a : Assistant) (d : Draft) : Message :=
  d.message (idOf (a.issued + 1))

/-- The turn waits on; nothing is saved. -/
structure WaitsOn (a : Assistant) (t : Turn) (after : Assistant × Progress) : Prop where
  progress : ∃ wait, after.2 = .waiting { t with wait }
  store : after.1.store = a.store
  issued : after.1.issued = a.issued

/-- The turn ends: its reply is saved behind its copy of the conversation. -/
structure Concludes (a : Assistant) (t : Turn) (d : Draft) (after : Assistant × Progress) : Prop where
  progress : ∃ run, after.2 = .ended t.contextAfter
    (.ok ⟨a.told d, run, (t.conversation.add (a.told d)).messages⟩)
  store : after.1.store = (a.store.save (t.conversation.add (a.told d))).leave t.sessionId
  issued : after.1.issued = a.issued + 1

/-- The turn ends with a defect; nothing is saved. -/
structure BreaksDown (a : Assistant) (t : Turn) (d : Defect) (after : Assistant × Progress) : Prop where
  progress : after.2 = .ended t.contextAfter (.error (.defect d))
  store : after.1.store = a.store.leave t.sessionId
  issued : after.1.issued = a.issued

theorem concludes_conclude (a : Assistant) (t : Turn) (d : Draft) (run : Option Run) :
    Concludes a t d (a.conclude t d run) :=
  ⟨⟨run, rfl⟩, rfl, rfl⟩

theorem giveUp_cases (a : Assistant) (t : Turn) (f : CallFailure) :
    (∃ d, Concludes a t d (a.giveUp t f)) ∨
      (∃ d, f = .defect d ∧ BreaksDown a t d (a.giveUp t f)) := by
  cases f with
  | gateway g => exact Or.inl ⟨.ofFailure g, concludes_conclude a t _ none⟩
  | defect d => exact Or.inr ⟨d, rfl, rfl, rfl, rfl⟩

theorem proceed_cases (a : Assistant) (t : Turn) (move : Solver.Move) :
    WaitsOn a t (a.proceed t move) ∨ (∃ d, Concludes a t d (a.proceed t move)) ∨
      (∃ d, move.next = .failed (.defect d) ∧ BreaksDown a t d (a.proceed t move)) := by
  unfold proceed
  cases h : move.next with
  | waiting p => exact Or.inl ⟨⟨.solution p, rfl⟩, rfl, rfl⟩
  | solved r => exact Or.inr (Or.inl ⟨.ofRun r t.showStages, ⟨some r, rfl⟩, rfl, rfl⟩)
  | failed f =>
    rcases giveUp_cases (a.publish t.sessionId move.notes) t f with ⟨d, hd⟩ | ⟨d, rfl, hd⟩
    · exact Or.inr (Or.inl ⟨d, hd.progress, hd.store, hd.issued⟩)
    · exact Or.inr (Or.inr ⟨d, rfl, hd.progress, hd.store, hd.issued⟩)

/-- A solution breaks down only by a defect of the call that it waits for. -/
theorem failed_resume {p : Solver.Pending} {reply : Except CallFailure String} {d : Defect}
    (h : (p.resume reply).next = .failed (.defect d)) : reply = .error (.defect d) := by
  cases p with
  | extraction question =>
    cases reply with
    | error f => cases f <;> simp_all [Solver.Pending.resume, Solver.callFailed]
    | ok words =>
      simp only [Solver.Pending.resume, Solver.extracted] at h
      split at h <;> simp [Solver.finish] at h
  | formatting question result =>
    cases reply with
    | error f => cases f <;> simp_all [Solver.Pending.resume, Solver.callFailed]
    | ok words => simp [Solver.Pending.resume, Solver.formatted, Solver.finish] at h

/-- All that resuming a turn can do. -/
theorem resume_cases (a : Assistant) (t : Turn) (reply : Except CallFailure String) :
    WaitsOn a t (a.resume t reply) ∨ (∃ d, Concludes a t d (a.resume t reply)) ∨
      (∃ d, reply = .error (.defect d) ∧ BreaksDown a t d (a.resume t reply)) := by
  unfold resume
  cases t.wait with
  | solution p =>
    rcases proceed_cases a t (p.resume reply) with h | h | ⟨d, hd, h⟩
    · exact Or.inl h
    · exact Or.inr (Or.inl h)
    · exact Or.inr (Or.inr ⟨d, failed_resume hd, h⟩)
  | answer text =>
    cases reply with
    | error f =>
      rcases giveUp_cases a t f with h | ⟨d, rfl, h⟩
      · exact Or.inr (Or.inl h)
      · exact Or.inr (Or.inr ⟨d, rfl, h⟩)
    | ok words =>
      dsimp only
      split
      · exact Or.inr (Or.inl ⟨_, concludes_conclude a t _ none⟩)
      · exact Or.inr (Or.inl ⟨_, concludes_conclude a t (.ofFailure silence) none⟩)

/-- The conversation of a session with a person's message at its end. -/
def asking (a : Assistant) (sessionId text : String) : Conversation :=
  (a.store.current sessionId).add (a.said text)

theorem sessionId_asking {a : Assistant} (h : a.store.Filed) (sessionId text : String) :
    (a.asking sessionId text).sessionId = sessionId :=
  h.current sessionId

/-- The turn waits for the model, with the person's message saved. -/
structure Begins (a : Assistant) (context : Context) (sessionId text : String)
    (after : Assistant × Progress) : Prop where
  spoken : Text.blank text = false
  progress : ∃ showStages wait, after.2 = .waiting ⟨sessionId, showStages, a.asking sessionId text,
    (context.bind .sessionId (some sessionId)).1, (context.bind .sessionId (some sessionId)).2, wait⟩
  store : after.1.store = (a.store.hold sessionId).save (a.asking sessionId text)
  issued : after.1.issued = a.issued + 1

/-- The message is refused; only a number is used up. -/
structure Declines (a : Assistant) (context : Context) (text : String)
    (after : Assistant × Progress) : Prop where
  blank : Text.blank text = true
  progress : ∃ issues, after.2 = .ended context (.error (.unacceptable issues))
  store : after.1.store = a.store
  issued : after.1.issued = a.issued + 1

theorem enter_of_busy {a : Assistant} {sessionId : String} (h : a.store.isBusy sessionId = true)
    (context : Context) (text : String) (verbose : Option Bool) :
    a.enter context sessionId text verbose =
      (a, .ended context (.error (.busy (.reply sessionId)))) := by
  unfold enter
  rw [Store.enter_of_busy h]

/-- All that entering a turn can do when no other is in flight. -/
theorem enter_cases {a : Assistant} {sessionId : String} (h : a.store.isBusy sessionId = false)
    (context : Context) (text : String) (verbose : Option Bool) :
    Declines a context text (a.enter context sessionId text verbose) ∨
      Begins a context sessionId text (a.enter context sessionId text verbose) := by
  unfold enter
  rw [Store.enter_of_free h]
  dsimp only
  cases hb : Text.blank text with
  | true =>
    obtain ⟨issues, hm⟩ := Message.make_of_blank (m := a.said text) hb
    rw [said] at hm
    rw [hm]
    exact Or.inl ⟨hb, ⟨issues, rfl⟩, Store.leave_hold h, rfl⟩
  | false =>
    have hm := Message.make_of_spoken (m := a.said text) hb
    rw [said] at hm
    rw [hm]
    refine Or.inr ?_
    dsimp only
    split
    · exact ⟨hb, ⟨_, _, rfl⟩, rfl, rfl⟩
    · exact ⟨hb, ⟨_, _, rfl⟩, rfl, rfl⟩

end Assistant

end Reckoner.Chat
