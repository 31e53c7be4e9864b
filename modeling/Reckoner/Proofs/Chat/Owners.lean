import Reckoner.Proofs.Chat.Journal

namespace Reckoner.Chat

open Reckoner.Feed Reckoner.Gateway

namespace Assistant

section

variable (a : Assistant) {t : Turn}

theorem sessionId_noted (s : String) (notes : List Solver.Note) :
    ∀ e ∈ noted s notes, e.sessionId = s := by
  intro e he
  unfold noted at he
  split at he
  · simp at he
  · obtain ⟨n, -, rfl⟩ := List.mem_map.mp he
    rfl

theorem sessionId_entering (filed : a.store.Filed) (s text : String) :
    ∀ e ∈ a.entering s text, e.sessionId = s := by
  unfold entering
  split
  · simp
  · split
    · simp [Effect.sessionId]
    · intro e he
      rcases List.mem_append.mp he with first | noted
      · have asking := sessionId_asking filed s text
        rcases List.mem_pair.mp first with rfl | rfl
        · rfl
        · exact asking
      · split at noted
        · exact sessionId_noted s _ e noted
        · simp at noted

variable (own : t.conversation.sessionId = t.sessionId)

include own

theorem sessionId_closing (d : Draft) : ∀ e ∈ a.closing t d, e.sessionId = t.sessionId := by
  simp [closing, Effect.sessionId, own]

theorem sessionId_givingUp (f : CallFailure) : ∀ e ∈ a.givingUp t f, e.sessionId = t.sessionId := by
  cases f with
  | gateway g => exact a.sessionId_closing own _
  | defect d => simp [givingUp, Effect.sessionId]

theorem sessionId_proceeding (move : Solver.Move) :
    ∀ e ∈ a.proceeding t move, e.sessionId = t.sessionId := by
  intro e he
  rcases List.mem_append.mp he with noted | rest
  · exact sessionId_noted _ _ e noted
  · cases hn : move.next with
    | waiting p => simp [hn] at rest
    | solved r => exact a.sessionId_closing own _ e (by simpa [hn] using rest)
    | failed f => exact a.sessionId_givingUp own f e (by simpa [hn] using rest)

theorem sessionId_resuming (reply : Except CallFailure String) :
    ∀ e ∈ a.resuming t reply, e.sessionId = t.sessionId := by
  unfold resuming
  cases t.wait with
  | solution p => exact a.sessionId_proceeding own _
  | answer text =>
    cases reply with
    | error f => exact a.sessionId_givingUp own f
    | ok words =>
      dsimp only
      cases Draft.ofWords words with
      | some d => exact a.sessionId_closing own d
      | none => exact a.sessionId_closing own _

end

theorem showStages_giveUp (a : Assistant) (t : Turn) (f : CallFailure) :
    (a.giveUp t f).1.showStages = a.showStages := by
  cases f <;> rfl

theorem showStages_proceed (a : Assistant) (t : Turn) (move : Solver.Move) :
    (a.proceed t move).1.showStages = a.showStages := by
  unfold proceed
  cases move.next with
  | waiting p => rfl
  | solved r => rfl
  | failed f => exact showStages_giveUp _ t f

theorem showStages_resume (a : Assistant) (t : Turn) (reply : Except CallFailure String) :
    (a.resume t reply).1.showStages = a.showStages := by
  unfold resume
  cases t.wait with
  | solution p => exact showStages_proceed a t _
  | answer text =>
    cases reply with
    | error f => exact showStages_giveUp a t f
    | ok words =>
      dsimp only
      cases Draft.ofWords words <;> rfl

theorem showStages_enter (a : Assistant) (context : Context) (s text : String)
    (verbose : Option Bool) : (a.enter context s text verbose).1.showStages = a.showStages := by
  unfold enter
  cases a.store.enter s with
  | error b => rfl
  | ok store =>
    dsimp only
    split
    · rfl
    · split
      · exact showStages_proceed _ _ _
      · rfl

theorem sessionId_enter {a : Assistant} {context : Context} {s text : String} {verbose : Option Bool}
    {t : Turn} (h : (a.enter context s text verbose).2 = .waiting t) : t.sessionId = s := by
  cases hb : a.store.isBusy s with
  | true =>
    rw [enter_of_busy hb] at h
    cases h
  | false =>
    rcases enter_cases hb context text verbose with declined | begun
    · obtain ⟨issues, hp⟩ := declined.progress
      rw [hp] at h
      cases h
    · obtain ⟨showStages, wait, hp⟩ := begun.progress
      rw [hp] at h
      cases h
      rfl

theorem sessionId_resume {a : Assistant} {t u : Turn} {reply : Except CallFailure String}
    (h : (a.resume t reply).2 = .waiting u) : u.sessionId = t.sessionId := by
  rcases resume_cases a t reply with waits | ⟨d, concluded⟩ | ⟨d, -, broken⟩
  · obtain ⟨wait, hp⟩ := waits.progress
    rw [hp] at h
    cases h
    rfl
  · obtain ⟨run, hp⟩ := concluded.progress
    rw [hp] at h
    cases h
  · rw [broken.progress] at h
    cases h

end Assistant

/-- What is at a place of a list, and what is before and after it. -/
theorem exists_at {α : Type} {l : List α} {place : Nat} {x : α} (found : l[place]? = some x) :
    ∃ before after, l = before ++ x :: after ∧ (∀ y, l.set place y = before ++ y :: after) ∧
      l.eraseIdx place = before ++ after := by
  obtain ⟨bound, rfl⟩ := List.getElem?_eq_some_iff.mp found
  refine ⟨l.take place, l.drop (place + 1), by simp, ?_, List.eraseIdx_eq_take_drop_succ _ _⟩
  intro y
  rw [List.set_eq_take_append_cons_drop, if_pos bound]

namespace Switchboard

/-- The session that an action is for; an answer is for the session of what waits for it. -/
def owner (w : Switchboard) : Action → Option String
  | .respond _ s .. | .start s | .reset s | .history s => some s
  | .reply place _ => w.turns[place]?.map Turn.sessionId
  | .probe place _ => w.openings[place]?

section

variable {w w' : Switchboard} {x : Action} {s : String}

/-- Whatever is done in a step is done for its session. -/
theorem WellKept.effects_owner (h : WellKept w) (x : Action) :
    ∀ e ∈ w.effects x, w.owner x = some e.sessionId := by
  intro e he
  cases x with
  | respond context s text verbose =>
    exact congrArg some (w.assistant.sessionId_entering h.filed s text e he).symm
  | reply place reply =>
    simp only [effects] at he
    cases found : w.turns[place]? with
    | none => simp [found] at he
    | some t =>
      rw [found] at he
      have own := h.own t (List.mem_of_getElem? found)
      simp only [owner, found]
      exact congrArg some (w.assistant.sessionId_resuming own reply e he).symm
  | start s | history s => simp [effects] at he
  | probe place available =>
    simp only [effects] at he
    cases found : w.openings[place]? with
    | none => simp [found] at he
    | some s =>
      rw [found] at he
      obtain rfl := List.mem_singleton.mp he
      exact found
  | reset s =>
    simp only [effects] at he
    split at he
    · simp at he
    · obtain rfl := List.mem_singleton.mp he
      rfl

theorem showStages_step (w : Switchboard) (x : Action) :
    (w.step x).1.assistant.showStages = w.assistant.showStages := by
  cases x with
  | respond context s text verbose =>
    have entered := w.assistant.showStages_enter context s text verbose
    simp only [step]
    cases hp : (w.assistant.enter context s text verbose).2 <;> exact entered
  | reply place reply =>
    simp only [step]
    cases w.turns[place]? with
    | none => rfl
    | some t =>
      have resumed := w.assistant.showStages_resume t reply
      dsimp only
      cases hp : (w.assistant.resume t reply).2 <;> exact resumed
  | start s =>
    simp only [step]
    cases w.store.get? s <;> rfl
  | probe place available =>
    simp only [step]
    cases w.openings[place]? <;> rfl
  | reset s =>
    cases hb : w.store.isBusy s with
    | true => rw [step_reset_busy hb]
    | false => rw [step_reset_free hb]
  | history s => rfl

theorem Change.issued {o : Outcome} (c : Change w x w' o) :
    w.assistant.issued ≤ w'.assistant.issued := by
  cases c with
  | idle _ _ issued => exact issued
  | waits _ _ _ issued | broken _ _ _ issued | cleared _ _ _ issued => exact Nat.le_of_eq issued.symm
  | begun _ _ _ _ _ issued | concluded _ _ _ issued | opened _ _ _ _ _ issued =>
    exact issued ▸ Nat.le_succ _

theorem apart_of_found {place : Nat} {reply : Except CallFailure String} {t : Turn}
    (found : w.turns[place]? = some t) (other : w.owner (.reply place reply) ≠ some s) :
    t.sessionId ≠ s := by
  simpa [owner, found] using other

theorem Change.turns_other {o : Outcome} (c : Change w x w' o) (other : w.owner x ≠ some s) :
    w'.turns.filter (·.sessionId = s) = w.turns.filter (·.sessionId = s) := by
  cases c with
  | idle _ turns | opened _ _ _ turns | cleared _ turns => rw [turns]
  | begun _ turns session =>
    have apart : _ ≠ s := fun same => other (congrArg some same)
    rw [turns, List.filter_append, List.filter_cons_of_neg (by simpa [session] using apart)]
    simp
  | waits found turns =>
    have apart := apart_of_found found other
    obtain ⟨before, after, split, set, -⟩ := exists_at found
    rw [turns, set, split]
    simp [apart]
  | concluded found turns | broken found turns =>
    have apart := apart_of_found found other
    obtain ⟨before, after, split, -, erased⟩ := exists_at found
    rw [turns, erased, split]
    simp [apart]

theorem openings_other (w : Switchboard) (x : Action) (other : w.owner x ≠ some s) :
    (w.step x).1.openings.filter (· = s) = w.openings.filter (· = s) := by
  cases x with
  | start t =>
    have apart : t ≠ s := by simpa [owner] using other
    simp only [step]
    cases w.store.get? t <;> simp [apart]
  | probe place available =>
    simp only [step]
    cases found : w.openings[place]? with
    | none => rfl
    | some t =>
      have apart : t ≠ s := by simpa [owner, found] using other
      obtain ⟨before, after, split, -, erased⟩ := exists_at found
      dsimp only
      rw [erased, split]
      simp [apart]
  | respond context t text verbose =>
    simp only [step]
    split <;> rfl
  | reply place words =>
    simp only [step]
    split
    · rfl
    · split <;> rfl
  | reset t =>
    simp only [step]
    split <;> rfl
  | history t => rfl

theorem WellKept.effectsOf_other (h : WellKept w) (x : Action) (other : w.owner x ≠ some s) :
    effectsOf s (w.effects x) = [] := by
  refine List.filter_eq_nil_iff.mpr ?_
  intro e he
  have owned := h.effects_owner x e he
  have apart : e.sessionId ≠ s := by
    rintro rfl
    exact other owned
  simpa using apart

theorem WellKept.effectsOf_own (h : WellKept w) (x : Action) (own : w.owner x = some s) :
    effectsOf s (w.effects x) = w.effects x := by
  refine List.filter_eq_self.mpr ?_
  intro e he
  have owned := h.effects_owner x e he
  simpa using Option.some.inj (owned.symm.trans own)

/-- A session has no other turn than the one at its place. -/
theorem WellKept.own_turn (h : WellKept w) {place : Nat} {t : Turn} (found : w.turns[place]? = some t) :
    w.turns.filter (·.sessionId = t.sessionId) = [t] ∧
      (∀ u, u.sessionId = t.sessionId →
        (w.turns.set place u).filter (·.sessionId = t.sessionId) = [u]) ∧
      (w.turns.eraseIdx place).filter (·.sessionId = t.sessionId) = [] := by
  obtain ⟨before, after, split, set, erased⟩ := exists_at found
  have apart := h.apart
  simp only [talking, split, List.map_append, List.map_cons, List.nodup_append, List.nodup_cons] at apart
  have none_before : before.filter (·.sessionId = t.sessionId) = [] := by
    refine List.filter_eq_nil_iff.mpr ?_
    intro u hu
    have other := apart.2.2 u.sessionId (List.mem_map_of_mem hu) t.sessionId (List.mem_cons_self ..)
    simpa using other
  have none_after : after.filter (·.sessionId = t.sessionId) = [] := by
    refine List.filter_eq_nil_iff.mpr ?_
    intro u hu
    have other : u.sessionId ≠ t.sessionId := by
      intro same
      exact apart.2.1.1 (same ▸ List.mem_map_of_mem hu)
    simpa using other
  refine ⟨?_, ?_, ?_⟩
  · rw [split, List.filter_append, none_before, List.filter_cons_of_pos (by simp), none_after]
    rfl
  · intro u session
    rw [set, List.filter_append, none_before, List.filter_cons_of_pos (by simp [session]), none_after]
    rfl
  · rw [erased, List.filter_append, none_before, none_after]
    rfl

end

end Switchboard

end Reckoner.Chat
