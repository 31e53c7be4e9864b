import Reckoner.Proofs.Chat.Switchboard
import Mathlib.Data.List.InsertIdx

namespace Reckoner.Chat

namespace Switchboard

theorem talking_set {w : Switchboard} {place : Nat} {t : Turn} (found : w.turns[place]? = some t)
    (wait : Wait) :
    (w.turns.set place { t with wait }).map Turn.sessionId = w.talking := by
  obtain ⟨h, rfl⟩ := List.getElem?_eq_some_iff.mp found
  have hm : place < (w.turns.map Turn.sessionId).length := by simpa using h
  have same : (w.turns.map Turn.sessionId)[place] = w.turns[place].sessionId := by simp
  rw [List.map_set]
  change (w.turns.map Turn.sessionId).set place w.turns[place].sessionId = _
  rw [← same, List.set_getElem_self hm]
  rfl

/-- Without the turn at a place, its session has none left. -/
theorem mem_eraseIdx_talking {w : Switchboard} {place : Nat} {t : Turn}
    (apart : w.talking.Nodup) (found : w.turns[place]? = some t) (s : String) :
    s ∈ (w.turns.eraseIdx place).map Turn.sessionId ↔ s ∈ w.talking ∧ s ≠ t.sessionId := by
  obtain ⟨h, rfl⟩ := List.getElem?_eq_some_iff.mp found
  have hm : place < w.talking.length := by simpa [talking] using h
  have same : w.talking[place] = w.turns[place].sessionId := by simp [talking]
  have erased : (w.turns.eraseIdx place).map Turn.sessionId =
      w.talking.erase w.turns[place].sessionId := by
    rw [← List.eraseIdx_map, ← same, apart.erase_getElem place hm]
    rfl
  rw [erased, apart.mem_erase_iff, and_comm]

/-- Another turn than the one at a place is of another session. -/
theorem mem_set_turns {w : Switchboard} {place : Nat} {t u : Turn} {wait : Wait}
    (apart : w.talking.Nodup) (found : w.turns[place]? = some t)
    (hu : u ∈ w.turns.set place { t with wait }) :
    u = { t with wait } ∨ u ∈ w.turns ∧ u.sessionId ≠ t.sessionId := by
  obtain ⟨i, hi⟩ := List.mem_iff_getElem?.mp hu
  by_cases same : place = i
  · subst same
    rw [List.getElem?_set_self (List.getElem?_eq_some_iff.mp found).1] at hi
    exact Or.inl (Option.some.inj hi).symm
  · rw [List.getElem?_set_ne same] at hi
    refine Or.inr ⟨List.mem_of_getElem? hi, ?_⟩
    intro session
    have bound : i < w.talking.length := by
      simpa [talking] using (List.getElem?_eq_some_iff.mp hi).1
    have there : w.talking[i]? = w.talking[place]? := by simp [talking, hi, found, session]
    exact same ((List.getElem?_inj bound apart).mp there).symm

theorem mem_talking {w : Switchboard} {place : Nat} {t : Turn}
    (found : w.turns[place]? = some t) : t.sessionId ∈ w.talking :=
  List.mem_map_of_mem (List.mem_of_getElem? found)

/-- An opening ends although its session has got a conversation in the meantime. -/
def overwrites (w : Switchboard) : Action → Bool
  | .probe place _ => w.openings[place]?.any fun s => (w.store.get? s).isSome
  | _ => false

/-- The store agrees with the turns that wait, and both keep to their sessions. -/
structure WellKept (w : Switchboard) : Prop where
  apart : w.talking.Nodup
  inFlight : ∀ s, w.store.isBusy s = true ↔ s ∈ w.talking
  filed : w.store.Filed
  own : ∀ t ∈ w.turns, t.conversation.sessionId = t.sessionId

/-- Each turn in flight holds a copy of what is stored. -/
structure UpToDate (w : Switchboard) : Prop extends WellKept w where
  copies : ∀ t ∈ w.turns, w.store.get? t.sessionId = some t.conversation

section

variable {w w' : Switchboard} {x : Action} {o : Outcome}

theorem wellKept_new (feed : Option Feed) (manner : Solver.Manner) (showStages : Bool) :
    WellKept (new feed manner showStages) where
  apart := List.nodup_nil
  inFlight s := by simp [new, talking, Store.isBusy, Store.empty]
  filed := Store.filed_empty
  own t h := by simp [new] at h

theorem WellKept.free (h : WellKept w) {s : String} (hs : w.store.isBusy s = false) :
    s ∉ w.talking := by
  intro hm
  rw [(h.inFlight s).mpr hm] at hs
  simp at hs

theorem WellKept.ne_of_free (h : WellKept w) {s : String} (hs : w.store.isBusy s = false) {t : Turn}
    (ht : t ∈ w.turns) : t.sessionId ≠ s := by
  rintro rfl
  exact h.free hs (List.mem_map_of_mem ht)

theorem WellKept.apart_change (h : WellKept w) (c : Change w x w' o) : w'.talking.Nodup := by
  have kept := h.apart
  cases c with
  | idle _ turns => simpa only [talking, turns] using kept
  | begun free turns session =>
    -- A turn begins only where none is in flight, so its session is new to the list.
    simp only [talking, turns, List.map_append, List.map_cons, List.map_nil, session]
    refine kept.append (List.nodup_singleton _) ?_
    simpa using h.free free
  | waits found turns => simpa only [talking, turns, talking_set found] using kept
  | concluded found turns | broken found turns =>
    simp only [talking, turns]
    exact kept.sublist ((List.eraseIdx_sublist _ _).map _)
  | opened _ _ _ turns => simpa only [talking, turns] using kept
  | cleared _ turns => simpa only [talking, turns] using kept

theorem WellKept.inFlight_change (h : WellKept w) (c : Change w x w' o) (s : String) :
    w'.store.isBusy s = true ↔ s ∈ w'.talking := by
  have kept := h.inFlight s
  cases c with
  | idle store turns => simpa only [talking, turns, store] using kept
  | begun free turns session copy store =>
    simp only [store, Store.isBusy_save, Store.isBusy_hold, talking, turns, List.map_append,
      List.map_cons, List.map_nil, session]
    simp [kept, talking, or_comm]
  | waits found turns store => simpa only [talking, turns, talking_set found, store] using kept
  | concluded found turns store | broken found turns store =>
    rw [store, Store.isBusy_leave]
    simp only [talking, turns]
    rw [mem_eraseIdx_talking h.apart found, ← kept]
    simp
  | opened _ _ _ turns store =>
    simpa only [talking, turns, store, Store.isBusy_save] using kept
  | cleared _ turns store =>
    simpa only [talking, turns, store, Store.isBusy_forget] using kept

theorem WellKept.filed_change (h : WellKept w) (c : Change w x w' o) : w'.store.Filed := by
  have kept := h.filed
  cases c with
  | idle store | waits _ _ store | broken _ _ store =>
    rw [store]
    exact kept
  | @begun _ other _ _ _ _ _ _ _ _ store =>
    rw [store]
    have held : (w.store.hold other).Filed := kept
    exact held.save _
  | concluded _ _ store | opened _ _ _ _ store =>
    rw [store]
    exact kept.save _
  | cleared _ _ store =>
    rw [store]
    exact kept.forget _

theorem WellKept.own_change (h : WellKept w) (c : Change w x w' o) :
    ∀ t ∈ w'.turns, t.conversation.sessionId = t.sessionId := by
  have kept := h.own
  cases c with
  | idle _ turns | opened _ _ _ turns | cleared _ turns =>
    rw [turns]
    exact kept
  | begun free turns session copy =>
    rw [turns]
    intro t ht
    rcases List.mem_append.mp ht with ht | ht
    · exact kept t ht
    · obtain rfl := List.mem_singleton.mp ht
      rw [copy, session]
      exact Assistant.sessionId_asking h.filed _ _
  | waits found turns =>
    rw [turns]
    intro t ht
    rcases List.mem_or_eq_of_mem_set ht with ht | rfl
    · exact kept t ht
    · have owned := kept _ (List.mem_of_getElem? found)
      exact owned
  | concluded _ turns | broken _ turns =>
    rw [turns]
    intro t ht
    exact kept t (List.mem_of_mem_eraseIdx ht)

theorem WellKept.change (h : WellKept w) (c : Change w x w' o) : WellKept w' where
  apart := h.apart_change c
  inFlight := h.inFlight_change c
  filed := h.filed_change c
  own := h.own_change c

/-- In every run the store agrees with the turns that wait, whatever the model answers. -/
theorem WellKept.run (h : WellKept w) (actions : List Action) : WellKept (w.run actions) := by
  induction actions generalizing w with
  | nil => exact h
  | cons x rest ih => exact ih (h.change (change_step w x))

theorem saved_of_store (h : w'.store = w.store) (s : String) : w'.saved s = w.saved s := by
  rw [saved, saved, h]

theorem WellKept.saved_begun (h : WellKept w) {other text : String}
    (store : w'.store = (w.store.hold other).save (w.assistant.asking other text)) (s : String) :
    w'.saved s =
      if s = other then w.saved other ++ [w.assistant.said text] else w.saved s := by
  rw [saved, store, Store.current_save, Assistant.sessionId_asking h.filed]
  split <;> rfl

theorem WellKept.saved_concluded (h : WellKept w) {place : Nat} {t : Turn} {d : Draft}
    (found : w.turns[place]? = some t)
    (store : w'.store = (w.store.save (t.conversation.add (w.assistant.told d))).leave t.sessionId)
    (s : String) :
    w'.saved s = if s = t.sessionId then t.conversation.messages ++ [w.assistant.told d]
      else w.saved s := by
  have owned := h.own t (List.mem_of_getElem? found)
  rw [saved, store, Store.current_leave, Store.current_save, Conversation.sessionId_add, owned]
  split <;> rfl

theorem saved_opened {c : Conversation} (store : w'.store = w.store.save c) (s : String) :
    w'.saved s = if s = c.sessionId then c.messages else w.saved s := by
  rw [saved, store, Store.current_save]
  split <;> rfl

theorem saved_cleared {other : String} (store : w'.store = w.store.forget other) (s : String) :
    w'.saved s = if s = other then [] else w.saved s := by
  rw [saved, store, Store.current_forget]
  split <;> rfl

theorem upToDate_new (feed : Option Feed) (manner : Solver.Manner) (showStages : Bool) :
    UpToDate (new feed manner showStages) where
  toWellKept := wellKept_new feed manner showStages
  copies t h := by simp [new] at h

theorem get?_of_opening {place : Nat} {available : Bool} {s : String}
    (found : w.openings[place]? = some s) (h : w.overwrites (.probe place available) = false) :
    w.store.get? s = none := by
  simpa [overwrites, found] using h

/-- The copies stay up to date unless an opening overwrites what is stored. -/
theorem UpToDate.copies_change (h : UpToDate w) (c : Change w x w' o)
    (hx : w.overwrites x = false) :
    ∀ t ∈ w'.turns, w'.store.get? t.sessionId = some t.conversation := by
  have kept := h.copies
  cases c with
  | idle store turns =>
    rw [store, turns]
    exact kept
  | begun free turns session copy store =>
    rw [store, turns]
    intro u hu
    rw [Store.get?_save, Assistant.sessionId_asking h.filed]
    rcases List.mem_append.mp hu with hu | hu
    · rw [if_neg (h.ne_of_free free hu)]
      exact kept u hu
    · obtain rfl := List.mem_singleton.mp hu
      rw [if_pos session, copy]
  | waits found turns store =>
    rw [store, turns]
    intro u hu
    rcases List.mem_or_eq_of_mem_set hu with hu | rfl
    · exact kept u hu
    · have copied := kept _ (List.mem_of_getElem? found)
      exact copied
  | concluded found turns store =>
    -- The save reaches no other turn, for they are all of other sessions.
    rw [store, turns]
    intro u hu
    have other := ((mem_eraseIdx_talking h.apart found _).mp (List.mem_map_of_mem hu)).2
    have owned := h.own _ (List.mem_of_getElem? found)
    rw [Store.get?_leave, Store.get?_save, Conversation.sessionId_add, owned, if_neg other]
    exact kept u (List.mem_of_mem_eraseIdx hu)
  | broken _ turns store =>
    rw [store, turns]
    intro u hu
    exact kept u (List.mem_of_mem_eraseIdx hu)
  | @opened place available _ s _ found session _ turns store =>
    rw [store, turns]
    intro u hu
    have absent := get?_of_opening found hx
    -- Nothing was stored for this session, but every turn's copy is.
    have other : u.sessionId ≠ s := by
      intro same
      rw [← same, kept u hu] at absent
      simp at absent
    rw [Store.get?_save, session, if_neg other]
    exact kept u hu
  | cleared free turns store =>
    rw [store, turns]
    intro u hu
    rw [Store.get?_forget, if_neg (h.ne_of_free free hu)]
    exact kept u hu

/-- The turn at a place holds what is stored. -/
theorem UpToDate.saved_turn (h : UpToDate w) {place : Nat} {t : Turn}
    (found : w.turns[place]? = some t) : w.saved t.sessionId = t.conversation.messages := by
  have copied := h.copies t (List.mem_of_getElem? found)
  rw [saved, Store.current, copied]
  rfl

theorem UpToDate.change (h : UpToDate w) (c : Change w x w' o) (hx : w.overwrites x = false) :
    UpToDate w' where
  toWellKept := h.toWellKept.change c
  copies := h.copies_change c hx

end

end Switchboard

end Reckoner.Chat
