import Reckoner.Proofs.Feed.Calls
import Mathlib.Data.List.Forall2

namespace Reckoner.Feed

variable {R R' : Json.Members → Json.Members → Prop}

/-- Events that agree on everything but what they tell of, which is related. -/
structure Event.Alike (R : Json.Members → Json.Members → Prop) (e e' : Event) : Prop where
  data : R e.data e'.data
  rest : e' = { e with data := e'.data }

structure Channel.Alike (R : Json.Members → Json.Members → Prop) (c c' : Channel) : Prop where
  queue : List.Forall₂ (Event.Alike R) c.queue c'.queue
  pending : List.Forall₂ (Event.Alike R) c.pending c'.pending
  rest : c' = { c with queue := c'.queue, pending := c'.pending }

inductive Channel.Call.Alike (R : Json.Members → Json.Members → Prop) : Call → Call → Prop where
  | emit {kind node : String} {data data' : Json.Members} (alike : R data data') :
      Alike R (.emit kind node data) (.emit kind node data')
  | same (x : Call) : Alike R x x

/-- A waiter is served alike. -/
structure Served.Alike (R : Json.Members → Json.Members → Prop) (p p' : Nat × Option Event) : Prop where
  waiter : p'.1 = p.1
  event : Option.Rel (Event.Alike R) p.2 p'.2

inductive Channel.Call.Answer.Alike (R : Json.Members → Json.Members → Prop) : Answer → Answer → Prop where
  | done : Alike R .done .done
  | emitted {e e' : Event} (alike : e.Alike R e') : Alike R (.emitted e) (.emitted e')
  | woken {served served' : List (Nat × Option Event)}
      (alike : List.Forall₂ (Served.Alike R) served served') : Alike R (.woken served) (.woken served')
  | event {e e' : Event} (alike : e.Alike R e') : Alike R (.event e) (.event e')
  | waits : Alike R .waits .waits
  | refused (reason : NoEvent) : Alike R (.refused reason) (.refused reason)
  | events {es es' : List Event} (alike : List.Forall₂ (Event.Alike R) es es') :
      Alike R (.events es) (.events es')
  | count (n : Nat) : Alike R (.count n) (.count n)

theorem Event.Alike.refl (refl : ∀ data, R data data) (e : Event) : e.Alike R e :=
  ⟨refl e.data, rfl⟩

theorem Channel.Alike.refl (refl : ∀ data, R data data) (c : Channel) : c.Alike R c where
  queue := List.forall₂_same.mpr fun e _ => .refl refl e
  pending := List.forall₂_same.mpr fun e _ => .refl refl e
  rest := rfl

theorem Event.Alike.mono (le : ∀ data data', R data data' → R' data data') {e e' : Event}
    (h : e.Alike R e') : e.Alike R' e' :=
  ⟨le _ _ h.data, h.rest⟩

theorem Channel.Alike.mono (le : ∀ data data', R data data' → R' data data') {c c' : Channel}
    (h : c.Alike R c') : c.Alike R' c' where
  queue := h.queue.imp fun _ _ => .mono le
  pending := h.pending.imp fun _ _ => .mono le
  rest := h.rest

namespace Channel

theorem alike_lastOf (limit : Nat) {es es' : List Event} (h : List.Forall₂ (Event.Alike R) es es') :
    List.Forall₂ (Event.Alike R) (lastOf limit es) (lastOf limit es') := by
  rw [lastOf, lastOf, h.length_eq]
  exact List.forall₂_drop _ h

theorem alike_snoc {es es' : List Event} {e e' : Event} (h : List.Forall₂ (Event.Alike R) es es')
    (last : e.Alike R e') : List.Forall₂ (Event.Alike R) (es ++ [e]) (es' ++ [e']) :=
  List.rel_append h (.cons last .nil)

theorem alike_serve (waiters : List Nat) {es es' : List Event}
    (h : List.Forall₂ (Event.Alike R) es es') :
    List.Forall₂ (Served.Alike R) (serve waiters es).1 (serve waiters es').1 ∧
      List.Forall₂ (Event.Alike R) (serve waiters es).2 (serve waiters es').2 := by
  induction waiters generalizing es es' with
  | nil => exact ⟨.nil, h⟩
  | cons w rest ih =>
    cases h with
    | nil => exact ⟨.cons ⟨rfl, .none⟩ (ih .nil).1, .nil⟩
    | cons first others => exact ⟨.cons ⟨rfl, .some first⟩ (ih others).1, (ih others).2⟩

section

variable (limit : Nat) (sessionId : String) {c c' : Channel}

theorem Alike.enqueue (h : c.Alike R c') {e e' : Event} (alike : e.Alike R e') :
    (c.enqueue limit e).Alike R (c'.enqueue limit e') := by
  obtain ⟨queue, pending, rest⟩ := h
  refine ⟨alike_lastOf limit (alike_snoc queue alike), pending, ?_⟩
  rw [rest]
  rfl

theorem Alike.emit (h : c.Alike R c') {data data' : Json.Members} (alike : R data data')
    (kind node : String) :
    (c.emit limit sessionId kind node data).1.Alike R (c'.emit limit sessionId kind node data').1 ∧
      (c.emit limit sessionId kind node data).2.Alike R
        (c'.emit limit sessionId kind node data').2 := by
  have same := congrArg Channel.issued h.rest
  have event : (c.emit limit sessionId kind node data).2.Alike R
      (c'.emit limit sessionId kind node data').2 := ⟨alike, by simp [Channel.emit, same]⟩
  refine ⟨?_, event⟩
  obtain ⟨queue, pending, rest⟩ := h
  have counted : { c with issued := c.issued + 1 }.Alike R { c' with issued := c'.issued + 1 } :=
    ⟨queue, pending, by rw [rest]⟩
  have listens : (c'.registered && c'.listening) = (c.registered && c.listening) := by rw [rest]
  simp only [Channel.emit] at event ⊢
  rw [listens]
  split
  · exact ⟨queue, alike_snoc pending event, by rw [rest]⟩
  · exact counted.enqueue limit event

theorem Alike.perform (h : c.Alike R c') : (c.perform limit).1.Alike R (c'.perform limit).1 ∧
    List.Forall₂ (Served.Alike R) (c.perform limit).2 (c'.perform limit).2 := by
  obtain ⟨queue, pending, rest⟩ := h
  have waiting : c'.waiting = c.waiting := by rw [rest]
  cases hp : c.pending with
  | nil =>
    rw [hp, List.forall₂_nil_left_iff] at pending
    simp only [Channel.perform, hp, pending]
    exact ⟨⟨queue, by rw [hp, pending]; exact .nil, rest⟩, .nil⟩
  | cons e others =>
    rw [hp] at pending
    obtain ⟨e', others', first, later, hp'⟩ := List.forall₂_cons_left_iff.mp pending
    have served := alike_serve c.waiting (alike_lastOf limit (alike_snoc queue first))
    simp only [Channel.perform, hp, hp', Channel.enqueue, waiting]
    exact ⟨⟨served.2, later, by rw [rest]⟩, served.1⟩

theorem Alike.next (h : c.Alike R c') (waiter : Nat) :
    (c.call limit sessionId (.next waiter)).1.Alike R (c'.call limit sessionId (.next waiter)).1 ∧
      (c.call limit sessionId (.next waiter)).2.Alike R
        (c'.call limit sessionId (.next waiter)).2 := by
  obtain ⟨queue, pending, rest⟩ := h
  have registered : c'.registered = c.registered := by rw [rest]
  cases hq : c.queue with
  | nil =>
    rw [hq, List.forall₂_nil_left_iff] at queue
    simp only [call, take?, hq, queue, registered]
    have still : List.Forall₂ (Event.Alike R) c.queue c'.queue := by rw [hq, queue]; exact .nil
    split
    · exact ⟨⟨still, pending, by simp only [join]; rw [rest]⟩, .waits⟩
    · exact ⟨⟨still, pending, rest⟩, .refused _⟩
  | cons e others =>
    rw [hq] at queue
    obtain ⟨e', others', first, later, hq'⟩ := List.forall₂_cons_left_iff.mp queue
    simp only [call, take?, hq, hq']
    exact ⟨⟨later, pending, by rw [rest]⟩, .event first⟩

theorem Alike.emptied (h : c.Alike R c') : c.drain.2.Alike R c'.drain.2 where
  queue := .nil
  pending := h.pending
  rest := by
    simp only [Channel.drain]
    rw [h.rest]

/-- A call that is alike leaves alike channels alike, and is answered alike. -/
theorem Alike.call (refl : ∀ data, R data data) (h : c.Alike R c') {x x' : Channel.Call}
    (alike : x.Alike R x') : (c.call limit sessionId x).1.Alike R (c'.call limit sessionId x').1 ∧
      (c.call limit sessionId x).2.Alike R (c'.call limit sessionId x').2 := by
  cases alike with
  | @emit kind node data data' alike =>
    obtain ⟨channel, event⟩ := h.emit limit sessionId alike kind node
    exact ⟨channel, .emitted event⟩
  | same =>
    cases x with
    | emit kind node data =>
      obtain ⟨channel, event⟩ := h.emit limit sessionId (refl data) kind node
      exact ⟨channel, .emitted event⟩
    | perform => exact ⟨(h.perform limit).1, .woken (h.perform limit).2⟩
    | next waiter => exact h.next limit sessionId waiter
    | register | unregister | giveUp waiter =>
      refine ⟨⟨h.queue, h.pending, ?_⟩, .done⟩
      simp only [Channel.call, register, unregister, quit]
      rw [h.rest]
    | drain => exact ⟨h.emptied, .events h.queue⟩
    | clear =>
      refine ⟨h.emptied, ?_⟩
      simp only [Channel.call, Channel.drain, h.queue.length_eq]
      exact .count _

end

end Channel

/-- Feeds that keep as many events, with a session whose channels are alike. -/
structure Alike (R : Json.Members → Json.Members → Prop) (s : String) (f f' : Feed) : Prop where
  limit : f'.limit = f.limit
  channel : (f.channel s).Alike R (f'.channel s)

namespace Alike

variable {s : String} {f f' : Feed}

theorem call (refl : ∀ data, R data data) (h : f.Alike R s f') {x x' : Channel.Call} (alike : x.Alike R x') :
    (f.call s x).1.Alike R s (f'.call s x').1 ∧ (f.call s x).2.Alike R (f'.call s x').2 := by
  obtain ⟨channel, answer⟩ := h.channel.call f.limit s refl alike
  rw [(call_eq f s x).2, (call_eq f' s x').2, h.limit]
  refine ⟨⟨by rw [limit_call, limit_call, h.limit], ?_⟩, answer⟩
  rw [(call_eq f s x).1, (call_eq f' s x').1, Function.update_self, Function.update_self, h.limit]
  exact channel

/-- A call in another session is not noticed. -/
theorem call_other (h : f.Alike R s f') {t : String} (other : t ≠ s) (x : Channel.Call) :
    (f.call t x).1.Alike R s f' where
  limit := by rw [limit_call, h.limit]
  channel := by
    rw [(call_eq f t x).1, Function.update_of_ne (Ne.symm other)]
    exact h.channel

theorem refl (refl : ∀ data, R data data) (s : String) (f : Feed) : f.Alike R s f :=
  ⟨rfl, .refl refl _⟩

theorem mono (le : ∀ data data', R data data' → R' data data') (h : f.Alike R s f') :
    f.Alike R' s f' :=
  ⟨h.limit, h.channel.mono le⟩

end Alike

end Reckoner.Feed
