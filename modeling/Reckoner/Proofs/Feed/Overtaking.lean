import Reckoner.Feed.Channel
import Mathlib.Data.List.Basic

namespace Reckoner.Feed.Channel

/-- What can happen on a channel, the loop's own part included. -/
inductive Act where
  | emit (kind node : String) (data : Json.Members)
  | perform
  | register
  | unregister
  | next (waiter : Nat)
  | drain

/-- The channel afterwards, and the events that are handed out. Whoever asks for the next event and finds
none waits for it if anybody has ever listened. -/
def act (limit : Nat) (sessionId : String) (c : Channel) : Act → Channel × List Event
  | .emit kind node data => ((c.emit limit sessionId kind node data).1, [])
  | .perform => ((c.perform limit).1, (c.perform limit).2.filterMap (·.2))
  | .register => (c.register, [])
  | .unregister => (c.unregister, [])
  | .next waiter =>
    match c.take? with
    | some (e, c) => (c, [e])
    | none => (if c.registered then { c with waiting := c.waiting ++ [waiter] } else c, [])
  | .drain => (c.drain.2, c.drain.1)

def actAll (limit : Nat) (sessionId : String) (c : Channel) : List Act → Channel
  | [] => c
  | a :: rest => actAll limit sessionId (c.act limit sessionId a).1 rest

/-- The events that are handed out in a run, in this order. -/
def handedOut (limit : Nat) (sessionId : String) (c : Channel) : List Act → List Event
  | [] => []
  | a :: rest =>
    (c.act limit sessionId a).2 ++ handedOut limit sessionId (c.act limit sessionId a).1 rest

/-- An event is queued at once while others wait for the loop. -/
def overtakes (c : Channel) : Act → Bool
  | .emit .. => !(c.registered && c.listening) && !c.pending.isEmpty
  | _ => false

def Act.emits : Act → Bool
  | .emit .. => true
  | _ => false

def InOrder (events : List Event) : Prop :=
  (events.map (·.sequence)).Pairwise (· < ·)

/-- In a run, no event is queued at once while others wait for the loop. -/
def NeverOvertakes (limit : Nat) (sessionId : String) (c : Channel) (actions : List Act) : Prop :=
  ∀ before a after, actions = before ++ a :: after →
    (c.actAll limit sessionId before).overtakes a = false

/-- Whatever is handed out comes in the order of the numbers, at each point of a run and however the
events that are there by then are handed out later. -/
def HandsOutInOrder (limit : Nat) (sessionId : String) (c : Channel) (actions : List Act) : Prop :=
  ∀ before after later, actions = before ++ after → (∀ a ∈ later, a.emits = false) →
    InOrder (c.handedOut limit sessionId (before ++ later))

section

variable {limit : Nat} {sessionId : String} {c : Channel} {a : Act} {out : List Event}

theorem handedOut_append (before after : List Act) :
    c.handedOut limit sessionId (before ++ after) =
      c.handedOut limit sessionId before ++
        (c.actAll limit sessionId before).handedOut limit sessionId after := by
  induction before generalizing c with
  | nil => rfl
  | cons a rest ih =>
    rw [List.cons_append, handedOut, handedOut, ih, List.append_assoc]
    rfl

theorem lastOf_sublist (limit : Nat) (events : List Event) : (lastOf limit events).Sublist events :=
  List.drop_sublist _ _

theorem lastOf_zero (events : List Event) : lastOf 0 events = [] := by
  rw [lastOf, Nat.sub_zero, List.drop_length]

/-- The last event of a list is kept if there is room for one. -/
theorem mem_lastOf_append (room : 0 < limit) (events : List Event) (e : Event) :
    e ∈ lastOf limit (events ++ [e]) := by
  have short : (events ++ [e]).length - limit ≤ events.length := by
    rw [List.length_append, List.length_singleton]
    omega
  rw [lastOf, List.drop_append_of_le_length short]
  exact List.mem_append_right _ (List.mem_singleton_self e)

/-- What the waiters get, and what is left, is the queue. -/
theorem serve_partition (waiters : List Nat) (queue : List Event) :
    (serve waiters queue).1.filterMap (·.2) ++ (serve waiters queue).2 = queue := by
  induction waiters generalizing queue with
  | nil => rfl
  | cons w rest ih =>
    cases queue with
    | nil =>
      rw [serve, List.append_nil, List.filterMap_cons_none rfl]
      exact (List.append_eq_nil_iff.mp (ih [])).1
    | cons e queue => exact congrArg (e :: ·) (ih queue)

/-- The event that is emitted. -/
def fresh (sessionId : String) (c : Channel) : Act → List Event
  | .emit kind node data => [⟨sessionId, c.issued + 1, kind, node, data⟩]
  | _ => []

/-- If no event is overtaken, what is handed out and what is left come in the order in which they were. -/
theorem act_sublist (fair : c.overtakes a = false) :
    ((c.act limit sessionId a).2 ++ ((c.act limit sessionId a).1.queue ++
      (c.act limit sessionId a).1.pending)).Sublist
        (c.queue ++ c.pending ++ c.fresh sessionId a) := by
  cases a with
  | emit kind node data =>
    simp only [act, emit, fresh, List.nil_append]
    split
    · simp
    · rename_i direct
      have none_pending : c.pending = [] := by simpa [overtakes, direct] using fair
      simp only [enqueue, none_pending, List.append_nil]
      exact lastOf_sublist _ _
  | perform =>
    simp only [act, perform, fresh, List.append_nil]
    split
    · rename_i none_pending
      simp [none_pending]
    · rename_i e rest pending
      simp only [enqueue, pending]
      rw [← List.append_assoc, serve_partition, List.append_cons c.queue e rest]
      exact (lastOf_sublist _ _).append_right rest
  | register | unregister => simp [act, fresh, register, unregister]
  | next waiter =>
    simp only [act, fresh, take?, List.append_nil]
    cases hq : c.queue with
    | nil =>
      dsimp only
      split <;> simp [hq]
    | cons e rest => simp
  | drain => simp [act, fresh, drain]

/-- What has been handed out comes before what is left, and nothing has a number not yet issued. -/
structure InLine (c : Channel) (out : List Event) : Prop where
  inOrder : InOrder (out ++ (c.queue ++ c.pending))
  issued : ∀ e ∈ out ++ (c.queue ++ c.pending), e.sequence ≤ c.issued

theorem inLine_new : InLine new [] where
  inOrder := List.Pairwise.nil
  issued := by simp [new]

theorem issued_act : (c.act limit sessionId a).1.issued = c.issued + (c.fresh sessionId a).length := by
  cases a with
  | emit kind node data =>
    simp only [act, emit, fresh]
    split <;> rfl
  | perform =>
    simp only [act, perform]
    split <;> rfl
  | next waiter =>
    simp only [act, take?]
    cases c.queue with
    | nil => dsimp only; split <;> rfl
    | cons e rest => rfl
  | _ => rfl

theorem pending_act (a : Act) :
    (c.act limit sessionId a).1.pending ⊆ c.pending ++ c.fresh sessionId a := by
  cases a with
  | emit kind node data =>
    simp only [act, emit, fresh]
    split
    · exact List.Subset.refl _
    · exact List.subset_append_left _ _
  | perform =>
    simp only [act, perform]
    split
    · exact List.subset_append_left _ _
    · rename_i e rest pending
      rw [pending]
      exact List.Subset.trans (List.subset_cons_self e rest) (List.subset_append_left _ _)
  | next waiter =>
    refine List.Subset.trans ?_ (List.subset_append_left _ _)
    simp only [act, take?]
    cases c.queue with
    | nil => dsimp only; split <;> exact List.Subset.refl _
    | cons e rest => exact List.Subset.refl _
  | _ => exact List.subset_append_left _ _

theorem sequence_fresh {e : Event} (he : e ∈ c.fresh sessionId a) : e.sequence = c.issued + 1 := by
  cases a with
  | emit kind node data => rw [List.mem_singleton.mp he]
  | _ => simp [fresh] at he

theorem InLine.act (h : InLine c out) (fair : c.overtakes a = false) :
    InLine (c.act limit sessionId a).1 (out ++ (c.act limit sessionId a).2) := by
  have fewer : (out ++ (c.act limit sessionId a).2 ++ ((c.act limit sessionId a).1.queue ++
      (c.act limit sessionId a).1.pending)).Sublist
        (out ++ (c.queue ++ c.pending) ++ c.fresh sessionId a) := by
    rw [List.append_assoc, List.append_assoc]
    exact (act_sublist fair).append_left out
  constructor
  · refine List.Pairwise.sublist (fewer.map _) ?_
    rw [List.map_append, List.pairwise_append]
    refine ⟨h.inOrder, ?_, ?_⟩
    · cases a <;> simp [fresh]
    · intro m hm n hn
      obtain ⟨e, he, rfl⟩ := List.mem_map.mp hm
      obtain ⟨e', he', rfl⟩ := List.mem_map.mp hn
      rw [sequence_fresh he']
      exact Nat.lt_succ_of_le (h.issued e he)
  · intro e he
    rw [issued_act]
    rcases List.mem_append.mp (fewer.subset he) with old | new
    · exact Nat.le_add_right_of_le (h.issued e old)
    · rw [sequence_fresh new]
      exact Nat.add_le_add_left (List.length_pos_of_mem new) _

theorem NeverOvertakes.head {rest : List Act} (h : NeverOvertakes limit sessionId c (a :: rest)) :
    c.overtakes a = false :=
  h [] a rest rfl

theorem NeverOvertakes.tail {rest : List Act} (h : NeverOvertakes limit sessionId c (a :: rest)) :
    NeverOvertakes limit sessionId (c.act limit sessionId a).1 rest := by
  intro before b after split
  exact h (a :: before) b after (by rw [split]; rfl)

/-- Without an event that overtakes others, a run keeps the line. -/
theorem InLine.actAll (h : InLine c out) {actions : List Act}
    (fair : NeverOvertakes limit sessionId c actions) :
    InLine (c.actAll limit sessionId actions) (out ++ c.handedOut limit sessionId actions) := by
  induction actions generalizing c out with
  | nil => simpa [handedOut, Channel.actAll] using h
  | cons a rest ih =>
    rw [handedOut, ← List.append_assoc]
    exact ih (h.act fair.head) fair.tail

/-- Where nothing is emitted, nothing is overtaken. -/
theorem overtakes_of_not_emits (silent : a.emits = false) : c.overtakes a = false := by
  cases a <;> simp_all [Act.emits, overtakes]

theorem NeverOvertakes.append_silent {before after later : List Act}
    (fair : NeverOvertakes limit sessionId c (before ++ after))
    (silent : ∀ a ∈ later, a.emits = false) :
    NeverOvertakes limit sessionId c (before ++ later) := by
  intro first a last split
  rcases List.append_eq_append_iff.mp split with ⟨mid, -, here⟩ | ⟨mid, here, there⟩
  · have late : a ∈ later := by
      rw [here]
      simp
    exact overtakes_of_not_emits (silent a late)
  · cases mid with
    | nil =>
      have late : a ∈ later := by
        rw [List.nil_append] at there
        rw [← there]
        simp
      exact overtakes_of_not_emits (silent a late)
    | cons b mid =>
      obtain ⟨rfl, -⟩ := List.cons.inj there
      refine fair first a (mid ++ after) ?_
      rw [here, List.append_assoc]
      rfl

/-- With no room in the queue nothing is ever handed out. -/
theorem act_without_room (empty : c.queue = []) :
    (c.act 0 sessionId a).2 = [] ∧ (c.act 0 sessionId a).1.queue = [] := by
  cases a with
  | emit kind node data =>
    simp only [act, emit, enqueue]
    split <;> simp [empty, lastOf]
  | perform =>
    simp only [act, perform]
    split
    · exact ⟨rfl, empty⟩
    · rename_i e rest pending
      have nothing := serve_partition c.waiting (lastOf 0 (c.queue ++ [e]))
      rw [lastOf_zero] at nothing
      simp only [enqueue, lastOf_zero]
      exact List.append_eq_nil_iff.mp nothing
  | next waiter =>
    simp only [act, take?, empty]
    refine ⟨trivial, ?_⟩
    split
    · rfl
    · exact empty
  | register | unregister => exact ⟨rfl, empty⟩
  | drain => exact ⟨empty, rfl⟩

theorem handedOut_without_room (empty : c.queue = []) (actions : List Act) :
    c.handedOut 0 sessionId actions = [] := by
  induction actions generalizing c with
  | nil => rfl
  | cons a rest ih =>
    obtain ⟨nothing, still⟩ := @act_without_room sessionId _ a empty
    rw [handedOut, nothing, ih still, List.nil_append]

/-- An event that overtakes another is handed out by the next drain, and the other one later. -/
theorem overtaken_later (room : 0 < limit) (issued : ∀ e ∈ c.pending, e.sequence ≤ c.issued)
    (ahead : c.overtakes a = true) :
    ¬ InOrder (c.handedOut limit sessionId [a, .drain, .perform, .drain]) := by
  cases a with
  | emit kind node data =>
    simp only [overtakes, Bool.and_eq_true, Bool.not_eq_true', List.isEmpty_eq_false_iff] at ahead
    obtain ⟨direct, some_pending⟩ := ahead
    obtain ⟨p, rest, pending⟩ := List.exists_cons_of_ne_nil some_pending
    have single : lastOf limit [p] = [p] := by
      have short : [p].length - limit = 0 := Nat.sub_eq_zero_of_le room
      rw [lastOf, short]
      rfl
    have handed : c.handedOut limit sessionId [.emit kind node data, .drain, .perform, .drain] =
        lastOf limit (c.queue ++ [⟨sessionId, c.issued + 1, kind, node, data⟩]) ++ [p] := by
      simp only [handedOut, act, emit, direct, enqueue, drain, perform, pending, single,
        Bool.false_eq_true, if_false, List.nil_append, List.append_nil, serve_partition]
    intro ordered
    rw [handed, InOrder, List.map_append, List.pairwise_append] at ordered
    have later := ordered.2.2 (c.issued + 1)
      (List.mem_map_of_mem (f := (·.sequence)) (mem_lastOf_append room _ _)) p.sequence (by simp)
    have earlier := issued p (by simp [pending])
    omega
  | _ => simp [overtakes] at ahead

/-- Events that wait for the loop have been issued. -/
theorem pending_issued (h : ∀ e ∈ c.pending, e.sequence ≤ c.issued) (actions : List Act) :
    ∀ e ∈ (c.actAll limit sessionId actions).pending,
      e.sequence ≤ (c.actAll limit sessionId actions).issued := by
  induction actions generalizing c with
  | nil => exact h
  | cons a rest ih =>
    refine ih ?_
    intro e he
    rw [issued_act]
    rcases List.mem_append.mp (pending_act a he) with old | new
    · exact Nat.le_add_right_of_le (h e old)
    · rw [sequence_fresh new]
      exact Nat.add_le_add_left (List.length_pos_of_mem new) _

end

/-- Events are handed out in the order of their numbers exactly in the runs in which none is overtaken,
unless the queue has no room for any. -/
theorem handsOutInOrder_iff (limit : Nat) (sessionId : String) (actions : List Act) :
    HandsOutInOrder limit sessionId new actions ↔
      limit = 0 ∨ NeverOvertakes limit sessionId new actions := by
  constructor
  · -- Draining, one turn of the loop and draining again shows who has been overtaken.
    intro ordered
    rcases Nat.eq_zero_or_pos limit with none_kept | room
    · exact Or.inl none_kept
    · refine Or.inr ?_
      intro before a after split
      by_contra ahead
      have none_pending : ∀ e ∈ new.pending, e.sequence ≤ new.issued := by simp [new]
      have issued := @pending_issued limit sessionId _ none_pending before
      have shown := ordered (before ++ [a]) after [.drain, .perform, .drain] (by rw [split]; simp)
        (by simp [Act.emits])
      rw [List.append_assoc, handedOut_append, InOrder, List.map_append] at shown
      exact overtaken_later room issued (by simpa using ahead) (List.pairwise_append.mp shown).2.1
  · rintro (rfl | fair) before after later split silent
    · rw [handedOut_without_room rfl]
      exact List.Pairwise.nil
    · have line := inLine_new.actAll ((split ▸ fair).append_silent silent)
      have ordered := line.inOrder
      rw [List.nil_append, InOrder, List.map_append] at ordered
      exact (List.pairwise_append.mp ordered).1

/-- An event is handed to the loop, the listener leaves, and the next event is queued first. -/
theorem late_event_overtakes :
    ¬ InOrder (new.handedOut 200 "s" [.register, .emit "stage" "extract" [], .unregister,
      .emit "reply" "conversation" [], .next 0, .perform, .next 1]) := by
  have handed : (new.handedOut 200 "s" [.register, .emit "stage" "extract" [], .unregister,
      .emit "reply" "conversation" [], .next 0, .perform, .next 1]).map (·.sequence) = [2, 1] := by
    decide
  rw [InOrder, handed]
  decide

end Reckoner.Feed.Channel
