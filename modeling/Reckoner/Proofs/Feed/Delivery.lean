import Reckoner.Proofs.Feed.Waits
import Mathlib.Data.List.Perm.Basic
import Mathlib.Algebra.Order.Group.Multiset
import Mathlib.Tactic.Abel

namespace Reckoner.Feed

theorem Channel.overflow_append_singleton {limit : Nat} {queue : List Event}
    (fits : queue.length ≤ limit) (e : Event) :
    overflow limit (queue ++ [e]) = if queue.length = limit then (queue ++ [e]).take 1 else [] := by
  rw [overflow, List.length_append, List.length_singleton]
  split
  · rename_i full
    rw [full, Nat.add_sub_cancel_left]
  · have short : queue.length + 1 - limit = 0 := by omega
    rw [short, List.take_zero]

namespace Desk

/-- What is found at each operation of a run, in order. -/
def gather {α : Type} (found : Desk → Operation → List α) (d : Desk) : List Operation → List α
  | [] => []
  | o :: rest => found d o ++ gather found (d.step o).1 rest

/-- The event that an operation emits. -/
def emitted (d : Desk) (o : Operation) : List Event :=
  match o, (d.step o).2 with
  | .emit .., .event e => [e]
  | _, _ => []

/-- The events that an operation hands out: as its answer, or to waits. -/
def handed (d : Desk) (o : Operation) : List Event :=
  match o, (d.step o).2 with
  | .next _, .event e => [e]
  | .drain _, .events es => es
  | _, _ => awaited d.outcomes (d.step o).1.outcomes

/-- The oldest event of a queue that is full when another is emitted. -/
def dropped (limit : Nat) (d : Desk) (o : Operation) : List Event :=
  match o with
  | .emit s .. => if (d.queue s).length = limit then (d.queue s ++ emitted d o).take 1 else []
  | _ => []

/-- The events that are in a queue when it is cleared. -/
def discarded (d : Desk) : Operation → List Event
  | .clear s => d.queue s
  | _ => []

/-- How many events are said to be discarded for a session. -/
def counts (s : String) (d : Desk) (o : Operation) : List Nat :=
  match o, (d.step o).2 with
  | .clear other, .count n => if other = s then [n] else []
  | _, _ => []

def ofSession (s : String) (events : List Event) : List Event :=
  events.filter (·.sessionId == s)

section

variable {limit : Nat} {sessions : List String} {d d' : Desk}

@[simp] theorem ofSession_append (s : String) (a b : List Event) :
    ofSession s (a ++ b) = ofSession s a ++ ofSession s b :=
  List.filter_append ..

@[simp] theorem ofSession_nil (s : String) : ofSession s [] = [] := rfl

theorem ofSession_own {s : String} {events : List Event} (own : ∀ e ∈ events, e.sessionId = s) :
    ofSession s events = events := by
  apply List.filter_eq_self.mpr
  intro e he
  simp [own e he]

theorem ofSession_other {s t : String} {events : List Event} (own : ∀ e ∈ events, e.sessionId = t)
    (other : s ≠ t) : ofSession s events = [] := by
  apply List.filter_eq_nil_iff.mpr
  intro e he
  simpa [own e he] using Ne.symm other

/-- Where events of one session move, the law holds for all sessions. -/
theorem flow_of_own {t : String} {came dropped handed discarded left : List Event}
    (own : ∀ e ∈ d.queue t ++ came, e.sessionId = t)
    (law : d.queue t ++ came = dropped ++ handed ++ discarded ++ left)
    (queues : d'.queue = Function.update d.queue t left) (s : String) :
    d.queue s ++ ofSession s came = ofSession s dropped ++ ofSession s handed ++
      ofSession s discarded ++ d'.queue s := by
  have all := law ▸ own
  simp only [List.mem_append] at own all
  rw [queues]
  by_cases same : s = t
  · subst same
    rw [Function.update_self, ofSession_own fun e he => own e (Or.inr he), law,
      ofSession_own fun e he => all e (Or.inl (Or.inl (Or.inl he))),
      ofSession_own fun e he => all e (Or.inl (Or.inl (Or.inr he))),
      ofSession_own fun e he => all e (Or.inl (Or.inr he))]
  · rw [Function.update_of_ne same, ofSession_other (fun e he => own e (Or.inr he)) same,
      ofSession_other (fun e he => all e (Or.inl (Or.inl (Or.inl he)))) same,
      ofSession_other (fun e he => all e (Or.inl (Or.inl (Or.inr he)))) same,
      ofSession_other (fun e he => all e (Or.inl (Or.inr he))) same]
    simp

theorem queue_of_update {s : String} {c : Channel}
    (channels : d'.channel = Function.update d.channel s c) :
    d'.queue = Function.update d.queue s c.queue := by
  funext x
  rw [queue, channels, Function.update_apply, Function.update_apply]
  split <;> rfl

/-- Where nothing comes in, a queue is what leaves it and what is left. -/
theorem Settled.flow_out (h : Settled limit sessions d) {t : String} {c : Channel}
    {handed discarded : List Event} (channels : d'.channel = Function.update d.channel t c)
    (law : d.queue t = handed ++ discarded ++ c.queue) (s : String) :
    d.queue s ++ ofSession s [] = ofSession s [] ++ ofSession s handed ++
      ofSession s discarded ++ d'.queue s := by
  refine flow_of_own ?_ ?_ (queue_of_update channels) s
  · rw [List.append_nil]
    exact h.own t
  · rw [List.append_nil, List.nil_append]
    exact law

/-- What is in a queue and what comes in is what leaves it, in this order, and what is left. -/
theorem Settled.flow (h : Settled limit sessions d) (o : Operation) (s : String) :
    d.queue s ++ ofSession s (emitted d o) =
      ofSession s (dropped limit d o) ++ ofSession s (handed d o) ++
        ofSession s (discarded d o) ++ (d.step o).1.queue s := by
  have c := change_step h.keeps h.idle o
  rcases stepped : d.step o with ⟨d', a⟩
  rw [stepped] at c
  simp only [dropped, emitted, handed, stepped]
  cases c with
  | @posted t _ _ _ _ e event channels outcomes =>
    have law := Channel.overflow_append_lastOf limit (d.queue t ++ [e])
    rw [Channel.overflow_append_singleton (h.fits t)] at law
    have pending : ∀ w ∈ (d.channel t).woken, d.outcomes[w]? = some .pending := by
      intro w hw
      exact ((h.waiters t w).mp (mem_waiting_of_woken hw)).2
    refine flow_of_own ?_ ?_ (queue_of_update channels) s
    · intro x hx
      rcases List.mem_append.mp hx with old | new
      · exact h.own t x old
      · rw [List.mem_singleton.mp new, event]
        rfl
    · rw [outcomes, awaited_resolve _ (h.woken_ordered t) pending]
      simp only [discarded, Channel.posted, List.append_nil, List.append_assoc,
        List.take_append_drop]
      exact law.symm
  | drained channels => exact h.flow_out channels (by simp [discarded]) s
  | cleared channels outcomes =>
    rw [outcomes, awaited_self]
    exact h.flow_out channels (by simp [discarded]) s
  | opened channels outcomes | closed channels outcomes =>
    rw [outcomes, awaited_self]
    exact h.flow_out channels rfl s
  | taken found channels => exact h.flow_out channels (by simp [discarded, found]) s
  | served found channels outcomes =>
    rw [outcomes, awaited_append]
    exact h.flow_out channels (by simp [discarded, found, news]) s
  | joined channels outcomes =>
    rw [outcomes, awaited_append]
    exact h.flow_out channels rfl s
  | missed channels outcomes | kept channels outcomes =>
    rw [outcomes, awaited_self, queue, queue, channels]
    simp [discarded]
  | failed channels outcomes =>
    rw [outcomes, awaited_append, queue, queue, channels]
    simp [discarded, news]
  | cancelled _ channels outcomes =>
    rw [outcomes, awaited_set_cancelled, queue, queue, channels]
    simp [discarded]
  | looked =>
    rw [awaited_self]
    simp [discarded]

/-- An operation numbers the events that it emits, beginning after the last number issued. -/
theorem Settled.numbers (h : Settled limit sessions d) (o : Operation) (s : String) :
    ((d.step o).1.channel s).issued =
        (d.channel s).issued + (ofSession s (emitted d o)).length ∧
      (ofSession s (emitted d o)).map (·.sequence) =
        List.range' ((d.channel s).issued + 1) (ofSession s (emitted d o)).length := by
  have c := change_step h.keeps h.idle o
  rcases stepped : d.step o with ⟨d', a⟩
  rw [stepped] at c
  simp only [emitted, stepped]
  cases c with
  | @posted t _ _ _ _ e event channels =>
    rw [channels, Function.update_apply]
    subst event
    by_cases same : s = t
    · subst same
      simp [Channel.posted, Channel.upcoming, ofSession]
    · simp [Channel.upcoming, ofSession, same, Ne.symm same]
  | drained channels | cleared channels | opened channels | closed channels | taken _ channels
  | served _ channels | joined channels =>
    rw [channels, Function.update_apply]
    split
    · rename_i same
      subst same
      simp [Channel.register, Channel.unregister]
    · simp
  | missed channels | failed channels | kept channels =>
    rw [channels]
    simp
  | cancelled _ channels =>
    rw [channels]
    simp
  | looked => simp

/-- The count that a clear returns is that of the events that it discards. -/
theorem Settled.counts_step (h : Settled limit sessions d) (o : Operation) (s : String) :
    (counts s d o).sum = (ofSession s (discarded d o)).length := by
  have c := change_step h.keeps h.idle o
  rcases stepped : d.step o with ⟨d', a⟩
  rw [stepped] at c
  simp only [counts, stepped]
  cases c with
  | @cleared t =>
    by_cases same : t = s
    · subst same
      simp [discarded, ofSession_own (h.own t)]
    · simp [discarded, same, ofSession_other (h.own t) (Ne.symm same)]
  | _ => simp [discarded]

theorem Settled.run_numbers (h : Settled limit sessions d) (operations : List Operation)
    (s : String) :
    (ofSession s (gather emitted d operations)).map (·.sequence) =
      List.range' ((d.channel s).issued + 1)
        (ofSession s (gather emitted d operations)).length := by
  induction operations generalizing sessions d with
  | nil => rfl
  | cons o rest ih =>
    obtain ⟨issued, first⟩ := h.numbers o s
    have later := ih (h.step o)
    rw [issued] at later
    rw [gather, ofSession_append, List.map_append, List.length_append, first, later,
      Nat.add_right_comm, List.range'_append_1]

theorem Settled.run_counts (h : Settled limit sessions d) (operations : List Operation)
    (s : String) :
    (gather (counts s) d operations).sum =
      (ofSession s (gather discarded d operations)).length := by
  induction operations generalizing sessions d with
  | nil => rfl
  | cons o rest ih =>
    rw [gather, gather, List.sum_append, ofSession_append, List.length_append, h.counts_step,
      ih (h.step o)]

/-- Along a run, what has left a queue came before what is in it; those that were handed out are
among them in their order, and the others were dropped or discarded. -/
theorem Settled.run_flow (h : Settled limit sessions d) (operations : List Operation) (s : String) :
    ∃ past, d.queue s ++ ofSession s (gather emitted d operations) =
        past ++ (d.run operations).queue s ∧
      (ofSession s (gather handed d operations)).Sublist past ∧
      past.Perm (ofSession s (gather handed d operations) ++
        ofSession s (gather (dropped limit) d operations) ++
        ofSession s (gather discarded d operations)) := by
  induction operations generalizing sessions d with
  | nil => exact ⟨[], by simp [gather, Desk.run]⟩
  | cons o rest ih =>
    obtain ⟨past, later, among, split⟩ := ih (h.step o)
    refine ⟨ofSession s (dropped limit d o) ++ ofSession s (handed d o) ++
      ofSession s (discarded d o) ++ past, ?_, ?_, ?_⟩
    · rw [gather, ofSession_append, ← List.append_assoc, h.flow o s, List.append_assoc, later,
        ← List.append_assoc]
      rfl
    · rw [gather, ofSession_append]
      refine List.Sublist.append ?_ among
      exact (List.sublist_append_right _ _).trans (List.sublist_append_left _ _)
    · simp only [gather, ofSession_append]
      rw [← Multiset.coe_eq_coe] at split ⊢
      simp only [← Multiset.coe_add] at split ⊢
      rw [split]
      abel

/-- How an event of a session serves the waits for it. All that have not ended are woken if somebody
listens, and none if not; the longest waiting get the oldest events of the queue, one each in order, and
whoever is woken and finds nothing left is told so. -/
structure Serves (limit : Nat) (begun : List String) (d d' : Desk) (s : String) (e : Event)
    (woken : List Nat) : Prop where
  ordered : woken.Pairwise (· < ·)
  waiting : ∀ w, w ∈ woken ↔ ((d.channel s).registered && (d.channel s).listening) = true ∧
    begun[w]? = some s ∧ d.outcomes[w]? = some .pending
  told : ∀ (i w : Nat), woken[i]? = some w →
    d'.outcomes[w]? = some (verdict (Channel.lastOf limit (d.queue s ++ [e]))[i]?)
  others : ∀ w, w ∉ woken → d'.outcomes[w]? = d.outcomes[w]?
  left : d'.queue s = (Channel.lastOf limit (d.queue s ++ [e])).drop woken.length

theorem Settled.serves (h : Settled limit sessions d) (s kind node : String)
    (data : Json.Members) :
    ∃ e woken, emitted d (.emit s kind node data) = [e] ∧
      Serves limit sessions d (d.step (.emit s kind node data)).1 s e woken := by
  have c := change_step h.keeps h.idle (.emit s kind node data)
  rcases stepped : d.step (.emit s kind node data) with ⟨d', a⟩
  rw [stepped] at c
  simp only [emitted, stepped]
  cases c with
  | posted event channels outcomes =>
    refine ⟨_, (d.channel s).woken, rfl, ?_⟩
    exact
      { ordered := h.woken_ordered s
        waiting := by
          intro w
          rw [← h.waiters, Channel.woken]
          split <;> simp_all
        told := by
          intro i w hw
          have there := h.lt_of_waiting (mem_waiting_of_woken (List.mem_of_getElem? hw))
          rw [outcomes]
          exact getElem?_resolve_serve ((h.woken_ordered s).imp Nat.ne_of_lt) hw there
        others := by
          intro w hw
          rw [outcomes, getElem?_resolve_serve_of_not_mem hw]
        left := by
          rw [queue, channels, Function.update_self]
          rfl }

/-- The feed is a bounded first-in first-out line for each session, in every run. The queue holds the last
events issued, whose numbers are consecutive, up to the limit. Those handed out have increasing numbers.
Every other event was dropped as the oldest of a full queue, or discarded and counted. -/
theorem run_bounded_fifo (limit : Nat) (operations : List Operation) (s : String) :
    let d := (new limit).run operations
    let issued := ofSession s (gather emitted (new limit) operations)
    let out := ofSession s (gather handed (new limit) operations)
    let lost := ofSession s (gather (dropped limit) (new limit) operations)
    let gone := ofSession s (gather discarded (new limit) operations)
    issued.map (·.sequence) = List.range' 1 issued.length ∧
      (d.queue s).length ≤ limit ∧
      d.queue s <:+ issued ∧
      (out.map (·.sequence)).Pairwise (· < ·) ∧
      issued.Perm (out ++ lost ++ gone ++ d.queue s) ∧
      (gather (counts s) (new limit) operations).sum = gone.length ∧
      ∀ kind node data, ∃ e woken, emitted d (.emit s kind node data) = [e] ∧
        Serves limit (begun operations) d (d.step (.emit s kind node data)).1 s e woken := by
  intro d issued out lost gone
  have fresh := settled_new limit
  have settled : Settled limit (begun operations) d := by simpa using fresh.run operations
  have empty : (new limit).queue s = [] := by rw [queue, channel_new]; rfl
  have none_issued : ((new limit).channel s).issued = 0 := by rw [channel_new]; rfl
  have numbered := fresh.run_numbers operations s
  rw [none_issued] at numbered
  obtain ⟨past, parts, among, split⟩ := fresh.run_flow operations s
  rw [empty, List.nil_append] at parts
  have increasing : (issued.map (·.sequence)).Pairwise (· < ·) := by
    rw [numbered]
    exact List.pairwise_lt_range'
  have within : out.Sublist issued := by
    rw [show issued = _ from parts]
    exact among.trans (List.sublist_append_left _ _)
  refine ⟨numbered, settled.fits s, ⟨past, parts.symm⟩, ?_, ?_, fresh.run_counts operations s,
    settled.serves s⟩
  · exact increasing.sublist (within.map _)
  · rw [show issued = _ from parts]
    exact split.append_right _

end

end Desk

end Reckoner.Feed
