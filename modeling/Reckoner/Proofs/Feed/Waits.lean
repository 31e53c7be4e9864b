import Reckoner.Proofs.Feed.Settling
import Mathlib.Data.List.Sort
import Mathlib.Data.List.Range

namespace Reckoner.Feed

namespace Channel

theorem getElem?_serve (waiters : List Nat) (queue : List Event) (i : Nat) :
    (serve waiters queue).1[i]? = waiters[i]?.map fun w => (w, queue[i]?) := by
  induction waiters generalizing queue i with
  | nil => simp [serve]
  | cons w rest ih =>
    cases queue with
    | nil => cases i <;> simp [serve, ih]
    | cons e queue => cases i <;> simp [serve, ih]

end Channel

namespace Desk

/-- What a wait that is woken comes to. -/
def verdict : Option Event → Outcome
  | some e => .event e
  | none => .failed .nothingQueued

/-- The event that a wait has come to since it was last looked at. -/
def news : Option Outcome → Option Outcome → Option Event
  | none, some (.event e) => some e
  | some .pending, some (.event e) => some e
  | _, _ => none

/-- What waits have come to, in the order in which they began. -/
def awaited (before after : List Outcome) : List Event :=
  (List.range after.length).filterMap fun w => news before[w]? after[w]?

/-- Operations carried out one after the other. -/
def run (d : Desk) : List Operation → Desk
  | [] => d
  | o :: rest => run (d.step o).1 rest

/-- The session for which an operation begins a wait. -/
def awaits? : Operation → Option String
  | .wait s _ => some s
  | _ => none

/-- The sessions of all waits, in the order in which they began. -/
def begun (operations : List Operation) : List String :=
  operations.filterMap awaits?

section Outcomes

variable {outcomes : List Outcome}

theorem resolve_cons (p : Nat × Option Event) (rest : List (Nat × Option Event)) :
    resolve outcomes (p :: rest) = resolve (outcomes.set p.1 (verdict p.2)) rest := by
  obtain ⟨w, _ | e⟩ := p <;> rfl

theorem length_resolve (woken : List (Nat × Option Event)) :
    (resolve outcomes woken).length = outcomes.length := by
  induction woken generalizing outcomes with
  | nil => rfl
  | cons p rest ih => rw [resolve_cons, ih, List.length_set]

theorem getElem?_resolve_of_not_mem {woken : List (Nat × Option Event)} {w : Nat}
    (h : w ∉ woken.map (·.1)) : (resolve outcomes woken)[w]? = outcomes[w]? := by
  induction woken generalizing outcomes with
  | nil => rfl
  | cons p rest ih =>
    rw [List.map_cons, List.mem_cons, not_or] at h
    rw [resolve_cons, ih h.2, List.getElem?_set_ne (Ne.symm h.1)]

theorem getElem?_resolve {woken : List (Nat × Option Event)} (apart : (woken.map (·.1)).Nodup)
    {p : Nat × Option Event} (hp : p ∈ woken) (there : p.1 < outcomes.length) :
    (resolve outcomes woken)[p.1]? = some (verdict p.2) := by
  induction woken generalizing outcomes with
  | nil => simp at hp
  | cons q rest ih =>
    rw [List.map_cons, List.nodup_cons] at apart
    rw [resolve_cons]
    rcases List.mem_cons.mp hp with rfl | hp
    · rw [getElem?_resolve_of_not_mem apart.1, List.getElem?_set_self there]
    · exact ih apart.2 hp (by rwa [List.length_set])

/-- Each wait in turn gets the next event of the queue, or none. -/
theorem getElem?_resolve_serve {waiters : List Nat} {queue : List Event} (apart : waiters.Nodup)
    {i w : Nat} (hw : waiters[i]? = some w) (there : w < outcomes.length) :
    (resolve outcomes (Channel.serve waiters queue).1)[w]? = some (verdict queue[i]?) := by
  have served : (w, queue[i]?) ∈ (Channel.serve waiters queue).1 := by
    apply List.mem_of_getElem? (i := i)
    rw [Channel.getElem?_serve, hw]
    rfl
  exact getElem?_resolve (by rwa [Channel.serve_fst_map]) served there

theorem getElem?_resolve_serve_of_not_mem {waiters : List Nat} {queue : List Event} {w : Nat}
    (h : w ∉ waiters) :
    (resolve outcomes (Channel.serve waiters queue).1)[w]? = outcomes[w]? :=
  getElem?_resolve_of_not_mem (by rwa [Channel.serve_fst_map])

theorem news_self (o : Option Outcome) : news o o = none := by
  rcases o with _ | (_ | _ | _ | _) <;> rfl

theorem news_pending (o : Option Event) : news (some .pending) (some (verdict o)) = o := by
  cases o <;> rfl

theorem awaited_self (outcomes : List Outcome) : awaited outcomes outcomes = [] := by
  rw [awaited, List.filterMap_eq_nil_iff]
  intro w _
  exact news_self _

theorem awaited_append (outcomes : List Outcome) (o : Outcome) :
    awaited outcomes (outcomes ++ [o]) = (news none (some o)).toList := by
  have old : ∀ w ∈ List.range outcomes.length,
      news outcomes[w]? (outcomes ++ [o])[w]? = none := by
    intro w hw
    rw [List.getElem?_append_left (List.mem_range.mp hw), news_self]
  rw [awaited, List.length_append, List.length_singleton, List.range_succ, List.filterMap_append,
    List.filterMap_eq_nil_iff.mpr old, List.nil_append]
  cases h : news none (some o) <;> simp [h]

theorem awaited_set_cancelled (outcomes : List Outcome) (w : Nat) :
    awaited outcomes (outcomes.set w .cancelled) = [] := by
  rw [awaited, List.filterMap_eq_nil_iff]
  intro v hv
  rw [List.length_set] at hv
  by_cases same : w = v
  · subst same
    rw [List.getElem?_set_self (List.mem_range.mp hv)]
    rcases outcomes[w]? with _ | (_ | _ | _ | _) <;> rfl
  · rw [List.getElem?_set_ne same, news_self]

/-- What each of some waits finds in its turn is the front of the queue. -/
theorem filterMap_eq_take {waiters : List Nat} {queue : List Event} {found : Nat → Option Event}
    (h : ∀ (i w : Nat), waiters[i]? = some w → found w = queue[i]?) :
    waiters.filterMap found = queue.take waiters.length := by
  induction waiters generalizing queue with
  | nil => simp
  | cons w rest ih =>
    have first := h 0 w rfl
    have later : ∀ (i v : Nat), rest[i]? = some v → found v = queue.tail[i]? := by
      intro i v hv
      rw [List.getElem?_tail]
      exact h (i + 1) v hv
    rw [List.length_cons]
    cases queue with
    | nil => simpa [first] using ih later
    | cons e queue => simpa [first] using ih later

/-- Increasing numbers below a bound are picked out of all of them in their order. -/
theorem filter_range {waiters : List Nat} {n : Nat} (ordered : waiters.Pairwise (· < ·))
    (there : ∀ w ∈ waiters, w < n) : (List.range n).filter (· ∈ waiters) = waiters := by
  apply List.Perm.eq_of_pairwise' (r := (· < ·))
  · exact List.pairwise_lt_range.filter _
  · exact ordered
  · rw [List.perm_ext_iff_of_nodup (List.nodup_range.filter _) (ordered.imp Nat.ne_of_lt)]
    intro w
    simpa using there w

/-- The waits that an event wakes come to the front of the queue. -/
theorem awaited_resolve {waiters : List Nat} (queue : List Event)
    (ordered : waiters.Pairwise (· < ·)) (pending : ∀ w ∈ waiters, outcomes[w]? = some .pending) :
    awaited outcomes (resolve outcomes (Channel.serve waiters queue).1) =
      queue.take waiters.length := by
  have there : ∀ w ∈ waiters, w < outcomes.length := by
    intro w hw
    exact (List.getElem?_eq_some_iff.mp (pending w hw)).1
  have told : ∀ (i w : Nat), waiters[i]? = some w → news outcomes[w]?
      (resolve outcomes (Channel.serve waiters queue).1)[w]? = queue[i]? := by
    intro i w hw
    have mem := List.mem_of_getElem? hw
    rw [getElem?_resolve_serve (ordered.imp Nat.ne_of_lt) hw (there w mem), pending w mem,
      news_pending]
  -- Whoever is not woken has no news, so only the waiters count, in the order of their numbers.
  have silent : ∀ w, w ∉ waiters → news outcomes[w]?
      (resolve outcomes (Channel.serve waiters queue).1)[w]? = none := by
    intro w hw
    rw [getElem?_resolve_serve_of_not_mem hw, news_self]
  have only := filter_range ordered there
  rw [awaited, length_resolve, ← filterMap_eq_take told]
  nth_rewrite 3 [← only]
  rw [List.filterMap_filter]
  congr 1
  funext w
  by_cases hw : w ∈ waiters
  · simp [hw]
  · simp [hw, silent w hw]

end Outcomes

/-- Nothing is pending, the queues are within the limit and hold events of their own sessions, and those
who wait on a channel are the waits for its session that have not ended. -/
structure Settled (limit : Nat) (begun : List String) (d : Desk) : Prop where
  keeps : Keeps limit d
  idle : ∀ s, (d.channel s).pending = []
  fits : ∀ s, (d.queue s).length ≤ limit
  own : ∀ s, ∀ e ∈ d.queue s, e.sessionId = s
  counted : d.outcomes.length = begun.length
  ordered : ∀ s, (d.channel s).waiting.Pairwise (· < ·)
  waiters : ∀ s w, w ∈ (d.channel s).waiting ↔ begun[w]? = some s ∧ d.outcomes[w]? = some .pending

section

variable {limit : Nat} {sessions : List String} {d d' : Desk} {o : Operation} {a : Answer}

theorem channel_new (limit : Nat) (s : String) : (new limit).channel s = Channel.new := by
  have natural : ¬ (limit : Int) < 0 := by omega
  simp [new, natural, channel, Feed.new, Feed.channel, Table.get?, Table.empty]

theorem settled_new (limit : Nat) : Settled limit [] (new limit) where
  keeps := keeps_new limit
  idle s := by rw [channel_new]; rfl
  fits s := by rw [queue, channel_new]; exact Nat.zero_le _
  own s e h := by
    rw [queue, channel_new] at h
    simp [Channel.new] at h
  counted := rfl
  ordered s := by rw [channel_new]; exact List.Pairwise.nil
  waiters s w := by simp [channel_new, Channel.new]

theorem mem_waiting_of_woken {c : Channel} {w : Nat} (hw : w ∈ c.woken) : w ∈ c.waiting := by
  unfold Channel.woken at hw
  split at hw
  · exact hw
  · simp at hw

/-- Who is woken waits no longer. -/
theorem mem_waiting_posted (limit : Nat) (c : Channel) (e : Event) (w : Nat) :
    w ∈ (c.posted limit e).waiting ↔ w ∈ c.waiting ∧ w ∉ c.woken := by
  unfold Channel.posted Channel.woken
  split <;> simp

theorem filled_sublist (limit : Nat) (c : Channel) (e : Event) :
    (c.posted limit e).queue.Sublist (c.queue ++ [e]) :=
  (List.drop_sublist _ _).trans (List.drop_sublist _ _)

/-- The number of a new wait is beyond all that wait. -/
theorem Settled.lt_of_waiting (h : Settled limit sessions d) {s : String} {w : Nat}
    (hw : w ∈ (d.channel s).waiting) : w < d.outcomes.length :=
  (List.getElem?_eq_some_iff.mp ((h.waiters s w).mp hw).2).1

theorem Settled.woken_ordered (h : Settled limit sessions d) (s : String) :
    (d.channel s).woken.Pairwise (· < ·) := by
  unfold Channel.woken
  split
  · exact h.ordered s
  · exact List.Pairwise.nil

theorem Settled.idle_change (h : Settled limit sessions d) (c : Change limit d o d' a)
    (x : String) : (d'.channel x).pending = [] := by
  have kept := h.idle
  cases c with
  | posted _ channels | drained channels | cleared channels | opened channels | closed channels
  | taken _ channels | served _ channels | joined channels =>
    rw [channels, Function.update_apply]
    split
    · exact kept _
    · exact kept x
  | missed channels | failed channels | kept channels =>
    rw [channels]
    exact kept x
  | cancelled _ channels =>
    rw [channels]
    exact kept x
  | looked => exact kept x

/-- An operation puts nothing into a queue but the event that it emits. -/
theorem queue_change (c : Change limit d o d' a) (x : String) :
    (d'.queue x).Sublist (d.queue x) ∨
      ∃ kind node data, o = .emit x kind node data ∧ d'.queue x =
        ((d.channel x).posted limit ((d.channel x).upcoming x kind node data)).queue := by
  cases c with
  | @posted s kind node data _ e event channels =>
    rw [queue, channels, Function.update_apply]
    split
    · rename_i same
      subst same
      exact Or.inr ⟨kind, node, data, rfl, by rw [event]⟩
    · exact Or.inl (List.Sublist.refl _)
  | drained channels | cleared channels =>
    rw [queue, channels, Function.update_apply]
    split
    · exact Or.inl (List.nil_sublist _)
    · exact Or.inl (List.Sublist.refl _)
  | @opened s _ channels | @closed s _ channels | @joined s _ _ channels =>
    rw [queue, channels, Function.update_apply]
    split
    · rename_i same
      subst same
      exact Or.inl (List.Sublist.refl _)
    · exact Or.inl (List.Sublist.refl _)
  | @taken s _ e rest found channels | @served s _ _ e rest found channels =>
    rw [queue, channels, Function.update_apply]
    split
    · rename_i same
      subst same
      rw [found]
      exact Or.inl (List.sublist_cons_self e rest)
    · exact Or.inl (List.Sublist.refl _)
  | missed channels | failed channels | kept channels =>
    rw [queue, channels]
    exact Or.inl (List.Sublist.refl _)
  | cancelled _ channels =>
    rw [queue, channels]
    exact Or.inl (List.Sublist.refl _)
  | looked => exact Or.inl (List.Sublist.refl _)

theorem Settled.fits_change (h : Settled limit sessions d) (c : Change limit d o d' a)
    (x : String) : (d'.queue x).length ≤ limit := by
  rcases queue_change c x with fewer | ⟨kind, node, data, -, same⟩
  · exact Nat.le_trans fewer.length_le (h.fits x)
  · rw [same]
    exact Nat.le_trans (List.drop_sublist _ _).length_le (Channel.length_lastOf limit _)

theorem Settled.own_change (h : Settled limit sessions d) (c : Change limit d o d' a) (x : String) :
    ∀ e ∈ d'.queue x, e.sessionId = x := by
  intro e he
  rcases queue_change c x with fewer | ⟨kind, node, data, -, same⟩
  · exact h.own x e (fewer.subset he)
  · rw [same] at he
    rcases List.mem_append.mp ((filled_sublist limit _ _).subset he) with old | new
    · exact h.own x e old
    · rw [List.mem_singleton.mp new]
      rfl

theorem Settled.counted_change (h : Settled limit sessions d) (c : Change limit d o d' a) :
    d'.outcomes.length = (sessions ++ (awaits? o).toList).length := by
  have kept := h.counted
  cases c with
  | posted _ _ outcomes => simp [outcomes, length_resolve, kept, awaits?]
  | drained _ outcomes | cleared _ outcomes | opened _ outcomes | closed _ outcomes
  | taken _ _ outcomes | missed _ outcomes | kept _ outcomes =>
    simp [outcomes, kept, awaits?]
  | served _ _ outcomes | joined _ outcomes | failed _ outcomes =>
    simp [outcomes, kept, awaits?]
  | cancelled _ _ outcomes => simp [outcomes, kept, awaits?]
  | looked => simp [kept, awaits?]

theorem Settled.ordered_change (h : Settled limit sessions d) (c : Change limit d o d' a)
    (x : String) : (d'.channel x).waiting.Pairwise (· < ·) := by
  have kept := h.ordered
  cases c with
  | posted _ channels =>
    rw [channels, Function.update_apply]
    split
    · exact (kept _).sublist (List.drop_sublist _ _)
    · exact kept x
  | drained channels | cleared channels | opened channels | closed channels | taken _ channels
  | served _ channels =>
    rw [channels, Function.update_apply]
    split
    · exact kept _
    · exact kept x
  | @joined s _ _ channels =>
    rw [channels, Function.update_apply]
    split
    · refine List.pairwise_append.mpr ⟨kept s, List.pairwise_singleton _ _, ?_⟩
      intro w hw v hv
      rw [List.mem_singleton.mp hv]
      exact h.lt_of_waiting hw
    · exact kept x
  | missed channels | failed channels | kept channels =>
    rw [channels]
    exact kept x
  | cancelled _ channels =>
    rw [channels]
    exact (kept x).filter _
  | looked => exact kept x

/-- A wait is still pending after an event if it was before and is not woken. -/
theorem Settled.pending_resolve (h : Settled limit sessions d) (s : String) (filled : List Event)
    (w : Nat) :
    (resolve d.outcomes (Channel.serve (d.channel s).woken filled).1)[w]? = some .pending ↔
      d.outcomes[w]? = some .pending ∧ w ∉ (d.channel s).woken := by
  by_cases hw : w ∈ (d.channel s).woken
  · obtain ⟨i, at_⟩ := List.getElem?_of_mem hw
    have there := h.lt_of_waiting (mem_waiting_of_woken hw)
    rw [getElem?_resolve_serve ((h.woken_ordered s).imp Nat.ne_of_lt) at_ there]
    cases filled[i]? <;> simp [verdict, hw]
  · rw [getElem?_resolve_serve_of_not_mem hw]
    simp [hw]

/-- A wait that has just begun changes nothing for the others. -/
theorem getElem?_begun (h : d.outcomes.length = sessions.length) (s x : String) (new : Outcome)
    (w : Nat) :
    ((sessions ++ [s])[w]? = some x ∧ (d.outcomes ++ [new])[w]? = some .pending) ↔
      (sessions[w]? = some x ∧ d.outcomes[w]? = some .pending) ∨
        (w = d.outcomes.length ∧ s = x ∧ new = .pending) := by
  rcases Nat.lt_trichotomy w d.outcomes.length with less | same | more
  · rw [List.getElem?_append_left (h ▸ less), List.getElem?_append_left less]
    simp [Nat.ne_of_lt less]
  · subst same
    simp [h]
  · have past : sessions.length + 1 ≤ w := by omega
    have absent : (sessions ++ [s])[w]? = none := by simpa using past
    have before : sessions[w]? = none := by
      rw [List.getElem?_eq_none_iff]
      omega
    simp [absent, before, Nat.ne_of_gt more]

theorem Settled.waiters_change (h : Settled limit sessions d) (c : Change limit d o d' a)
    (x : String) (w : Nat) :
    w ∈ (d'.channel x).waiting ↔
      (sessions ++ (awaits? o).toList)[w]? = some x ∧ d'.outcomes[w]? = some .pending := by
  have kept := h.waiters x w
  cases c with
  | @posted s _ _ _ _ e _ channels outcomes =>
    simp only [awaits?, Option.toList_none, List.append_nil]
    rw [outcomes, h.pending_resolve, channels, Function.update_apply]
    split
    · rename_i same
      subst same
      rw [mem_waiting_posted, kept, and_assoc]
    · rename_i other
      -- Those who are woken wait for the other session.
      have asleep : sessions[w]? = some x → w ∉ (d.channel s).woken := by
        intro mine woken
        have theirs := ((h.waiters s w).mp (mem_waiting_of_woken woken)).1
        exact other (Option.some.inj (mine.symm.trans theirs))
      rw [kept]
      exact ⟨fun k => ⟨k.1, k.2, asleep k.1⟩, fun k => ⟨k.1, k.2.1⟩⟩
  | drained channels outcomes | cleared channels outcomes | opened channels outcomes
  | closed channels outcomes | taken _ channels outcomes =>
    simp only [awaits?, Option.toList_none, List.append_nil]
    rw [outcomes, ← kept, channels, Function.update_apply]
    split
    · rename_i same
      subst same
      exact Iff.rfl
    · exact Iff.rfl
  | missed channels outcomes | kept channels outcomes =>
    simp only [awaits?, Option.toList_none, List.append_nil]
    rw [outcomes, channels, kept]
  | @served s _ _ _ _ _ channels outcomes =>
    rw [awaits?, Option.toList_some, outcomes, getElem?_begun h.counted, ← kept, channels,
      Function.update_apply]
    split
    · rename_i same
      rw [same]
      simp
    · simp
  | @joined s _ _ channels outcomes =>
    rw [awaits?, Option.toList_some, outcomes, getElem?_begun h.counted, ← kept, channels,
      Function.update_apply]
    split
    · rename_i same
      rw [same]
      simp
    · rename_i other
      simp [Ne.symm other]
  | failed channels outcomes =>
    rw [awaits?, Option.toList_some, outcomes, getElem?_begun h.counted, ← kept, channels]
    simp
  | @cancelled _ _ v pending channels outcomes =>
    simp only [awaits?, Option.toList_none, List.append_nil]
    rw [outcomes, channels, List.mem_filter, kept]
    by_cases same : v = w
    · subst same
      have there := (List.getElem?_eq_some_iff.mp pending).1
      simp [List.getElem?_set_self there]
    · simp [List.getElem?_set_ne same, Ne.symm same]
  | looked => simpa only [awaits?, Option.toList_none, List.append_nil] using kept

theorem Settled.step (h : Settled limit sessions d) (o : Operation) :
    Settled limit (sessions ++ (awaits? o).toList) (d.step o).1 :=
  have c := change_step h.keeps h.idle o
  { keeps := h.keeps.step o
    idle := h.idle_change c
    fits := h.fits_change c
    own := h.own_change c
    counted := h.counted_change c
    ordered := h.ordered_change c
    waiters := h.waiters_change c }

theorem Settled.run (h : Settled limit sessions d) (operations : List Operation) :
    Settled limit (sessions ++ begun operations) (d.run operations) := by
  induction operations generalizing sessions d with
  | nil => simpa [begun, Desk.run] using h
  | cons o rest ih =>
    have settled := ih (h.step o)
    rw [List.append_assoc] at settled
    have sessions_cons : begun (o :: rest) = (awaits? o).toList ++ begun rest := by
      cases hs : awaits? o <;> simp [begun, hs]
    rw [sessions_cons]
    exact settled

end

end Desk

end Reckoner.Feed
