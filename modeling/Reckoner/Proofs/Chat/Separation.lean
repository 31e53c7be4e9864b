import Reckoner.Proofs.Chat.Occurrences
import Reckoner.Proofs.Feed.Overtaking

namespace Reckoner

namespace Feed.Channel

/-- None of the events that calls emit is handed out once the queue has been emptied behind them. -/
def EmptiedForGood (limit : Nat) (sessionId : String) (calls : List Call) : Prop :=
  ∀ later, ∀ e ∈ (new.answers limit sessionId calls).filterMap (·.emitted?),
    e ∉ ((new.callAll limit sessionId calls).drain.2.answers limit sessionId later).flatMap (·.handed)

section

variable {limit : Nat} {sessionId : String} {c : Channel}

/-- What is handed out or left has been there before or is emitted by the call. -/
theorem call_subset (limit : Nat) (sessionId : String) (c : Channel) (x : Call) :
    (c.call limit sessionId x).2.handed ++
        ((c.call limit sessionId x).1.queue ++ (c.call limit sessionId x).1.pending) ⊆
      c.queue ++ c.pending ++ (c.call limit sessionId x).2.emitted?.toList := by
  cases x with
  | emit kind node data =>
    have kept := (lastOf_sublist limit (c.queue ++ [(c.emit limit sessionId kind node data).2])).subset
    simp only [call, Call.Answer.handed, Call.Answer.emitted?, List.nil_append, Option.toList_some]
    simp only [emit] at kept ⊢
    split
    · exact List.append_assoc .. ▸ List.Subset.refl _
    · intro e he
      simp only [enqueue, List.mem_append] at he ⊢
      rcases he with queued | waits
      · exact (List.mem_append.mp (kept queued)).imp Or.inl id
      · exact Or.inl (Or.inr waits)
  | perform =>
    simp only [call, Call.Answer.handed, Call.Answer.emitted?, Option.toList_none, List.append_nil, perform]
    split
    · simp
    · rename_i e rest pending
      simp only [enqueue, pending]
      rw [← List.append_assoc, serve_partition, List.append_cons c.queue e rest]
      exact ((lastOf_sublist _ _).append_right rest).subset
  | next waiter =>
    simp only [call, take?]
    cases hq : c.queue with
    | nil =>
      dsimp only
      split <;> simp [Call.Answer.handed, join, hq]
    | cons e rest => simp [Call.Answer.handed, Call.Answer.emitted?]
  | register | unregister | giveUp => simp [call, Call.Answer.handed, register, unregister, quit]
  | drain | clear => simp [call, Call.Answer.handed, drain]

/-- A call that emits an event gives it the next number. -/
theorem issued_call (limit : Nat) (sessionId : String) (c : Channel) (x : Call) :
    (c.call limit sessionId x).1.issued =
        c.issued + (c.call limit sessionId x).2.emitted?.toList.length ∧
      ∀ e ∈ (c.call limit sessionId x).2.emitted?, e.sequence = c.issued + 1 := by
  cases x with
  | emit kind node data =>
    simp only [call, emit, Call.Answer.emitted?]
    refine ⟨by split <;> rfl, ?_⟩
    rintro e ⟨⟩
    rfl
  | perform =>
    simp only [call, perform]
    split <;> exact ⟨rfl, by simp [Call.Answer.emitted?]⟩
  | next waiter =>
    simp only [call, take?]
    cases c.queue with
    | nil => dsimp only; split <;> exact ⟨rfl, by simp [Call.Answer.emitted?]⟩
    | cons e rest => exact ⟨rfl, by simp [Call.Answer.emitted?]⟩
  | _ => exact ⟨rfl, by simp [call, Call.Answer.emitted?]⟩

/-- What is handed out in a run, and what is left, has been there before or is emitted in it. -/
theorem answers_subset (c : Channel) (calls : List Call) :
    (c.answers limit sessionId calls).flatMap (·.handed) ++
        ((c.callAll limit sessionId calls).queue ++ (c.callAll limit sessionId calls).pending) ⊆
      c.queue ++ c.pending ++ (c.answers limit sessionId calls).filterMap (·.emitted?) := by
  induction calls generalizing c with
  | nil => simp [answers, callAll]
  | cons x rest ih =>
    have first := call_subset limit sessionId c x
    have later := ih (c.call limit sessionId x).1
    intro e he
    have emitted : e ∈ (c.call limit sessionId x).2.emitted?.toList ∨
        e ∈ ((c.call limit sessionId x).1.answers limit sessionId rest).filterMap (·.emitted?) →
        e ∈ (c.answers limit sessionId (x :: rest)).filterMap (·.emitted?) := by
      rw [answers, List.filterMap_cons]
      cases (c.call limit sessionId x).2.emitted? <;> simp
    have split : e ∈ (c.call limit sessionId x).2.handed ∨
        e ∈ ((c.call limit sessionId x).1.answers limit sessionId rest).flatMap (·.handed) ++
          (((c.call limit sessionId x).1.callAll limit sessionId rest).queue ++
            ((c.call limit sessionId x).1.callAll limit sessionId rest).pending) := by
      rw [answers, List.flatMap_cons, List.append_assoc] at he
      exact List.mem_append.mp he
    have known : e ∈ c.queue ++ c.pending ++ (c.call limit sessionId x).2.emitted?.toList ∨
        e ∈ ((c.call limit sessionId x).1.answers limit sessionId rest).filterMap (·.emitted?) := by
      rcases split with here | there
      · exact Or.inl (first (List.mem_append_left _ here))
      · exact (List.mem_append.mp (later there)).imp
          (fun left => first (List.mem_append_right _ left)) id
    rcases known with there | there
    · rcases List.mem_append.mp there with old | new
      · exact List.mem_append_left _ old
      · exact List.mem_append_right _ (emitted (Or.inl new))
    · exact List.mem_append_right _ (emitted (Or.inr there))

/-- What a run emits is numbered with what is issued in it. -/
theorem sequence_emitted (c : Channel) (calls : List Call) :
    c.issued ≤ (c.callAll limit sessionId calls).issued ∧
      ∀ e ∈ (c.answers limit sessionId calls).filterMap (·.emitted?),
        c.issued < e.sequence ∧ e.sequence ≤ (c.callAll limit sessionId calls).issued := by
  induction calls generalizing c with
  | nil => exact ⟨Nat.le_refl _, by simp [answers]⟩
  | cons x rest ih =>
    obtain ⟨issued, numbered⟩ := issued_call limit sessionId c x
    obtain ⟨grows, later⟩ := ih (c.call limit sessionId x).1
    have mono : c.issued ≤ (c.call limit sessionId x).1.issued := issued ▸ Nat.le_add_right _ _
    refine ⟨Nat.le_trans mono grows, ?_⟩
    intro e he
    obtain ⟨answer, among, emitted⟩ := List.mem_filterMap.mp he
    rcases List.mem_cons.mp among with rfl | there
    · rw [emitted] at issued
      have next := numbered e emitted
      have last : e.sequence = (c.call limit sessionId x).1.issued := next.trans issued.symm
      exact ⟨next ▸ Nat.lt_succ_self _, last ▸ grows⟩
    · obtain ⟨above, below⟩ := later e (List.mem_filterMap.mpr ⟨answer, there, emitted⟩)
      exact ⟨Nat.lt_of_le_of_lt mono above, below⟩

/-- With no room in the queue a call hands out nothing. -/
theorem call_without_room (empty : c.queue = []) (x : Call) :
    (c.call 0 sessionId x).2.handed = [] ∧ (c.call 0 sessionId x).1.queue = [] := by
  cases x with
  | emit kind node data =>
    simp only [call, emit, enqueue]
    split <;> simp [Call.Answer.handed, empty, lastOf_zero]
  | perform =>
    simp only [call, perform]
    split
    · exact ⟨rfl, empty⟩
    · rename_i e rest pending
      have nothing := serve_partition c.waiting (lastOf 0 (c.queue ++ [e]))
      rw [lastOf_zero] at nothing
      simp only [enqueue, lastOf_zero]
      exact List.append_eq_nil_iff.mp nothing
  | next waiter =>
    simp only [call, take?, empty]
    split <;> exact ⟨rfl, empty⟩
  | drain => exact ⟨empty, rfl⟩
  | clear => exact ⟨rfl, rfl⟩
  | register | unregister | giveUp => exact ⟨rfl, empty⟩

theorem handed_without_room (empty : c.queue = []) (calls : List Call) :
    (c.answers 0 sessionId calls).flatMap (·.handed) = [] := by
  induction calls generalizing c with
  | nil => rfl
  | cons x rest ih =>
    obtain ⟨nothing, still⟩ := @call_without_room sessionId c empty x
    rw [answers, List.flatMap_cons, nothing, ih still, List.nil_append]

/-- What waits first for the loop is handed out once it is queued. -/
theorem handed_perform_drain (room : 0 < limit) (empty : c.queue = []) {p : Event} {rest : List Event}
    (pending : c.pending = p :: rest) :
    (c.answers limit sessionId [.perform, .drain]).flatMap (·.handed) = [p] := by
  have single : lastOf limit [p] = [p] := by
    have short : [p].length - limit = 0 := Nat.sub_eq_zero_of_le room
    rw [lastOf, short]
    rfl
  have partition := serve_partition c.waiting [p]
  simpa [answers, call, perform, pending, empty, enqueue, single, Call.Answer.handed, drain]
    using partition

/-- Emptying the queue is for good exactly if no event waits for the loop. -/
theorem emptiedForGood_iff (calls : List Call) : EmptiedForGood limit sessionId calls ↔
    limit = 0 ∨ (new.callAll limit sessionId calls).pending = [] := by
  constructor
  · intro separate
    rcases Nat.eq_zero_or_pos limit with none_kept | room
    · exact Or.inl none_kept
    · refine Or.inr ?_
      by_contra some_pending
      obtain ⟨p, rest, pending⟩ := List.exists_cons_of_ne_nil some_pending
      have emitted : p ∈ (new.answers limit sessionId calls).filterMap (·.emitted?) := by
        refine answers_subset new calls ?_
        simp [pending]
      have left : (new.callAll limit sessionId calls).drain.2.pending = p :: rest := pending
      have handed := @handed_perform_drain limit sessionId _ room rfl _ _ left
      have absent := separate [.perform, .drain] p emitted
      rw [handed] at absent
      exact absent (List.mem_singleton_self p)
  · rintro (rfl | none_pending) later e emitted handed
    · rw [handed_without_room rfl] at handed
      simp at handed
    · -- All that is handed out is new, and new numbers are above all old ones.
      have old := ((sequence_emitted new calls).2 e emitted).2
      have fresh := answers_subset _ later (List.mem_append_left _ handed)
      rw [drain, none_pending, List.nil_append, List.nil_append] at fresh
      have above := ((sequence_emitted _ later).2 e fresh).1
      exact absurd (Nat.lt_of_le_of_lt old above) (Nat.lt_irrefl _)

end

end Feed.Channel

namespace Chat

open Reckoner.Feed

/-- Nothing is stored and nobody has been told anything. -/
def Books.new (limit : Nat) : Books := ⟨.empty, some (.new limit)⟩

/-- No event of a session that is emitted before the session is forgotten is handed out afterwards. -/
def Separates (limit : Nat) (s : String) (before : List Occurrence) : Prop :=
  ∀ later, ∀ e ∈ (Books.new limit).emittedIn s before,
    e ∉ (((Books.new limit).occurAll before).occur (.effect (.forget s))).handedOut s later

/-- What has occurred in a session is kept from its next conversation if emptying its queue is for good. -/
theorem separates_iff_emptiedForGood (limit : Nat) (s : String) (before : List Occurrence) :
    Separates limit s before ↔ Channel.EmptiedForGood limit s (callsIn s before) := by
  have keeps : (Books.new limit).Keeps limit := ⟨.new limit, rfl, rfl⟩
  obtain ⟨channel, answers⟩ := Books.channel_occurAll keeps s before
  have start : (Books.new limit).channel s = Channel.new := rfl
  rw [start] at channel answers
  have kept := keeps.occurAll before
  have emptied : (((Books.new limit).occurAll before).occur (.effect (.forget s))).channel s =
      (Channel.new.callAll limit s (callsIn s before)).drain.2 :=
    channel ▸ (Books.channel_occur_own kept (x := .effect (.forget s)) rfl).1
  have handed : ∀ later,
      (((Books.new limit).occurAll before).occur (.effect (.forget s))).handedOut s later =
        ((Channel.new.callAll limit s (callsIn s before)).drain.2.answers limit s
          (callsIn s later)).flatMap (·.handed) := by
    intro later
    rw [Books.handedOut, (Books.channel_occurAll (kept.occur _) s later).2, emptied]
  constructor
  · intro separate later e emitted
    have absent := separate (later.map (.call s)) e (by rwa [Books.emittedIn, answers])
    have calls : callsIn s (later.map (.call s)) = later := by
      simp [callsIn, occurringIn, List.filter_map, Function.comp_def, Occurrence.sessionId,
        Occurrence.asCall]
    rwa [handed, calls] at absent
  · intro separate later e emitted
    rw [handed]
    rw [Books.emittedIn, answers] at emitted
    exact separate (callsIn s later) e emitted

/-- Whatever turns, resets, listeners and the loop have done, a reset keeps the session's earlier events from
ever being handed out exactly if none of them waits for the loop, unless queues have no room. -/
theorem reset_separates_iff (limit : Nat) (s : String) (before : List Occurrence) :
    Separates limit s before ↔
      limit = 0 ∨ (((Books.new limit).occurAll before).channel s).pending = [] := by
  have keeps : (Books.new limit).Keeps limit := ⟨.new limit, rfl, rfl⟩
  rw [separates_iff_emptiedForGood, Channel.emptiedForGood_iff, (Books.channel_occurAll keeps s before).1]
  rfl

/-- A reply waits for the loop while its conversation is reset, and is handed out in the next one. -/
theorem pending_reply_outlives_reset :
    let w := Switchboard.new (some (.new 200)) ⟨.whole 0, .whole 0⟩ true
    let turn : List Action := [.respond .unbound "s" "hello" none, .reply 0 (.ok "Hi.")]
    ((w.run turn).step (.reset "s")).2 = .reset (.ok ()) ∧
      ¬ Separates 200 "s" (.call "s" .register :: (w.journal turn).map .effect) := by
  intro w turn
  have free : (w.run turn).store.isBusy "s" = false := by decide
  refine ⟨by rw [Switchboard.step_reset_free free], ?_⟩
  rw [separates_iff_emptiedForGood, Channel.emptiedForGood_iff]
  have waits : (Channel.new.callAll 200 "s" (callsIn "s"
      (.call "s" .register :: (w.journal turn).map .effect))).pending.map (·.sequence) = [1] := by
    decide
  rintro (none_kept | none_pending)
  · exact absurd none_kept (by decide)
  · rw [none_pending] at waits
    exact absurd waits (by decide)

end Chat

end Reckoner
