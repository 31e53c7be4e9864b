import Reckoner.Feed.Stream

namespace Reckoner.Feed.Stream

def isReply (e : Event) : Bool :=
  e.kind == "reply"

/-- As many of the selected events as there are frames for behind the ready frame. -/
def fitting (s : Stream) (chosen : List Event) : List Event :=
  match s.maxEvents with
  | some limit => chosen.take (limit - 1).toNat
  | none => chosen

/-- Those up to the first reply, if the stream ends with one. -/
def throughReply (s : Stream) (chosen : List Event) : List Event :=
  if s.untilReply then chosen.take (chosen.findIdx isReply + 1) else chosen

/-- What a stream has to send of the events of its session: those of the selected kinds in their order, as many as
there are frames for, and none behind the first reply if the stream ends with one. -/
def due (s : Stream) (events : List Event) : List Event :=
  s.throughReply (s.fitting (events.filter fun e => decide (e.kind ∈ s.kinds)))

/-- With the ready frame, so many events are all that there is room for. -/
def fills (s : Stream) (sent : List Event) : Bool :=
  s.maxEvents.any fun limit => limit ≤ (sent.length : Int) + 1

/-- Nothing more is sent after these. -/
def sated (s : Stream) (sent : List Event) : Bool :=
  (s.untilReply && sent.any isReply) || s.fills sent

section

variable {s : Stream} {events : List Event} {e : Event}

theorem due_eq (s : Stream) (events : List Event) :
    s.due events = s.throughReply (s.fitting (events.filter s.selects)) := by
  have same : s.selects = fun e => decide (e.kind ∈ s.kinds) := by
    funext e
    simp [selects]
  rw [due, same]

theorem fitting_concat (s : Stream) (chosen : List Event) (e : Event) :
    s.fitting (chosen ++ [e]) =
      if s.fills (s.fitting chosen) then s.fitting chosen else s.fitting chosen ++ [e] := by
  cases bound : s.maxEvents with
  | none => simp [fitting, fills, bound]
  | some limit =>
    simp only [fitting, fills, bound, Option.any_some, List.length_take, decide_eq_true_eq]
    by_cases short : (limit - 1).toNat ≤ chosen.length
    · have full : limit ≤ ((min (limit - 1).toNat chosen.length : Nat) : Int) + 1 := by omega
      rw [if_pos full]
      exact List.take_append_of_le_length short
    · have room : ¬ limit ≤ ((min (limit - 1).toNat chosen.length : Nat) : Int) + 1 := by omega
      have all : chosen.take (limit - 1).toNat = chosen := List.take_of_length_le (by omega)
      rw [if_neg room, all]
      apply List.take_of_length_le
      rw [List.length_append, List.length_singleton]
      omega

theorem findIdx_of_none {chosen : List Event} (absent : chosen.any isReply = false) :
    chosen.findIdx isReply = chosen.length := by
  apply List.findIdx_eq_length_of_false
  intro e he
  simpa using List.any_eq_false.mp absent e he

theorem throughReply_of_none (s : Stream) {chosen : List Event}
    (none_yet : (s.untilReply && chosen.any isReply) = false) : s.throughReply chosen = chosen := by
  unfold throughReply
  cases asked : s.untilReply with
  | false => rfl
  | true =>
    have absent : chosen.any isReply = false := by simpa [asked] using none_yet
    rw [if_pos rfl, findIdx_of_none absent]
    exact List.take_of_length_le (Nat.le_succ _)

/-- Whether there is a reply does not depend on what is cut off behind it. -/
theorem any_throughReply (s : Stream) (chosen : List Event) :
    (s.untilReply && (s.throughReply chosen).any isReply) = (s.untilReply && chosen.any isReply) := by
  unfold throughReply
  cases s.untilReply with
  | false => rfl
  | true =>
    rw [if_pos rfl, Bool.true_and, Bool.true_and]
    cases found : chosen.any isReply with
    | false =>
      apply List.any_eq_false.mpr
      intro e he
      exact List.any_eq_false.mp found e (List.mem_of_mem_take he)
    | true =>
      have within : chosen.findIdx isReply < chosen.length := by
        apply List.findIdx_lt_length_of_exists
        simpa using found
      apply List.any_eq_true.mpr
      refine ⟨chosen[chosen.findIdx isReply], ?_, List.findIdx_getElem⟩
      exact List.mem_take_iff_getElem.mpr ⟨_, by omega, rfl⟩

theorem throughReply_concat (s : Stream) (chosen : List Event) (e : Event) :
    s.throughReply (chosen ++ [e]) =
      if s.untilReply && chosen.any isReply then s.throughReply chosen else chosen ++ [e] := by
  cases asked : s.untilReply with
  | false => simp [throughReply, asked]
  | true =>
    simp only [throughReply, asked, if_true, Bool.true_and]
    rw [List.findIdx_append]
    cases replied : chosen.any isReply with
    | true =>
      have within : chosen.findIdx isReply < chosen.length := by
        apply List.findIdx_lt_length_of_exists
        simpa using replied
      rw [if_pos within, if_pos rfl]
      exact List.take_append_of_le_length within
    | false =>
      have last : chosen.findIdx isReply = chosen.length := findIdx_of_none replied
      rw [last, if_neg (Nat.lt_irrefl _), if_neg (by simp)]
      apply List.take_of_length_le
      rw [List.length_append, List.length_singleton]
      omega

theorem due_nil (s : Stream) : s.due [] = [] := by
  unfold due fitting throughReply
  cases s.maxEvents <;> simp

/-- One more event is sent if it is selected and something more is to be sent at all. -/
theorem due_concat (s : Stream) (events : List Event) (e : Event) :
    s.due (events ++ [e]) =
      if s.selects e && !s.sated (s.due events) then s.due events ++ [e] else s.due events := by
  rw [due_eq, due_eq, List.filter_append]
  generalize events.filter s.selects = chosen
  cases picked : s.selects e with
  | false => simp [picked]
  | true =>
    have alone : [e].filter s.selects = [e] := by simp [picked]
    rw [alone, fitting_concat, sated, any_throughReply]
    cases found : s.untilReply && (s.fitting chosen).any isReply with
    | true =>
      rw [Bool.true_or, Bool.not_true, Bool.and_false, if_neg Bool.false_ne_true]
      split
      · rfl
      · rw [throughReply_concat, found, if_pos rfl]
    | false =>
      rw [throughReply_of_none s found]
      cases full : s.fills (s.fitting chosen) with
      | true => simp [throughReply_of_none s found]
      | false => simp [throughReply_concat, found]

/-- Events that are not selected make no difference. -/
theorem due_append_passed {passed : List Event} (unselected : ∀ e ∈ passed, s.selects e = false) :
    s.due (events ++ passed) = s.due events := by
  have none_left : passed.filter s.selects = [] := by
    apply List.filter_eq_nil_iff.mpr
    intro e he
    simp [unselected e he]
  rw [due_eq, List.filter_append, none_left, List.append_nil, due_eq]

theorem due_prefix (s : Stream) (events later : List Event) : s.due events <+: s.due (events ++ later) := by
  induction later generalizing events with
  | nil => simp
  | cons e later ih =>
    have step : s.due events <+: s.due (events ++ [e]) := by
      rw [due_concat]
      split
      · exact List.prefix_append _ _
      · exact List.prefix_rfl
    have rest := ih (events ++ [e])
    rw [List.append_assoc, List.singleton_append] at rest
    exact step.trans rest

theorem due_of_sated (full : s.sated (s.due events) = true) (later : List Event) :
    s.due (events ++ later) = s.due events := by
  induction later generalizing events with
  | nil => rw [List.append_nil]
  | cons e later ih =>
    have same : s.due (events ++ [e]) = s.due events := by rw [due_concat, full]; simp
    have rest := @ih (events ++ [e]) (by rw [same]; exact full)
    rw [List.append_assoc, List.singleton_append, same] at rest
    exact rest

end

end Reckoner.Feed.Stream
