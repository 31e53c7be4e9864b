import Reckoner.Proofs.Feed.DueEvents
import Reckoner.Proofs.Feed.Listeners
import Mathlib.Data.List.ReduceOption
import Mathlib.Data.List.TakeWhile

namespace Reckoner.Feed

open Reckoner.Json

/-- The frame with which a stream begins. -/
def readyFrame (sessionId : String) : Frame :=
  ⟨none, "ready", .object [("sessionId", .text sessionId), ("status", .text "ready")]⟩

/-- The frame of a session in which nothing happens. -/
def idleFrame (sessionId : String) : Frame :=
  ⟨none, "heartbeat", .object [("sessionId", .text sessionId), ("status", .text "idle")]⟩

/-- The frame of an event: its number is the id, its kind the kind, and all that is known of it is the data. -/
def eventFrame (time : String) (e : Event) : Frame :=
  ⟨some e.sequence, e.kind, .object [("sessionId", .text e.sessionId), ("sequence", .int e.sequence),
    ("type", .text e.kind), ("node", .text e.node), ("timestamp", .text time), ("data", .object e.data)]⟩

theorem Stream.ready_eq (s : Stream) : s.ready = readyFrame s.sessionId := rfl

theorem Stream.heartbeat_eq (s : Stream) : s.heartbeat = idleFrame s.sessionId := rfl

theorem Stream.frameOf_eq (time : String) (e : Event) : frameOf time e = eventFrame time e := rfl

/-- What happens while one listener has a stream: it pulls, or somebody emits an event and the loop settles. -/
inductive Moment where
  | pull
  | emit (sessionId kind node : String) (data : Members)

/-- The answers to the pulls, and the stream and the feed afterwards. -/
def attend (time : String) (s : Stream) (f : Feed) : List Moment → List (Option Frame) × Stream × Feed
  | [] => ([], s, f)
  | .pull :: rest =>
    let pulled := s.pull time f
    let later := attend time pulled.2.1 pulled.2.2 rest
    (pulled.1 :: later.1, later.2)
  | .emit sessionId kind node data :: rest => attend time s (f.publish sessionId kind node data) rest

/-- The events of a session that are emitted, with the numbers that follow those issued before. -/
def emittedFrom (sessionId : String) (issued : Nat) : List Moment → List Event
  | [] => []
  | .pull :: rest => emittedFrom sessionId issued rest
  | .emit other kind node data :: rest =>
    if other = sessionId then
      ⟨sessionId, issued + 1, kind, node, data⟩ :: emittedFrom sessionId (issued + 1) rest
    else emittedFrom sessionId issued rest

/-- No event of the stream's session is emitted into a full queue. -/
def NeverOverflows (time : String) (s : Stream) (f : Feed) : List Moment → Prop
  | [] => True
  | .pull :: rest => NeverOverflows time (s.pull time f).2.1 (s.pull time f).2.2 rest
  | .emit sessionId kind node data :: rest =>
    (sessionId = s.sessionId → (f.channel sessionId).queue.length < f.limit) ∧
      NeverOverflows time s (f.publish sessionId kind node data) rest

namespace Stream

/-- The answer to a pull when some of what was due of a session's events has been sent: the frame of the next one; else
the end, if nothing more is to be sent, or a heartbeat. -/
def answer (time : String) (s : Stream) (history sent : List Event) : Option Frame :=
  match (s.due history)[sent.length]? with
  | some e => some (eventFrame time e)
  | none => if s.sated sent then none else some (idleFrame s.sessionId)

section

variable {time : String} {s : Stream} {taken history : List Event}

theorem answer_of_sated (full : s.sated (s.due taken) = true) (later : List Event) :
    s.answer time (taken ++ later) (s.due taken) = none := by
  have nothing : (s.due taken)[(s.due taken).length]? = none := List.getElem?_eq_none (Nat.le_refl _)
  simp only [answer, due_of_sated full later, nothing, full, if_true]

theorem answer_of_none_due (hungry : s.sated (s.due taken) = false) (same : s.due history = s.due taken) :
    s.answer time history (s.due taken) = some (idleFrame s.sessionId) := by
  have nothing : (s.due taken)[(s.due taken).length]? = none := List.getElem?_eq_none (Nat.le_refl _)
  simp only [answer, same, nothing, hungry, Bool.false_eq_true, if_false]

theorem answer_of_next {through later : List Event} {e : Event}
    (next : s.due through = s.due taken ++ [e]) :
    s.answer time (through ++ later) (s.due taken) = some (eventFrame time e) := by
  obtain ⟨others, split⟩ := s.due_prefix through later
  have there : (s.due (through ++ later))[(s.due taken).length]? = some e := by
    rw [← split, next, List.append_assoc, List.getElem?_append_right (Nat.le_refl _), Nat.sub_self]
    rfl
  simp only [answer, there]

end

/-- A queue splits before its first selected event. -/
theorem passed_over {s : Stream} {queue rest : List Event} {e : Event}
    (found : queue.dropWhile (!s.selects ·) = e :: rest) :
    ∃ passed, queue = passed ++ e :: rest ∧ (∀ d ∈ passed, s.selects d = false) ∧ s.selects e = true := by
  refine ⟨queue.takeWhile (!s.selects ·), ?_, ?_, ?_⟩
  · rw [← found]
    exact List.takeWhile_append_dropWhile.symm
  · intro d hd
    simpa using List.mem_takeWhile_imp hd
  · have head := List.dropWhile_get_zero_not (!s.selects ·) queue (by rw [found]; exact Nat.succ_pos _)
    simpa [found] using head

/-- While a stream is not sated only the event that it sends next can be the reply that it ends with. -/
theorem replied_concat {s : Stream} {sent : List Event} (hungry : s.sated sent = false) (e : Event) :
    (s.untilReply && (sent ++ [e]).any isReply) = (s.untilReply && isReply e) := by
  have silent : (s.untilReply && sent.any isReply) = false := by
    simp only [sated, Bool.or_eq_false_iff] at hungry
    exact hungry.1
  rw [List.any_append, Bool.and_or_distrib_left, silent]
  simp

/-- What a listener has got of the events of a session. Those that were taken from the queue come first, and all
others are queued in their order. -/
structure Account (time : String) (s : Stream) (history : List Event) (answers : List (Option Frame))
    (queue taken : List Event) (shown : List (Option Event)) (ended : Nat) : Prop where
  whole : history = taken ++ queue
  /-- After the ready frame there are frames of events and heartbeats, and nothing more after the end. -/
  frames : answers = some (readyFrame s.sessionId) ::
    (shown.map fun e => some (e.elim (idleFrame s.sessionId) (eventFrame time))) ++ List.replicate ended none
  sent : shown.reduceOption = s.due taken
  /-- A stream that has ended has sent all it had to, and has taken nothing behind the last event it sent. -/
  finished : 0 < ended → s.sated (s.due taken) = true ∧ taken.getLast? = (s.due taken).getLast?

/-- A channel that has issued so many events has none on its way to the queue, and nobody waits for one. -/
structure Rests (issued : Nat) (c : Channel) : Prop where
  numbered : c.issued = issued
  idle : c.pending = []
  alone : c.waiting = []

theorem Rests.refill {issued : Nat} {c : Channel} (h : Rests issued c) (queue : List Event) :
    Rests issued { c with queue } :=
  ⟨h.numbered, h.idle, h.alone⟩

/-- The account of a stream that has opened, and what the stream and the feed are by then. -/
structure Tally (time : String) (s₀ : Stream) (issued : Nat) (history : List Event)
    (answers : List (Option Frame)) (s : Stream) (f : Feed) (taken : List Event)
    (shown : List (Option Event)) (ended : Nat) : Prop
    extends Account time s₀ history answers (f.channel s₀.sessionId).queue taken shown ended where
  stream : s = { s₀ with
    sent := (s₀.due taken).length + 1
    phase := if ended = 0 then .running (s₀.untilReply && (s₀.due taken).any isReply) else .closed }
  last : s₀.sated (s₀.due taken) = true → taken.getLast? = (s₀.due taken).getLast?
  rests : Rests issued (f.channel s₀.sessionId)

/-- What the next pull comes to: the answer that is due, and an account that is kept. A heartbeat finds nothing
queued and leaves the stream as it is. -/
structure Pulled (time : String) (s₀ : Stream) (issued : Nat) (history : List Event)
    (answers : List (Option Frame)) (s : Stream) (f : Feed) (taken : List Event) : Prop where
  answer : (s.pull time f).1 = s₀.answer time history (s₀.due taken)
  heartbeat : (s.pull time f).1 = some (idleFrame s₀.sessionId) →
    (s.pull time f).2.1 = s ∧ ((s.pull time f).2.2.channel s₀.sessionId).queue = []
  after : ∃ taken' shown' ended', Tally time s₀ issued history (answers ++ [(s.pull time f).1])
    (s.pull time f).2.1 (s.pull time f).2.2 taken' shown' ended'

section

variable {time : String} {s₀ s : Stream} {f : Feed} {issued : Nat} {history : List Event}
  {answers : List (Option Frame)} {taken : List Event} {shown : List (Option Event)} {ended : Nat}

/-- A pull that finds no selected event empties the queue and changes nothing else. -/
theorem pull_of_passed (opened : s.isOpen = true) (goes_on : s.isOver = false)
    (passed : (f.channel s.sessionId).queue.dropWhile (!s.selects ·) = []) :
    s.pull time f =
      (some (idleFrame s.sessionId), s, f.set s.sessionId { f.channel s.sessionId with queue := [] }) := by
  obtain ⟨replied, phase⟩ := s.running_of_isOpen opened
  have within : (replied || s.isFull) = false := by simpa [isOver, phase] using goes_on
  simp only [pull, phase, within, Bool.false_eq_true, if_false, nextEvent, passed, heartbeat_eq]

/-- A pull that finds a selected event takes it, with those before it. -/
theorem pull_of_found {e : Event} {rest : List Event} (opened : s.isOpen = true)
    (goes_on : s.isOver = false)
    (found : (f.channel s.sessionId).queue.dropWhile (!s.selects ·) = e :: rest) :
    s.pull time f = (some (eventFrame time e), s.took e,
      f.set s.sessionId { f.channel s.sessionId with queue := rest }) := by
  obtain ⟨replied, phase⟩ := s.running_of_isOpen opened
  have within : (replied || s.isFull) = false := by simpa [isOver, phase] using goes_on
  simp only [pull, phase, within, Bool.false_eq_true, if_false, nextEvent, found, took, frameOf_eq]

theorem pull_of_isOver (ends : s.isOver = true) : s.pull time f = (none, s.close f) := by
  unfold isOver at ends
  split at ends
  · rename_i replied phase
    simp only [pull, phase, ends, if_true]
  · cases ends

namespace Tally

theorem isOver (h : Tally time s₀ issued history answers s f taken shown 0) :
    s.isOver = s₀.sated (s₀.due taken) := by
  rw [h.stream]
  simp only [Stream.isOver, if_true, sated, fills, isFull]
  cases s₀.maxEvents with
  | none => rfl
  | some limit =>
    simp only [Option.any_some]
    congr 1

theorem isOpen (h : Tally time s₀ issued history answers s f taken shown 0) : s.isOpen = true := by
  rw [h.stream]
  rfl

theorem sessionId_eq (h : Tally time s₀ issued history answers s f taken shown ended) :
    s.sessionId = s₀.sessionId := by
  rw [h.stream]

theorem selects_eq (h : Tally time s₀ issued history answers s f taken shown ended) :
    s.selects = s₀.selects := by
  rw [h.stream]
  rfl

/-- Once a stream has ended, a pull changes nothing. -/
theorem pull_closed (h : Tally time s₀ issued history answers s f taken shown ended)
    (past : 0 < ended) : Pulled time s₀ issued history answers s f taken := by
  have closed : s.phase = .closed := by
    rw [h.stream]
    exact if_neg (Nat.ne_of_gt past)
  have still : s.pull time f = (none, s, f) := by simp only [Stream.pull, closed]
  have frames : answers ++ [none] =
      some (readyFrame s₀.sessionId) ::
        (shown.map fun e => some (e.elim (idleFrame s₀.sessionId) (eventFrame time))) ++
        List.replicate (ended + 1) none := by
    rw [h.frames, List.append_assoc, ← List.replicate_succ']
  have same := h.stream
  rw [if_neg (Nat.ne_of_gt past)] at same
  constructor
  · rw [still, h.whole, answer_of_sated (h.finished past).1]
  · intro beats
    rw [still] at beats
    cases beats
  · rw [still]
    exact ⟨taken, shown, ended + 1, ⟨h.whole, frames, h.sent, fun _ => h.finished past⟩,
      by rw [if_neg (Nat.succ_ne_zero _)]; exact same, h.last, h.rests⟩

/-- The pull of an open stream that has sent all it had to is its end. -/
theorem pull_full (h : Tally time s₀ issued history answers s f taken shown 0)
    (full : s₀.sated (s₀.due taken) = true) : Pulled time s₀ issued history answers s f taken := by
  have ends : s.isOver = true := h.isOver.trans full
  obtain ⟨replied, phase⟩ := s.running_of_isOpen h.isOpen
  have pulled : s.pull time f = (none, { s with phase := .closed }, f.unregister s₀.sessionId) := by
    rw [pull_of_isOver ends, close, phase, h.sessionId_eq]
  have channel := congrFun (channel_unregister f s₀.sessionId) s₀.sessionId
  rw [Function.update_self] at channel
  constructor
  · rw [pulled, h.whole, answer_of_sated full]
  · intro beats
    rw [pulled] at beats
    cases beats
  · rw [pulled]
    refine ⟨taken, shown, 1, ⟨?_, ?_, h.sent, fun _ => ⟨full, h.last full⟩⟩, ?_, h.last, ?_⟩
    · rw [channel]
      exact h.whole
    · rw [h.frames]
      simp
    · rw [h.stream]
      rfl
    · rw [channel]
      exact ⟨h.rests.numbered, h.rests.idle, h.rests.alone⟩

/-- The queue that a pull leaves. -/
theorem channel_refill (f : Feed) (sessionId : String) (queue : List Event) :
    (f.set sessionId { f.channel sessionId with queue }).channel sessionId =
      { f.channel sessionId with queue } := by
  rw [channel_set, if_pos rfl]

/-- The pull of a stream that finds no selected event is a heartbeat. -/
theorem pull_idle (h : Tally time s₀ issued history answers s f taken shown 0)
    (hungry : s₀.sated (s₀.due taken) = false)
    (passed : (f.channel s₀.sessionId).queue.dropWhile (!s₀.selects ·) = []) :
    Pulled time s₀ issued history answers s f taken := by
  have unselected : ∀ e ∈ (f.channel s₀.sessionId).queue, s₀.selects e = false := by
    intro e he
    simpa using List.dropWhile_eq_nil_iff.mp passed e he
  have same : s₀.due history = s₀.due taken := by
    rw [h.whole]
    exact due_append_passed unselected
  have goes_on : s.isOver = false := h.isOver.trans hungry
  have beat : idleFrame s.sessionId = idleFrame s₀.sessionId := by rw [h.stream]
  have pulled : s.pull time f = (some (idleFrame s₀.sessionId), s,
      f.set s₀.sessionId { f.channel s₀.sessionId with queue := [] }) := by
    rw [pull_of_passed h.isOpen goes_on (by rw [h.sessionId_eq, h.selects_eq]; exact passed), beat,
      h.sessionId_eq]
  constructor
  · rw [pulled, answer_of_none_due hungry same]
  · intro _
    rw [pulled, channel_refill]
    exact ⟨rfl, rfl⟩
  · rw [pulled]
    refine ⟨history, shown ++ [none], 0, ⟨?_, ?_, ?_, ?_⟩, ?_, ?_, ?_⟩
    · rw [channel_refill, List.append_nil]
    · rw [h.frames]
      simp
    · rw [List.reduceOption_append, h.sent, same]
      simp [List.reduceOption]
    · intro past
      cases past
    · rw [same]
      exact h.stream
    · rw [same, hungry]
      intro full
      cases full
    · rw [channel_refill]
      exact h.rests.refill _

/-- The pull of a stream that finds a selected event is its frame. -/
theorem pull_event (h : Tally time s₀ issued history answers s f taken shown 0)
    (hungry : s₀.sated (s₀.due taken) = false) {e : Event} {rest : List Event}
    (found : (f.channel s₀.sessionId).queue.dropWhile (!s₀.selects ·) = e :: rest) :
    Pulled time s₀ issued history answers s f taken := by
  obtain ⟨passed, split, unselected, chosen⟩ := passed_over found
  have whole : history = taken ++ passed ++ [e] ++ rest := by
    rw [h.whole, split]
    simp
  have more : s₀.due (taken ++ passed ++ [e]) = s₀.due taken ++ [e] := by
    rw [due_concat, due_append_passed unselected, chosen, hungry]
    rfl
  have goes_on : s.isOver = false := h.isOver.trans hungry
  have pulled : s.pull time f = (some (eventFrame time e), s.took e,
      f.set s₀.sessionId { f.channel s₀.sessionId with queue := rest }) := by
    rw [pull_of_found h.isOpen goes_on (by rw [h.sessionId_eq, h.selects_eq]; exact found),
      h.sessionId_eq]
  constructor
  · rw [pulled, whole, answer_of_next more]
  · intro beats
    rw [pulled] at beats
    cases congrArg Frame.id (Option.some.inj beats)
  · rw [pulled]
    refine ⟨taken ++ passed ++ [e], shown ++ [some e], 0, ⟨?_, ?_, ?_, ?_⟩, ?_, ?_, ?_⟩
    · rw [channel_refill]
      exact whole
    · rw [h.frames]
      simp
    · rw [List.reduceOption_append, h.sent, more]
      simp [List.reduceOption]
    · intro past
      cases past
    · rw [more, replied_concat hungry, h.stream, List.length_append]
      rfl
    · intro _
      rw [more, List.getLast?_concat, List.getLast?_concat]
    · rw [channel_refill]
      exact h.rests.refill _

theorem pull (h : Tally time s₀ issued history answers s f taken shown ended) :
    Pulled time s₀ issued history answers s f taken := by
  rcases Nat.eq_zero_or_pos ended with rfl | past
  · cases full : s₀.sated (s₀.due taken) with
    | true => exact h.pull_full full
    | false =>
      cases found : (f.channel s₀.sessionId).queue.dropWhile (!s₀.selects ·) with
      | nil => exact h.pull_idle full found
      | cons e rest => exact h.pull_event full found
  · exact h.pull_closed past

/-- An event of the session that finds room is queued behind the others. -/
theorem emit_own (h : Tally time s₀ issued history answers s f taken shown ended)
    (room : (f.channel s₀.sessionId).queue.length < f.limit) (kind node : String) (data : Members) :
    Tally time s₀ (issued + 1) (history ++ [⟨s₀.sessionId, issued + 1, kind, node, data⟩]) answers s
      (f.publish s₀.sessionId kind node data) taken shown ended := by
  let e : Event := ⟨s₀.sessionId, issued + 1, kind, node, data⟩
  have upcoming : (f.channel s₀.sessionId).upcoming s₀.sessionId kind node data = e := by
    simp only [Channel.upcoming, h.rests.numbered, e]
  have awake : (f.channel s₀.sessionId).woken = [] := by
    simp [Channel.woken, h.rests.alone]
  have kept : Channel.lastOf f.limit ((f.channel s₀.sessionId).queue ++ [e]) =
      (f.channel s₀.sessionId).queue ++ [e] := by
    have excess : ((f.channel s₀.sessionId).queue ++ [e]).length - f.limit = 0 := by
      rw [List.length_append, List.length_singleton]
      omega
    rw [Channel.lastOf, excess, List.drop_zero]
  have posted := congrFun (Audience.settle_emit h.rests.idle kind node data).1 s₀.sessionId
  rw [Function.update_self, upcoming] at posted
  have channel : (f.publish s₀.sessionId kind node data).channel s₀.sessionId =
      { f.channel s₀.sessionId with
        issued := issued + 1
        queue := (f.channel s₀.sessionId).queue ++ [e] } := by
    rw [Feed.publish, posted, Channel.posted, Channel.filled, awake, kept, h.rests.numbered]
    rfl
  refine ⟨⟨?_, h.frames, h.sent, h.finished⟩, h.stream, h.last, ?_⟩
  · rw [channel, h.whole, List.append_assoc]
  · rw [channel]
    exact ⟨rfl, h.rests.idle, h.rests.alone⟩

theorem emit_other (h : Tally time s₀ issued history answers s f taken shown ended) {other : String}
    (apart : other ≠ s₀.sessionId) (kind node : String) (data : Members) :
    Tally time s₀ issued history answers s (f.publish other kind node data) taken shown ended := by
  have channel : (f.publish other kind node data).channel s₀.sessionId = f.channel s₀.sessionId := by
    rw [Feed.publish, Feed.settle, channel_set, if_neg apart.symm, Feed.emit, channel_set,
      if_neg apart.symm]
  refine ⟨⟨?_, h.frames, h.sent, h.finished⟩, h.stream, h.last, ?_⟩
  · rw [channel]
    exact h.whole
  · rw [channel]
    exact h.rests

/-- Whatever happens, the account is kept. -/
theorem attend (h : Tally time s₀ issued history answers s f taken shown ended) {moments : List Moment}
    (room : NeverOverflows time s f moments) :
    ∃ issued' taken' shown' ended',
      Tally time s₀ issued' (history ++ emittedFrom s₀.sessionId issued moments)
        (answers ++ (attend time s f moments).1) (attend time s f moments).2.1
        (attend time s f moments).2.2 taken' shown' ended' := by
  induction moments generalizing s f issued history answers taken shown ended with
  | nil =>
    refine ⟨issued, taken, shown, ended, ?_⟩
    simpa only [emittedFrom, Feed.attend, List.append_nil] using h
  | cons moment rest ih =>
    cases moment with
    | pull =>
      obtain ⟨taken', shown', ended', after⟩ := h.pull.after
      obtain ⟨issued', taken'', shown'', ended'', later⟩ := ih after room
      refine ⟨issued', taken'', shown'', ended'', ?_⟩
      rw [List.append_assoc] at later
      exact later
    | emit other kind node data =>
      by_cases own : other = s₀.sessionId
      · subst own
        have first := h.emit_own (room.1 h.sessionId_eq.symm) kind node data
        obtain ⟨issued', taken'', shown'', ended'', later⟩ := ih first room.2
        refine ⟨issued', taken'', shown'', ended'', ?_⟩
        rw [List.append_assoc, List.singleton_append] at later
        rw [emittedFrom, if_pos rfl]
        exact later
      · obtain ⟨issued', taken'', shown'', ended'', later⟩ :=
          ih (h.emit_other own kind node data) room.2
        refine ⟨issued', taken'', shown'', ended'', ?_⟩
        rw [emittedFrom, if_neg own]
        exact later

end Tally

/-- A stream begins with the ready frame, and has taken nothing. -/
theorem tally_opened (time : String) (s : Stream) (fresh : s.phase = .unopened) (f : Feed)
    (idle : (f.channel s.sessionId).pending = []) (alone : (f.channel s.sessionId).waiting = []) :
    Tally time s (f.channel s.sessionId).issued (f.channel s.sessionId).queue [(s.pull time f).1]
      (s.pull time f).2.1 (s.pull time f).2.2 [] [] 0 := by
  have pulled : s.pull time f =
      (some (readyFrame s.sessionId), { s with sent := 1, phase := .running false }, f.register s.sessionId) := by
    simp only [Stream.pull, fresh, ready_eq]
  have channel : (f.register s.sessionId).channel s.sessionId = (f.channel s.sessionId).register := by
    rw [Feed.register, channel_set, if_pos rfl]
  have nothing : s.due [] = [] := s.due_nil
  rw [pulled]
  refine ⟨⟨?_, rfl, ?_, ?_⟩, ?_, ?_, ?_⟩
  · rw [channel]
    rfl
  · rw [nothing]
    rfl
  · intro past
    cases past
  · rw [nothing]
    simp
  · intro _
    rw [nothing]
  · rw [channel]
    exact ⟨rfl, idle, alone⟩

end

end Stream

/-- While a stream is the only listener of its session, and no event is emitted into a full queue, it sends the ready
frame, then frames of exactly those events that are due of what was queued and is emitted, in their order; a heartbeat
comes only when nothing is queued, and changes no count; and each pull gives the next event that is due by then,
or the end once nothing more is to be sent. All events behind those that were taken are still queued in their
order, and a stream that has ended has taken none behind the last one that it sent. -/
theorem stream_accounts (time sessionId : String) (maxEvents : Option Int) (kinds : List String)
    (untilReply : Bool) (f : Feed) (idle : (f.channel sessionId).pending = [])
    (alone : (f.channel sessionId).waiting = []) (moments : List Moment)
    (room : NeverOverflows time (.new sessionId maxEvents kinds untilReply) f (.pull :: moments)) :
    let s := Stream.new sessionId maxEvents kinds untilReply
    let channel := f.channel sessionId
    let history := channel.queue ++ emittedFrom sessionId channel.issued moments
    let done := attend time s f (.pull :: moments)
    let next := done.2.1.pull time done.2.2
    ∃ taken shown ended,
      s.Account time history done.1 (done.2.2.channel sessionId).queue taken shown ended ∧
        next.1 = s.answer time history (s.due taken) ∧
        (next.1 = some (idleFrame s.sessionId) →
          next.2.1 = done.2.1 ∧ (next.2.2.channel sessionId).queue = []) := by
  intro s channel history done next
  have opened := Stream.tally_opened time s rfl f idle alone
  obtain ⟨issued, taken, shown, ended, after⟩ := opened.attend room
  exact ⟨taken, shown, ended, after.toAccount, after.pull.answer, after.pull.heartbeat⟩

/-- A stream of replies alone is opened on a stage event, and other events come before the reply and behind it. -/
theorem stream_accounts_replies :
    let f := ((Feed.new 2).emit "s" stageKind "extract_expression" []).1
    let moments : List Moment := [.pull, .emit "s" pipelineKind "pipeline" [],
      .emit "s" replyKind "conversation" [], .pull, .emit "s" stageKind "extract_expression" [], .pull]
    (f.channel "s").pending = [] ∧ (f.channel "s").waiting = [] ∧
    NeverOverflows "now" (.new "s" (some 9) [replyKind] true) f (.pull :: moments) ∧
    let s := Stream.new "s" (some 9) [replyKind] true
    let channel := f.channel "s"
    let history := channel.queue ++ emittedFrom "s" channel.issued moments
    let done := attend "now" s f (.pull :: moments)
    let next := done.2.1.pull "now" done.2.2
    ∃ taken shown ended,
      s.Account "now" history done.1 (done.2.2.channel "s").queue taken shown ended ∧
        next.1 = s.answer "now" history (s.due taken) ∧
        (next.1 = some (idleFrame s.sessionId) →
          next.2.1 = done.2.1 ∧ (next.2.2.channel "s").queue = []) := by
  intro f moments
  have room : NeverOverflows "now" (.new "s" (some 9) [replyKind] true) f (.pull :: moments) :=
    ⟨fun _ => by decide, fun _ => by decide, fun _ => by decide, trivial⟩
  exact ⟨rfl, rfl, room, stream_accounts "now" "s" (some 9) [replyKind] true f rfl rfl moments room⟩

end Reckoner.Feed
