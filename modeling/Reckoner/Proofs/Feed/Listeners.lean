import Reckoner.Feed.Stream
import Reckoner.Proofs.Feed.Calls
import Reckoner.Proofs.Feed.Overtaking
import Reckoner.Proofs.Feed.Waits

namespace Reckoner.Feed

namespace Stream

/-- The stream when an event of a selected kind has been sent. -/
def took (s : Stream) (e : Event) : Stream :=
  { s with sent := s.sent + 1, phase := .running (s.untilReply && e.kind == replyKind) }

/-- The next pull ends the stream. -/
def isOver (s : Stream) : Bool :=
  match s.phase with
  | .running replied => replied || s.isFull
  | _ => false

def isOpen (s : Stream) : Bool :=
  match s.phase with
  | .running _ => true
  | _ => false

theorem running_of_isOpen (s : Stream) (opened : s.isOpen = true) :
    ∃ replied, s.phase = .running replied := by
  cases hp : s.phase with
  | running replied => exact ⟨replied, rfl⟩
  | unopened | closed => simp [isOpen, hp] at opened

end Stream

/-- Listeners on a feed, by the order in which they opened; on a channel they wait under their numbers. -/
structure Audience where
  feed : Feed
  streams : List Stream

namespace Audience

/-- What can happen to listeners, the passing of the time for which one waits included. -/
inductive Act where
  | enter (sessionId : String) (maxEvents : Option Int) (kinds : List String) (untilReply : Bool)
  | pull (i : Nat)
  | close (i : Nat)
  | expire (i : Nat)
  | emit (sessionId kind node : String) (data : Json.Members)

def new (limit : Nat) : Audience := ⟨.new limit, []⟩

def channel (a : Audience) (sessionId : String) : Channel :=
  a.feed.channel sessionId

/-- A listener waits for the next event. -/
def isWaiting (a : Audience) (i : Nat) : Bool :=
  a.streams[i]?.any fun s => (a.channel s.sessionId).waiting.contains i

/-- Whether a listener selects an event. -/
def selects (streams : List Stream) (i : Nat) (e : Event) : Bool :=
  streams[i]?.any (·.selects e)

/-- Those who were woken for events that they do not select take the next ones in turn, until each has one that
it selects or the queue is empty; then they wait again. -/
def goRound (streams : List Stream) : List Event → List Nat →
    List (Nat × Event) × List Nat × List Event
  | queue, [] => ([], [], queue)
  | [], waiters => ([], waiters, [])
  | e :: queue, i :: rest =>
    if selects streams i e then
      ((i, e) :: (goRound streams queue rest).1, (goRound streams queue rest).2)
    else goRound streams queue (rest ++ [i])

/-- Those who were woken for events that they do not select. -/
def unserved (streams : List Stream) (woken : List (Nat × Option Event)) : List Nat :=
  woken.filterMap fun p =>
    match p.2 with
    | some e => if selects streams p.1 e then none else some p.1
    | none => none

/-- Those who were woken for events that they select. -/
def served (streams : List Stream) (woken : List (Nat × Option Event)) : List (Nat × Event) :=
  woken.filterMap fun p =>
    match p.2 with
    | some e => if selects streams p.1 e then some (p.1, e) else none
    | none => none

section

variable (time : String)

/-- What listeners are sent, by number; nothing when a stream has ended. -/
abbrev Sent := List (Nat × Option Frame)

def heartbeats (streams : List Stream) (woken : List (Nat × Option Event)) : Sent :=
  woken.filterMap fun p =>
    match p.2 with
    | some _ => none
    | none => some (p.1, streams[p.1]?.map (·.heartbeat))

def deliver (streams : List Stream) (taken : List (Nat × Event)) : List Stream :=
  taken.foldl (fun streams p => streams.modify p.1 (·.took p.2)) streams

/-- A pull that finds nothing waits; all else is as if the stream were alone. -/
def pull (a : Audience) (i : Nat) (s : Stream) : Audience × Sent :=
  let found := s.nextEvent a.feed
  if !s.isOver && found.1.isNone then
    (⟨found.2.set s.sessionId ((found.2.channel s.sessionId).join i), a.streams⟩, [])
  else
    let after := s.pull time a.feed
    (⟨after.2.2, a.streams.set i after.2.1⟩, [(i, after.1)])

/-- A listener gives its wait up. -/
def quit (a : Audience) (i : Nat) (s : Stream) : Audience :=
  { a with feed := a.feed.set s.sessionId ((a.channel s.sessionId).quit i) }

/-- An event is emitted, and the loop settles: all that are woken take an event in turn. -/
def emit (a : Audience) (sessionId kind node : String) (data : Json.Members) : Audience × Sent :=
  let (feed, woken) := (a.feed.emit sessionId kind node data).1.settle sessionId
  let c := feed.channel sessionId
  let (taken, waiters, queue) := goRound a.streams c.queue (unserved a.streams woken)
  let all := served a.streams woken ++ taken
  (⟨feed.set sessionId { c with queue, waiting := c.waiting ++ waiters }, deliver a.streams all⟩,
    heartbeats a.streams woken ++ all.map fun p => (p.1, some (Stream.frameOf time p.2)))

def act (a : Audience) : Act → Audience × Sent
  | .enter sessionId maxEvents kinds untilReply =>
    let (frame, s, feed) := (Stream.new sessionId maxEvents kinds untilReply).pull time a.feed
    (⟨feed, a.streams ++ [s]⟩, [(a.streams.length, frame)])
  | .pull i =>
    match a.streams[i]? with
    | some s =>
      if !s.isOpen then (a, [(i, none)]) else if a.isWaiting i then (a, []) else a.pull time i s
    | none => (a, [])
  | .close i =>
    match a.streams[i]? with
    | some s =>
      if s.isOpen then
        let (s, feed) := s.close (a.quit i s).feed
        (⟨feed, a.streams.set i s⟩, [])
      else (a, [])
    | none => (a, [])
  | .expire i =>
    match a.streams[i]? with
    | some s => if a.isWaiting i then (a.quit i s, [(i, some s.heartbeat)]) else (a, [])
    | none => (a, [])
  | .emit sessionId kind node data => a.emit time sessionId kind node data

def actAll (a : Audience) : List Act → Audience
  | [] => a
  | x :: rest => actAll (a.act time x).1 rest

end

/-- The sessions to which a listener comes, and those that one leaves. -/
def door (a : Audience) : Act → List (String × Bool)
  | .enter sessionId .. => [(sessionId, true)]
  | .pull i =>
    match a.streams[i]? with
    | some s => if s.isOpen && !a.isWaiting i && s.isOver then [(s.sessionId, false)] else []
    | none => []
  | .close i =>
    match a.streams[i]? with
    | some s => if s.isOpen then [(s.sessionId, false)] else []
    | none => []
  | _ => []

/-- The comings and goings of a run, in order. -/
def doors (time : String) (a : Audience) : List Act → List (String × Bool)
  | [] => []
  | x :: rest => a.door x ++ doors time (a.act time x).1 rest

/-- The last listener of a session who came or went came. -/
def tended (sessionId : String) (before : Bool) (doors : List (String × Bool)) : Bool :=
  doors.foldl (fun was d => if d.1 = sessionId then d.2 else was) before

/-- In a run, no open listener waits while an event is queued for it. -/
def NeverSleeps (time : String) (a : Audience) (acts : List Act) : Prop :=
  ∀ before after, acts = before ++ after → ∀ i s, (a.actAll time before).streams[i]? = some s →
    s.isOpen = true → (a.actAll time before).isWaiting i = true →
      ((a.actAll time before).channel s.sessionId).queue = []

/-- In a run, no event is emitted while a listener waits for it and the last one who came or went has gone. -/
def NeverIgnored (time : String) (a : Audience) (acts : List Act) : Prop :=
  ∀ before sessionId kind node data after, acts = before ++ .emit sessionId kind node data :: after →
    tended sessionId false (a.doors time before) = true ∨
      ((a.actAll time before).channel sessionId).waiting = []

/-- All that can be done to the channels and streams without an event. -/
inductive Move (a a' : Audience) : List (String × Bool) → Prop where
  | kept (same : a' = a) : Move a a' []
  | entered {s : Stream} (opened : s.isOpen = true)
      (channels : a'.channel =
        Function.update a.channel s.sessionId (a.channel s.sessionId).register)
      (streams : a'.streams = a.streams ++ [s]) : Move a a' [(s.sessionId, true)]
  | paused {i : Nat} {s : Stream} (found : a.streams[i]? = some s) (opened : s.isOpen = true)
      (channels : a'.channel = Function.update a.channel s.sessionId
        ({ a.channel s.sessionId with queue := [] }.join i))
      (streams : a'.streams = a.streams) : Move a a' []
  | took {i : Nat} {s : Stream} {e : Event} {rest : List Event} (found : a.streams[i]? = some s)
      (opened : s.isOpen = true)
      (left : (a.channel s.sessionId).queue = [] → rest = [])
      (channels : a'.channel = Function.update a.channel s.sessionId
        { a.channel s.sessionId with queue := rest })
      (streams : a'.streams = a.streams.set i (s.took e)) : Move a a' []
  | left {i : Nat} {s : Stream} (found : a.streams[i]? = some s)
      (channels : a'.channel = Function.update a.channel s.sessionId
        ((a.channel s.sessionId).quit i).unregister)
      (streams : a'.streams = a.streams.set i { s with phase := .closed }) :
      Move a a' [(s.sessionId, false)]
  | expired {i : Nat} {s : Stream} (found : a.streams[i]? = some s)
      (channels : a'.channel = Function.update a.channel s.sessionId
        ((a.channel s.sessionId).quit i))
      (streams : a'.streams = a.streams) : Move a a' []

section

variable {time : String} {a a' : Audience}

/-- What is left in the queue when a stream has looked for its next event. -/
theorem channel_nextEvent (s : Stream) (f : Feed) :
    ∃ rest, (s.nextEvent f).2.channel =
        Function.update f.channel s.sessionId { f.channel s.sessionId with queue := rest } ∧
      ((f.channel s.sessionId).queue = [] → rest = []) ∧
      ((s.nextEvent f).1 = none → rest = []) := by
  unfold Stream.nextEvent
  dsimp only
  split
  · exact ⟨[], Feed.channel_set_eq_update _ _ _, fun _ => rfl, fun _ => rfl⟩
  · rename_i e rest found
    refine ⟨rest, Feed.channel_set_eq_update _ _ _, ?_, ?_⟩
    · intro empty
      rw [empty] at found
      simp at found
    · intro none_found
      simp at none_found

theorem not_mem_waiting {i : Nat} {s : Stream} (found : a.streams[i]? = some s)
    (free : a.isWaiting i = false) : i ∉ (a.channel s.sessionId).waiting := by
  simpa [isWaiting, found] using free

/-- A pull ends an open stream that is over, waits where no event is selected, or takes one. -/
theorem move_pull {i : Nat} {s : Stream} (found : a.streams[i]? = some s) (opened : s.isOpen = true)
    (free : a.isWaiting i = false) :
    Move a (a.pull time i s).1 (if s.isOver then [(s.sessionId, false)] else []) := by
  obtain ⟨rest, feed, short, last⟩ := channel_nextEvent s a.feed
  obtain ⟨replied, hp⟩ := s.running_of_isOpen opened
  have ends : s.isOver = (replied || s.isFull) := by simp [Stream.isOver, hp]
  unfold pull
  cases ended : replied || s.isFull with
  | true =>
    simp only [ends, ended, Bool.not_true, Bool.false_and, Bool.false_eq_true, if_false, if_true,
      Stream.pull, hp, Stream.close]
    refine .left found ?_ rfl
    rw [Channel.quit_of_not_mem (not_mem_waiting found free)]
    exact Feed.channel_unregister a.feed s.sessionId
  | false =>
    simp only [ends, ended, Bool.not_false, Bool.true_and, Bool.false_eq_true, if_false]
    rcases hn : s.nextEvent a.feed with ⟨_ | e, f⟩
    · rw [hn] at feed last
      obtain rfl := last rfl
      refine .paused found opened ?_ rfl
      show (f.set s.sessionId _).channel = _
      rw [Feed.channel_set_eq_update, feed, Function.update_self, Function.update_idem]
      rfl
    · rw [hn] at feed
      simp only [Option.isNone_some, Bool.false_eq_true, if_false, Stream.pull, hp, ended, hn]
      exact .took found opened short feed rfl

/-- Without an event, an action moves the channels and streams so. -/
theorem move_act (time : String) (a : Audience) {x : Act}
    (silent : ∀ sessionId kind node data, x ≠ .emit sessionId kind node data) :
    Move a (a.act time x).1 (a.door x) := by
  cases x with
  | enter sessionId maxEvents kinds untilReply =>
    refine .entered (s := { Stream.new sessionId maxEvents kinds untilReply with
      sent := 1, phase := .running false }) rfl ?_ rfl
    exact Feed.channel_set_eq_update a.feed sessionId _
  | pull i =>
    simp only [act, door]
    cases found : a.streams[i]? with
    | none => exact .kept rfl
    | some s =>
      dsimp only
      cases opened : s.isOpen with
      | false => exact .kept rfl
      | true =>
        cases free : a.isWaiting i with
        | true => exact .kept rfl
        | false => exact move_pull found opened free
  | close i =>
    simp only [act, door]
    cases found : a.streams[i]? with
    | none => exact .kept rfl
    | some s =>
      dsimp only
      cases opened : s.isOpen with
      | false => exact .kept rfl
      | true =>
        obtain ⟨replied, hp⟩ := s.running_of_isOpen opened
        simp only [if_true, Stream.close, hp]
        refine .left found ?_ rfl
        show ((a.quit i s).feed.unregister s.sessionId).channel = _
        rw [Feed.channel_unregister, quit, Feed.channel_set_eq_update, Function.update_self,
          Function.update_idem]
        rfl
  | expire i =>
    simp only [act, door]
    cases found : a.streams[i]? with
    | none => exact .kept rfl
    | some s =>
      dsimp only
      cases waits : a.isWaiting i with
      | false => exact .kept rfl
      | true => exact .expired found (Feed.channel_set_eq_update a.feed s.sessionId _) rfl
  | emit sessionId kind node data => exact absurd rfl (silent sessionId kind node data)

/-- Whoever goes round is somebody who came, and goes on waiting only if nothing is left. -/
theorem goRound_waits (streams : List Stream) (queue : List Event) (waiters : List Nat) :
    (∀ i ∈ (goRound streams queue waiters).2.1, i ∈ waiters) ∧
      ((goRound streams queue waiters).2.1 = [] ∨ (goRound streams queue waiters).2.2 = []) := by
  induction queue generalizing waiters with
  | nil => cases waiters <;> simp [goRound]
  | cons e queue ih =>
    cases waiters with
    | nil => simp [goRound]
    | cons i rest =>
      rw [goRound]
      split
      · obtain ⟨among, left⟩ := ih rest
        exact ⟨fun j hj => List.mem_cons_of_mem i (among j hj), left⟩
      · obtain ⟨among, left⟩ := ih (rest ++ [i])
        refine ⟨?_, left⟩
        intro j hj
        simpa [or_comm] using among j hj

/-- The streams that are woken for an event, and what each is given. -/
def wakes (a : Audience) (sessionId : String) (e : Event) : List (Nat × Option Event) :=
  let c := a.channel sessionId
  (Channel.serve c.woken (c.filled a.feed.limit e)).1

/-- What comes of those who go round. -/
def rounds (a : Audience) (sessionId : String) (e : Event) :
    List (Nat × Event) × List Nat × List Event :=
  goRound a.streams ((a.channel sessionId).posted a.feed.limit e).queue
    (unserved a.streams (a.wakes sessionId e))

/-- An event that is emitted and settled is posted, and wakes those who are to be woken. -/
theorem settle_emit {f : Feed} {sessionId : String} (idle : (f.channel sessionId).pending = [])
    (kind node : String) (data : Json.Members) :
    let c := f.channel sessionId
    let e := c.upcoming sessionId kind node data
    ((f.emit sessionId kind node data).1.settle sessionId).1.channel =
        Function.update f.channel sessionId (c.posted f.limit e) ∧
      ((f.emit sessionId kind node data).1.settle sessionId).2 =
        (Channel.serve c.woken (c.filled f.limit e)).1 := by
  intro c e
  have settles := @Channel.settle_emit f.limit _ idle sessionId kind node data
  have emitted : (f.emit sessionId kind node data).1.channel sessionId =
      (c.emit f.limit sessionId kind node data).1 := by
    rw [Feed.emit, Feed.channel_set, if_pos rfl]
  have limit : (f.emit sessionId kind node data).1.limit = f.limit := rfl
  unfold Feed.settle
  rw [emitted, limit, settles]
  refine ⟨?_, rfl⟩
  rw [Feed.channel_set_eq_update, Feed.emit, Feed.channel_set_eq_update, Function.update_idem]

theorem emit_eq {sessionId : String} (idle : (a.channel sessionId).pending = [])
    (kind node : String) (data : Json.Members) :
    let c := a.channel sessionId
    let e := c.upcoming sessionId kind node data
    let r := a.rounds sessionId e
    (a.emit time sessionId kind node data).1.channel = Function.update a.channel sessionId
        { c.posted a.feed.limit e with
          queue := r.2.2
          waiting := (c.posted a.feed.limit e).waiting ++ r.2.1 } ∧
      (a.emit time sessionId kind node data).1.streams =
        deliver a.streams (served a.streams (a.wakes sessionId e) ++ r.1) := by
  intro c e r
  obtain ⟨feed, woken⟩ := settle_emit idle kind node data
  have there := congrFun feed sessionId
  rw [Function.update_self] at there
  unfold emit
  rcases hs : (a.feed.emit sessionId kind node data).1.settle sessionId with ⟨f, w⟩
  rw [hs] at feed woken there
  dsimp only at feed woken there ⊢
  subst woken
  refine ⟨?_, ?_⟩
  · show (f.set sessionId _).channel = _
    rw [Feed.channel_set_eq_update, feed, Function.update_idem, Function.update_self]
    rfl
  · rw [there]
    rfl

theorem mem_wakes {sessionId : String} {e : Event} {p : Nat × Option Event}
    (hp : p ∈ a.wakes sessionId e) : p.1 ∈ (a.channel sessionId).waiting := by
  have named := List.mem_map_of_mem (f := (·.1)) hp
  rw [wakes, Channel.serve_fst_map] at named
  exact Desk.mem_waiting_of_woken named

/-- Whoever waits after an event has waited before it. -/
theorem mem_rounds {sessionId : String} {e : Event} {i : Nat}
    (hi : i ∈ (a.rounds sessionId e).2.1) : i ∈ (a.channel sessionId).waiting := by
  have again := (goRound_waits _ _ _).1 i hi
  obtain ⟨p, hp, named⟩ := List.mem_filterMap.mp again
  have woken := mem_wakes hp
  split at named
  · split at named
    · simp at named
    · obtain rfl := Option.some.inj named
      exact woken
  · simp at named

/-- What is delivered to a stream leaves it open, and a stream of its session. -/
theorem getElem?_deliver (taken : List (Nat × Event)) {streams : List Stream} {i : Nat} {s : Stream}
    (found : streams[i]? = some s) :
    ∃ s', (deliver streams taken)[i]? = some s' ∧ s'.sessionId = s.sessionId ∧
      (s.isOpen = true → s'.isOpen = true) := by
  induction taken generalizing streams s with
  | nil => exact ⟨s, found, rfl, id⟩
  | cons p rest ih =>
    have first : (streams.modify p.1 (·.took p.2))[i]? =
        some (if p.1 = i then s.took p.2 else s) := by
      rw [List.getElem?_modify, found]
      split <;> rfl
    obtain ⟨s', later, session, opened⟩ := ih first
    refine ⟨s', later, ?_, ?_⟩
    · rw [session]
      split <;> rfl
    · intro before
      apply opened
      split
      · rfl
      · exact before

end

/-- Nothing is pending, the channels know for which sessions the last listener who came or went came, and
whoever waits is an open listener of that session. -/
structure Attended (limit : Nat) (tend : String → Bool) (a : Audience) : Prop where
  keeps : a.feed.limit = limit
  idle : ∀ s, (a.channel s).pending = []
  tended : ∀ s, ((a.channel s).registered && (a.channel s).listening) = tend s
  present : ∀ s i, i ∈ (a.channel s).waiting →
    ∃ st, a.streams[i]? = some st ∧ st.sessionId = s ∧ st.isOpen = true

/-- Nobody waits while an event is queued. -/
def Awake (a : Audience) : Prop :=
  ∀ s, (a.channel s).waiting = [] ∨ (a.channel s).queue = []

section

variable {time : String} {limit : Nat} {tend : String → Bool} {a a' : Audience}
  {ds : List (String × Bool)}

theorem attended_new (limit : Nat) : Attended limit (fun _ => false) (new limit) where
  keeps := rfl
  idle _ := rfl
  tended _ := rfl
  present s i h := by simp [new, channel, Feed.new, Feed.channel, Table.get?, Table.empty,
    Channel.new] at h

theorem limit_close (s : Stream) (f : Feed) : (s.close f).2.limit = f.limit := by
  unfold Stream.close
  split
  · exact Desk.limit_unregister f s.sessionId
  · rfl

theorem limit_nextEvent (s : Stream) (f : Feed) : (s.nextEvent f).2.limit = f.limit := by
  unfold Stream.nextEvent
  dsimp only
  split <;> rfl

theorem limit_streamPull (time : String) (s : Stream) (f : Feed) :
    (s.pull time f).2.2.limit = f.limit := by
  have looked := limit_nextEvent s f
  unfold Stream.pull
  split
  · rfl
  · rfl
  · split
    · exact limit_close s f
    · split <;> rename_i h <;> rw [h] at looked <;> exact looked

theorem limit_act (time : String) (a : Audience) (x : Act) :
    (a.act time x).1.feed.limit = a.feed.limit := by
  cases x with
  | enter sessionId maxEvents kinds untilReply => rfl
  | pull i =>
    simp only [act]
    split
    · split
      · rfl
      · split
        · rfl
        · unfold pull
          dsimp only
          split
          · exact limit_nextEvent _ a.feed
          · exact limit_streamPull time _ a.feed
    · rfl
  | close i =>
    simp only [act]
    split
    · split
      · exact limit_close _ _
      · rfl
    · rfl
  | expire i =>
    simp only [act]
    split
    · split <;> rfl
    · rfl
  | emit sessionId kind node data => rfl

theorem Attended.idle_move (h : Attended limit tend a) (m : Move a a' ds) (s : String) :
    (a'.channel s).pending = [] := by
  have kept := h.idle
  cases m with
  | kept same =>
    rw [same]
    exact kept s
  | entered _ channels | paused _ _ channels | took _ _ _ channels | left _ channels
  | expired _ channels =>
    rw [channels, Function.update_apply]
    split
    · exact kept _
    · exact kept s

theorem Attended.tended_move (h : Attended limit tend a) (m : Move a a' ds) (s : String) :
    ((a'.channel s).registered && (a'.channel s).listening) =
      Audience.tended s (tend s) ds := by
  have kept := h.tended
  cases m with
  | kept same =>
    rw [same]
    exact kept s
  | @entered st _ channels =>
    rw [channels, Function.update_apply, Audience.tended, List.foldl_cons, List.foldl_nil]
    by_cases same : s = st.sessionId
    · simp [same, Channel.register]
    · simpa [same, Ne.symm same] using kept s
  | @left _ st _ channels =>
    rw [channels, Function.update_apply, Audience.tended, List.foldl_cons, List.foldl_nil]
    by_cases same : s = st.sessionId
    · simp [same, Channel.unregister]
    · simpa [same, Ne.symm same] using kept s
  | @paused _ st _ _ channels | @took _ st _ _ _ _ _ channels | @expired _ st _ channels =>
    rw [channels, Function.update_apply, Audience.tended, List.foldl_nil]
    by_cases same : s = st.sessionId
    · rw [if_pos same, same]
      exact kept _
    · rw [if_neg same]
      exact kept s

/-- Whoever waits after one channel has changed waited before, unless the change let it in. -/
theorem waiting_of_update {s t : String} {c : Channel} {i : Nat}
    (channels : a'.channel = Function.update a.channel t c) (hi : i ∈ (a'.channel s).waiting)
    (within : c.waiting ⊆ (a.channel t).waiting) : i ∈ (a.channel s).waiting := by
  rw [channels, Function.update_apply] at hi
  split at hi
  · rename_i same
    rw [same]
    exact within hi
  · exact hi

theorem Attended.present_move (h : Attended limit tend a) (m : Move a a' ds) (s : String) (i : Nat)
    (hi : i ∈ (a'.channel s).waiting) :
    ∃ st, a'.streams[i]? = some st ∧ st.sessionId = s ∧ st.isOpen = true := by
  have kept := h.present
  cases m with
  | kept same =>
    rw [same] at hi ⊢
    exact kept s i hi
  | @entered st _ channels streams =>
    obtain ⟨own, found, rest⟩ := kept s i (waiting_of_update channels hi fun _ old => old)
    refine ⟨own, ?_, rest⟩
    rw [streams, List.getElem?_append_left (List.getElem?_eq_some_iff.mp found).1]
    exact found
  | @paused j st found opened channels streams =>
    rw [streams]
    rw [channels, Function.update_apply] at hi
    split at hi
    · rename_i same
      subst same
      rcases List.mem_append.mp hi with before | here
      · exact kept _ i before
      · rw [List.mem_singleton.mp here]
        exact ⟨st, found, rfl, opened⟩
    · exact kept s i hi
  | @took j st e rest found opened _ channels streams =>
    obtain ⟨own, there, session, still⟩ := kept s i (waiting_of_update channels hi fun _ old => old)
    rw [streams]
    by_cases same : j = i
    · subst same
      obtain rfl : st = own := Option.some.inj (found.symm.trans there)
      refine ⟨_, List.getElem?_set_self (List.getElem?_eq_some_iff.mp found).1, session, rfl⟩
    · exact ⟨own, by rw [List.getElem?_set_ne same, there], session, still⟩
  | @left j st found channels streams =>
    have before := waiting_of_update channels hi (List.filter_subset_self _)
    obtain ⟨own, there, session, still⟩ := kept s i before
    -- Whoever leaves gives its wait up, and it has waited nowhere else.
    have apart : j ≠ i := by
      rintro rfl
      obtain rfl : st = own := Option.some.inj (found.symm.trans there)
      rw [channels, session, Function.update_self] at hi
      simp [Channel.unregister, Channel.quit] at hi
    rw [streams]
    exact ⟨own, by rw [List.getElem?_set_ne apart, there], session, still⟩
  | @expired j st found channels streams =>
    rw [streams]
    exact kept s i (waiting_of_update channels hi (List.filter_subset_self _))

theorem Awake.move (h : Awake a) (m : Move a a' ds) : Awake a' := by
  intro s
  have kept := h
  cases m with
  | kept same =>
    rw [same]
    exact kept s
  | @entered st _ channels =>
    rw [channels, Function.update_apply]
    split
    · exact kept st.sessionId
    · exact kept s
  | paused _ _ channels =>
    rw [channels, Function.update_apply]
    split
    · exact Or.inr rfl
    · exact kept s
  | @took _ st _ _ _ _ left channels =>
    rw [channels, Function.update_apply]
    split
    · exact (kept st.sessionId).imp id left
    · exact kept s
  | @left j st _ channels | @expired j st _ channels =>
    rw [channels, Function.update_apply]
    split
    · refine (kept st.sessionId).imp ?_ id
      intro nobody
      show (a.channel st.sessionId).waiting.filter (· != j) = []
      rw [nobody]
      rfl
    · exact kept s

/-- In a session that is tended, everybody who waits is woken. -/
theorem Attended.posted_tended (h : Attended limit tend a) {s : String} (came : tend s = true)
    (e : Event) : ((a.channel s).posted limit e).waiting = [] := by
  have heard := h.tended s
  rw [came] at heard
  simp [Channel.posted, Channel.woken, heard]

/-- In a session that is not tended, nobody is woken. -/
theorem Attended.posted_untended (h : Attended limit tend a) {s : String} (left : tend s = false)
    (e : Event) : a.wakes s e = [] ∧
      ((a.channel s).posted limit e).waiting = (a.channel s).waiting ∧
      ((a.channel s).posted limit e).queue = Channel.lastOf limit ((a.channel s).queue ++ [e]) := by
  have deaf := h.tended s
  rw [left] at deaf
  simp [Channel.posted, Channel.woken, wakes, Channel.filled, Channel.serve, deaf]

theorem Attended.rounds_untended (h : Attended limit tend a) {s : String} (left : tend s = false)
    (e : Event) :
    a.rounds s e = ([], [], Channel.lastOf limit ((a.channel s).queue ++ [e])) := by
  obtain ⟨asleep, -, queue⟩ := h.posted_untended left e
  rw [rounds, h.keeps, asleep, queue]
  cases Channel.lastOf limit ((a.channel s).queue ++ [e]) <;> rfl

theorem Attended.emit (h : Attended limit tend a) (s kind node : String) (data : Json.Members) :
    Attended limit tend (a.emit time s kind node data).1 := by
  obtain ⟨channels, streams⟩ := @emit_eq time a s (h.idle s) kind node data
  constructor
  · exact h.keeps
  · intro other
    rw [channels, Function.update_apply]
    split
    · exact h.idle s
    · exact h.idle other
  · intro other
    rw [channels, Function.update_apply]
    split
    · rename_i same
      rw [same]
      exact h.tended s
    · exact h.tended other
  · intro other i hi
    have before : i ∈ (a.channel other).waiting := by
      rw [channels, Function.update_apply] at hi
      split at hi
      · rename_i same
        rw [same]
        rcases List.mem_append.mp hi with still | again
        · exact List.mem_of_mem_drop still
        · exact mem_rounds again
      · exact hi
    obtain ⟨st, found, session, opened⟩ := h.present other i before
    rw [streams]
    obtain ⟨st', there, session', opened'⟩ := getElem?_deliver _ found
    exact ⟨st', there, session'.trans session, opened' opened⟩

/-- An event that somebody is woken for, or that nobody waits for, leaves nobody asleep. -/
theorem Awake.emit (awake : Awake a) (h : Attended limit tend a) {s : String}
    (heard : limit = 0 ∨ tend s = true ∨ (a.channel s).waiting = []) (kind node : String)
    (data : Json.Members) : Awake (a.emit time s kind node data).1 := by
  obtain ⟨channels, -⟩ := @emit_eq time a s (h.idle s) kind node data
  intro other
  rw [channels, Function.update_apply]
  split
  · dsimp only
    rw [h.keeps]
    cases ht : tend s with
    | true =>
      rw [h.posted_tended ht, List.nil_append]
      exact (goRound_waits _ _ _).2
    | false =>
      rw [h.rounds_untended ht, (h.posted_untended ht _).2.1, List.append_nil]
      rcases heard with rfl | tended | nobody
      · exact Or.inr (by simp [Channel.lastOf])
      · simp [ht] at tended
      · exact Or.inl nobody
  · exact awake other

/-- An event that nobody is woken for leaves those who wait asleep. -/
theorem Attended.emit_ignored (h : Attended limit tend a) (room : 0 < limit) {s : String}
    (left : tend s = false) (kind node : String) (data : Json.Members) :
    ((a.emit time s kind node data).1.channel s).waiting = (a.channel s).waiting ∧
      ((a.emit time s kind node data).1.channel s).queue ≠ [] := by
  obtain ⟨channels, -⟩ := @emit_eq time a s (h.idle s) kind node data
  rw [channels, Function.update_self]
  dsimp only
  rw [h.keeps, h.rounds_untended left, (h.posted_untended left _).2.1, List.append_nil]
  refine ⟨rfl, ?_⟩
  have kept := Channel.mem_lastOf_append room (a.channel s).queue
    ((a.channel s).upcoming s kind node data)
  exact List.ne_nil_of_mem kept

theorem Attended.move (h : Attended limit tend a) (m : Move a a' ds)
    (keeps : a'.feed.limit = a.feed.limit) :
    Attended limit (fun s => Audience.tended s (tend s) ds) a' where
  keeps := keeps.trans h.keeps
  idle := h.idle_move m
  tended := h.tended_move m
  present := h.present_move m

theorem Attended.act (h : Attended limit tend a) (x : Act) :
    Attended limit (fun s => Audience.tended s (tend s) (a.door x)) (a.act time x).1 := by
  have keeps := limit_act time a x
  cases x with
  | emit s kind node data => exact h.emit s kind node data
  | _ => exact h.move (move_act time a (by simp)) keeps

theorem tended_append (s : String) (before : Bool) (x y : List (String × Bool)) :
    Audience.tended s before (x ++ y) = Audience.tended s (Audience.tended s before x) y :=
  List.foldl_append

theorem Attended.actAll (h : Attended limit tend a) (acts : List Act) :
    Attended limit (fun s => Audience.tended s (tend s) (a.doors time acts))
      (a.actAll time acts) := by
  induction acts generalizing a tend with
  | nil => exact h
  | cons x rest ih =>
    have first : Attended limit _ (a.act time x).1 := h.act x
    have later := ih first
    simp only [← tended_append] at later
    exact later

theorem actAll_concat (time : String) (a : Audience) (before : List Act) (x : Act) :
    a.actAll time (before ++ [x]) = ((a.actAll time before).act time x).1 := by
  induction before generalizing a with
  | nil => rfl
  | cons b rest ih => exact ih _

/-- Whoever waits on a channel is asleep if an event is queued there. -/
theorem Attended.asleep (h : Attended limit tend a) {s : String}
    (waits : (a.channel s).waiting ≠ []) : ∃ i st, a.streams[i]? = some st ∧ st.sessionId = s ∧
      st.isOpen = true ∧ a.isWaiting i = true := by
  obtain ⟨i, hi⟩ := List.exists_mem_of_ne_nil _ waits
  obtain ⟨st, found, rfl, opened⟩ := h.present s i hi
  exact ⟨i, st, found, rfl, opened, by simpa [isWaiting, found] using hi⟩

theorem Awake.act (awake : Awake a) (h : Attended limit tend a) {x : Act}
    (heard : ∀ s kind node data, x = .emit s kind node data →
      limit = 0 ∨ tend s = true ∨ (a.channel s).waiting = []) : Awake (a.act time x).1 := by
  cases x with
  | emit s kind node data => exact awake.emit h (heard s kind node data rfl) kind node data
  | _ => exact awake.move (move_act time a (by simp))

/-- Where no event is ignored, nobody is left asleep. -/
theorem Awake.actAll (awake : Awake a) (h : Attended limit tend a) {acts : List Act}
    (heard : ∀ before s kind node data after, acts = before ++ .emit s kind node data :: after →
      limit = 0 ∨ Audience.tended s (tend s) (a.doors time before) = true ∨
        ((a.actAll time before).channel s).waiting = []) : Awake (a.actAll time acts) := by
  induction acts generalizing a tend with
  | nil => exact awake
  | cons x rest ih =>
    refine ih (awake.act h ?_) (h.act x) ?_
    · rintro s kind node data rfl
      exact heard [] s kind node data rest rfl
    · intro before s kind node data after split
      have later := heard (x :: before) s kind node data after (by rw [split]; rfl)
      rw [doors, tended_append] at later
      exact later

end

/-- A listener waits while an event is queued for it exactly in the runs in which an event is emitted while a
listener waits and the last one of its session who came or went has gone, unless queues have no room. -/
theorem neverSleeps_iff (time : String) (limit : Nat) (acts : List Act) :
    NeverSleeps time (new limit) acts ↔ limit = 0 ∨ NeverIgnored time (new limit) acts := by
  have fresh := attended_new limit
  constructor
  · -- Whoever is ignored is asleep at once.
    intro wakeful
    rcases Nat.eq_zero_or_pos limit with none_kept | room
    · exact Or.inl none_kept
    · refine Or.inr ?_
      intro before s kind node data after split
      have there : Attended limit _ ((new limit).actAll time before) := fresh.actAll before
      by_contra ignored
      obtain ⟨left, waits⟩ := not_or.mp ignored
      obtain ⟨still, queued⟩ := @Attended.emit_ignored time _ _ _ there room s
        (Bool.eq_false_iff.mpr left) kind node data
      have later : Attended limit _ (((new limit).actAll time before).emit time s kind node data).1 :=
        there.emit s kind node data
      obtain ⟨i, st, found, session, opened, waiting⟩ := later.asleep (by rwa [still])
      have empty := wakeful (before ++ [.emit s kind node data]) after (by rw [split]; simp) i st
      rw [actAll_concat, session] at empty
      exact queued (empty found opened waiting)
  · intro heard before after split i s found _ waiting
    have awake : Awake ((new limit).actAll time before) := by
      refine Awake.actAll (fun _ => Or.inl rfl) fresh ?_
      intro first s kind node data rest here
      refine heard.imp id (fun heard => heard first s kind node data (rest ++ after) ?_)
      rw [split, here, List.append_assoc]
      rfl
    have waits : i ∈ (((new limit).actAll time before).channel s.sessionId).waiting := by
      simpa [isWaiting, found] using waiting
    exact (awake s.sessionId).resolve_left (List.ne_nil_of_mem waits)

/-- One listener waits, another comes and goes, and the next event wakes nobody. -/
theorem left_listener_sleeps :
    ¬ NeverSleeps "now" (new 200) [.enter "s" none kinds false, .pull 0, .enter "s" none kinds false,
      .close 1, .emit "s" "stage" "extract_expression" []] := by
  intro wakeful
  have empty := wakeful _ [] (List.append_nil _).symm 0
    { Stream.new "s" none kinds false with sent := 1, phase := .running false } (by rfl) (by rfl) (by rfl)
  exact List.cons_ne_nil _ _ empty

end Audience

end Reckoner.Feed
