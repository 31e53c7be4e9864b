import Reckoner.Proofs.Feed.Rounds

namespace Reckoner.Feed

/-- A reply that has been taken from the queue is the last event that is taken, and after it there is no
round but the end. -/
def EndsAtReply (rounds : List Round) : Prop :=
  ∀ before r after e, rounds = before ++ r :: after → r.taken? = some e → e.kind = replyKind →
    ∀ x ∈ after, x = .ended

namespace Stream

/-- The next round ends the stream, or one has. -/
def isDone (s : Stream) : Bool :=
  s.isOver || s.phase = .closed

/-- A stream that has opened and is not over looks for the next event. -/
def looks (s : Stream) : Bool :=
  s.isOpen && !s.isOver

/-- All that a round can be, and what it makes of the stream. -/
inductive Makes (s : Stream) : Round → Stream → Prop where
  | opened (fresh : s.phase = .unopened) : Makes s .opened { s with sent := 1, phase := .running false }
  | ended {after : Stream} (done : s.isDone = true) (still : after.isDone = true) : Makes s .ended after
  | idle (looks : s.looks = true) : Makes s .idle s
  | sent {e : Event} (looks : s.looks = true) (chosen : s.selects e = true) : Makes s (.sent e) (s.took e)
  | dropped {e : Event} (looks : s.looks = true) (passed : s.selects e = false) : Makes s (.dropped e) s

/-- A stream that a reply ends: it is done, it is to end with a reply and selects replies, or it is still to
open and has room for the ready frame alone. -/
inductive Heeds (s : Stream) : Prop where
  | done (done : s.isDone = true)
  | selecting (asked : s.untilReply = true) (selected : s.kinds.contains replyKind = true)
  | brief (fresh : s.phase = .unopened) {limit : Int} (bound : s.maxEvents = some limit)
      (small : limit ≤ 1)

section

variable {s after : Stream} {f : Feed} {r : Round} {e : Event}

theorem isDone_close (s : Stream) (f : Feed) : (s.close f).1.isDone = true := by
  unfold close
  split <;> simp [isDone]

/-- A stream is still to open, or done, or looks for the next event. -/
theorem looks_eq (fresh : s.phase ≠ .unopened) : s.looks = !s.isDone := by
  cases phase : s.phase with
  | unopened => exact absurd phase fresh
  | closed | running replied => simp [looks, isOpen, isDone, isOver, phase]

theorem makes_round (s : Stream) (f : Feed) : Makes s (s.round f).1 (s.round f).2.1 := by
  by_cases fresh : s.phase = .unopened
  · simp only [round, fresh]
    exact .opened fresh
  · have either := looks_eq fresh
    cases done : s.isDone with
    | true =>
      cases ends : s.isOver with
      | true =>
        rw [round_of_isOver ends]
        exact .ended done (isDone_close s f)
      | false =>
        have closed : s.phase = .closed := by simpa [isDone, ends] using done
        simp only [round, closed]
        exact .ended done done
    | false =>
      have on : s.looks = true := by rw [either, done]; rfl
      obtain ⟨opened, goes_on⟩ : s.isOpen = true ∧ s.isOver = false := by simpa [looks] using on
      cases queued : (f.channel s.sessionId).queue with
      | nil =>
        rw [round_of_nil opened goes_on queued]
        exact .idle on
      | cons e rest =>
        rw [round_of_cons opened goes_on queued]
        cases chosen : s.selects e with
        | true => exact .sent on chosen
        | false => exact .dropped on chosen

/-- A stream that is done only ends, and stays done. -/
theorem Makes.of_isDone (h : Makes s r after) (done : s.isDone = true) :
    r = .ended ∧ after.isDone = true := by
  have fresh : s.phase ≠ .unopened := by
    intro unopened
    simp [isDone, isOver, unopened] at done
  have rests : s.looks = false := by rw [looks_eq fresh, done]; rfl
  cases h with
  | opened unopened => exact absurd unopened fresh
  | ended _ still => exact ⟨rfl, still⟩
  | idle looks | sent looks | dropped looks =>
    rw [rests] at looks
    cases looks

theorem rounds_of_isDone (done : s.isDone = true) (f : Feed) (happenings : List Happening) :
    ∀ x ∈ rounds s f happenings, x = .ended := by
  induction happenings generalizing s f with
  | nil => simp [rounds]
  | cons h rest ih =>
    cases h with
    | round =>
      obtain ⟨ends, still⟩ := (makes_round s f).of_isDone done
      intro x hx
      rcases List.mem_cons.mp hx with rfl | later
      · exact ends
      · exact ih still _ x later
    | call sessionId c => exact ih done _

/-- What a reply is to end goes on being so, and a reply that is taken ends it. -/
theorem Makes.heeds (h : Makes s r after) (heeds : Heeds s) :
    Heeds after ∧ ∀ e, r.taken? = some e → e.kind = replyKind → after.isDone = true := by
  cases heeds with
  | done done =>
    obtain ⟨rfl, still⟩ := h.of_isDone done
    exact ⟨.done still, fun e taken => by cases taken⟩
  | selecting asked selected =>
    cases h with
    | opened => exact ⟨.selecting asked selected, fun e taken => by cases taken⟩
    | ended _ still => exact ⟨.done still, fun e taken => by cases taken⟩
    | idle => exact ⟨.selecting asked selected, fun e taken => by cases taken⟩
    | @sent e looks chosen =>
      refine ⟨.selecting asked selected, ?_⟩
      rintro _ taken reply
      obtain rfl := Option.some.inj taken
      simp [isDone, isOver, took, asked, reply]
    | @dropped e looks passed =>
      refine ⟨.selecting asked selected, ?_⟩
      rintro _ taken reply
      obtain rfl := Option.some.inj taken
      rw [selects, reply, selected] at passed
      cases passed
  | brief fresh bound small =>
    have unopened : s.looks = false := by simp [looks, isOpen, fresh]
    cases h with
    | opened =>
      refine ⟨.done ?_, fun e taken => by cases taken⟩
      simpa [isDone, isOver, isFull, bound] using small
    | ended _ still => exact ⟨.done still, fun e taken => by cases taken⟩
    | idle looks | sent looks | dropped looks =>
      rw [unopened] at looks
      cases looks

/-- Whatever else happens, a stream that a reply ends has ended with it. -/
theorem Heeds.endsAtReply (heeds : Heeds s) (f : Feed) (happenings : List Happening) :
    EndsAtReply (rounds s f happenings) := by
  induction happenings generalizing s f with
  | nil =>
    intro before r after e split
    simp [rounds] at split
  | cons h rest ih =>
    cases h with
    | round =>
      obtain ⟨still, ends⟩ := (makes_round s f).heeds heeds
      intro before r after e split taken reply
      cases before with
      | nil =>
        obtain ⟨rfl, rfl⟩ := List.cons.inj split
        exact rounds_of_isDone (ends e taken reply) _ rest
      | cons _ before =>
        exact ih still _ before r after e (List.cons.inj split).2 taken reply
    | call sessionId c => exact ih heeds _

/-- A stream that passes an event over takes the next one as well. -/
theorem rounds_of_passed {other : Event} {rest : List Event} (looks : s.looks = true)
    (passed : s.selects e = false) (queued : (f.channel s.sessionId).queue = e :: other :: rest) :
    ∃ x, rounds s f [.round, .round] = [.dropped e, x] ∧ x.taken? = some other := by
  obtain ⟨opened, goes_on⟩ : s.isOpen = true ∧ s.isOver = false := by simpa [Stream.looks] using looks
  have first := round_of_cons opened goes_on queued
  simp only [passed, Bool.false_eq_true, if_false] at first
  have left : ((f.set s.sessionId { f.channel s.sessionId with queue := other :: rest }).channel
      s.sessionId).queue = other :: rest := by
    rw [channel_set, if_pos rfl]
  have second := round_of_cons opened goes_on left
  simp only [rounds, first, second]
  cases s.selects other with
  | true => exact ⟨.sent other, rfl, rfl⟩
  | false => exact ⟨.dropped other, rfl, rfl⟩

end

/-- Somebody emits a reply and then another event, and a stream makes three rounds. -/
def afterReply (sessionId : String) : List Happening :=
  [.call sessionId (.emit replyKind "conversation" []),
    .call sessionId (.emit stageKind "extract_expression" []), .round, .round, .round]

/-- A stream that selects no replies takes another event after the reply. -/
theorem rounds_afterReply (sessionId : String) {maxEvents : Option Int} {kinds : List String}
    (passed : kinds.contains replyKind = false) (room : ∀ limit ∈ maxEvents, 1 < limit) :
    ∃ e x, rounds (.new sessionId maxEvents kinds true) (.new 2) (afterReply sessionId) =
      [.opened, .dropped e, x] ∧ e.kind = replyKind ∧ x ≠ .ended := by
  let told := (((Feed.new 2).call sessionId (.emit replyKind "conversation" [])).1.call sessionId
    (.emit stageKind "extract_expression" [])).1
  have queued : ((told.register sessionId).channel sessionId).queue =
      [⟨sessionId, 1, replyKind, "conversation", []⟩, ⟨sessionId, 2, stageKind, "extract_expression", []⟩] := by
    show ((told.set sessionId _).channel sessionId).queue = _
    rw [channel_set, if_pos rfl, (call_eq _ _ _).1, Function.update_self, (call_eq _ _ _).1,
      Function.update_self]
    rfl
  have looks : Stream.looks ⟨sessionId, maxEvents, kinds, true, 1, .running false⟩ = true := by
    cases bound : maxEvents with
    | none => rfl
    | some limit =>
      have wide := room limit bound
      simpa [Stream.looks, isOpen, isOver, isFull] using wide
  obtain ⟨x, made, more⟩ :=
    @rounds_of_passed _ _ ⟨sessionId, 1, replyKind, "conversation", []⟩ _ _ looks passed queued
  refine ⟨_, x, congrArg (Round.opened :: ·) made, rfl, ?_⟩
  rintro rfl
  cases more

end Stream

/-- Of the streams that are to end with the next reply, exactly those do so whatever is queued and happens that
select replies or have no room for any event. -/
theorem endsAtReply_iff (sessionId : String) (maxEvents : Option Int) (kinds : List String) :
    (∀ f happenings, EndsAtReply (rounds (.new sessionId maxEvents kinds true) f happenings)) ↔
      kinds.contains replyKind = true ∨ ∃ limit, maxEvents = some limit ∧ limit ≤ 1 := by
  constructor
  · intro ends
    by_contra neither
    obtain ⟨passed, room⟩ := not_or.mp neither
    have wide : ∀ limit ∈ maxEvents, 1 < limit := by
      intro limit bound
      by_contra small
      exact room ⟨limit, bound, Int.not_lt.mp small⟩
    obtain ⟨e, x, made, reply, more⟩ :=
      Stream.rounds_afterReply sessionId (Bool.eq_false_iff.mpr passed) wide
    exact more (ends _ _ [.opened] (.dropped e) [x] e made rfl reply x (List.mem_singleton_self x))
  · rintro (selected | ⟨limit, bound, small⟩) f happenings
    · exact Stream.Heeds.endsAtReply (.selecting rfl selected) f happenings
    · exact Stream.Heeds.endsAtReply (.brief rfl bound small) f happenings

/-- A stream of stage events alone is asked to end with the next reply, and sends the stage event that comes
after it. -/
theorem unselected_reply_ends_nothing :
    ¬ EndsAtReply (rounds (.new "s" none [stageKind] true) (.new 2) (Stream.afterReply "s")) := by
  intro ends
  have more := ends [.opened] (.dropped ⟨"s", 1, replyKind, "conversation", []⟩)
    [.sent ⟨"s", 2, stageKind, "extract_expression", []⟩] _ rfl rfl rfl _ (List.mem_singleton_self _)
  cases more

end Reckoner.Feed
