import Reckoner.Proofs.Feed.Listeners

namespace Reckoner.Feed

/-- In each round of its loop a stream opens, ends, or takes the oldest event that is queued, which it sends or drops;
it finds out that nothing is queued in a round of its own. -/
inductive Round where
  | opened
  | ended
  | idle
  | dropped (e : Event)
  | sent (e : Event)

/-- The event that is taken from the queue in a round. -/
def Round.taken? : Round → Option Event
  | .dropped e | .sent e => some e
  | .opened | .ended | .idle => none

namespace Stream

def round (s : Stream) (f : Feed) : Round × Stream × Feed :=
  match s.phase with
  | .unopened => (.opened, { s with sent := 1, phase := .running false }, f.register s.sessionId)
  | .closed => (.ended, s, f)
  | .running replied =>
    if replied || s.isFull then (.ended, s.close f)
    else
      match Desk.next f s.sessionId with
      | (f, .ok e) => if s.selects e then (.sent e, s.took e, f) else (.dropped e, s, f)
      | (f, .error _) => (.idle, s, f)

/-- What the listener has of a round: nothing yet if an event has been dropped, and no frame at the end. -/
def shows (time : String) (s : Stream) : Round → Option (Option Frame)
  | .opened => some (some s.ready)
  | .ended => some none
  | .idle => some (some s.heartbeat)
  | .dropped _ => none
  | .sent e => some (some (frameOf time e))

/-- Rounds until there is something for the listener, at most so many. -/
def untilShown (time : String) : Nat → Stream → Feed → Option Frame × Stream × Feed
  | 0, s, f => (none, s, f)
  | n + 1, s, f =>
    match s.shows time (s.round f).1 with
    | some frame => (frame, (s.round f).2)
    | none => untilShown time n (s.round f).2.1 (s.round f).2.2

section

variable {s : Stream} {f : Feed} {e : Event} {rest : List Event}

/-- A stream that is over ends. -/
theorem round_of_isOver (ends : s.isOver = true) : s.round f = (.ended, s.close f) := by
  unfold isOver at ends
  split at ends
  · rename_i replied phase
    simp only [round, phase, ends, if_true]
  · cases ends

/-- A stream that goes on takes the oldest event. -/
theorem round_of_cons (opened : s.isOpen = true) (goes_on : s.isOver = false)
    (queued : (f.channel s.sessionId).queue = e :: rest) :
    let left := f.set s.sessionId { f.channel s.sessionId with queue := rest }
    s.round f = if s.selects e then (.sent e, s.took e, left) else (.dropped e, s, left) := by
  obtain ⟨replied, phase⟩ := s.running_of_isOpen opened
  have within : (replied || s.isFull) = false := by simpa [isOver, phase] using goes_on
  simp only [round, phase, within, Desk.next_of_cons queued, Bool.false_eq_true, if_false]

/-- A stream that goes on finds out that nothing is queued. -/
theorem round_of_nil (opened : s.isOpen = true) (goes_on : s.isOver = false)
    (empty : (f.channel s.sessionId).queue = []) :
    s.round f = (.idle, s, f.set s.sessionId (f.channel s.sessionId)) := by
  obtain ⟨replied, phase⟩ := s.running_of_isOpen opened
  have within : (replied || s.isFull) = false := by simpa [isOver, phase] using goes_on
  simp only [round, phase, within, Desk.next_of_nil empty, Bool.false_eq_true, if_false]

/-- While a stream goes on, a pull is the rounds up to the first one that shows something. -/
theorem untilShown_of_goes_on (time : String) (opened : s.isOpen = true) (goes_on : s.isOver = false)
    {n : Nat} (enough : (f.channel s.sessionId).queue.length < n) :
    untilShown time n s f = s.pull time f := by
  obtain ⟨replied, phase⟩ := s.running_of_isOpen opened
  have within : (replied || s.isFull) = false := by simpa [isOver, phase] using goes_on
  simp only [pull, phase, within, Bool.false_eq_true, if_false]
  induction n generalizing f with
  | zero => exact absurd enough (Nat.not_lt_zero _)
  | succ n ih =>
    rw [untilShown]
    cases queued : (f.channel s.sessionId).queue with
    | nil =>
      have whole : ({ f.channel s.sessionId with queue := [] } : Channel) = f.channel s.sessionId := by
        rw [← queued]
      rw [round_of_nil opened goes_on queued]
      simp only [shows, nextEvent, queued, List.dropWhile_nil, whole]
    | cons e rest =>
      rw [round_of_cons opened goes_on queued]
      cases chosen : s.selects e with
      | true =>
        simp only [if_true, shows, took, nextEvent, queued, List.dropWhile_cons, chosen, Bool.not_true,
          Bool.false_eq_true, if_false]
      | false =>
        have shorter : ((f.set s.sessionId { f.channel s.sessionId with queue := rest }).channel
            s.sessionId).queue.length < n := by
          rw [queued, List.length_cons] at enough
          simp only [channel_set, if_true]
          omega
        simp only [Bool.false_eq_true, if_false, shows]
        rw [ih shorter]
        simp only [nextEvent, queued, List.dropWhile_cons, chosen, Bool.not_false, if_true,
          channel_set, set_set]

/-- A pull is made of rounds. -/
theorem pull_eq_untilShown (time : String) (s : Stream) (f : Feed) :
    s.pull time f = untilShown time ((f.channel s.sessionId).queue.length + 1) s f := by
  cases phase : s.phase with
  | unopened | closed => simp [pull, untilShown, round, shows, phase]
  | running replied =>
    have opened : s.isOpen = true := by simp [isOpen, phase]
    cases ends : s.isOver with
    | true =>
      have ended : (replied || s.isFull) = true := by simpa [isOver, phase] using ends
      rw [untilShown, round_of_isOver ends]
      simp only [shows, pull, phase, ended, if_true]
    | false => exact (untilShown_of_goes_on time opened ends (Nat.lt_succ_self _)).symm

end

end Stream

/-- What happens while a stream is there: it goes a round, or somebody makes a call on a channel. -/
inductive Happening where
  | round
  | call (sessionId : String) (c : Channel.Call)

/-- The rounds of a stream in the order in which it makes them. -/
def rounds (s : Stream) (f : Feed) : List Happening → List Round
  | [] => []
  | .round :: rest => (s.round f).1 :: rounds (s.round f).2.1 (s.round f).2.2 rest
  | .call sessionId c :: rest => rounds s (f.call sessionId c).1 rest

end Reckoner.Feed
