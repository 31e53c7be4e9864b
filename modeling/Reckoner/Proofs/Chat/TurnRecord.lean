import Reckoner.Proofs.Chat.SequentialLog
import Reckoner.Proofs.Chat.TurnWords

namespace Reckoner.Chat

/-- The gateway answers or reports a failure of its own. -/
def Action.isReported : Action → Bool
  | .reply _ (.error (.defect _)) => false
  | _ => true

/-- Something is said, rather than forgotten. -/
def Deed.isSaid : Deed → Bool
  | .forgotten _ => false
  | _ => true

/-- Marks are one word for each exchange, and what is told of the turn in flight. -/
def Spells (s : String) (exchanges : List (Message × Message)) (underway : List Mark)
    (marks : List (Option Mark)) : Prop :=
  ∃ words, List.Forall₂
      (fun e word => Word (!s.isEmpty) (Classifier.isQuestion e.1.content) word) exchanges words ∧
    marks = (words.flatten ++ underway).map some

theorem Spells.more {s : String} {exchanges : List (Message × Message)} {underway : List Mark}
    {marks : List (Option Mark)} (h : Spells s exchanges underway marks) (new : List Mark) :
    Spells s exchanges (underway ++ new) (marks ++ new.map some) := by
  obtain ⟨words, each, rfl⟩ := h
  exact ⟨words, each, by simp⟩

theorem Spells.ends {s : String} {exchanges : List (Message × Message)} {word : List Mark}
    {marks : List (Option Mark)} (h : Spells s exchanges word marks) {m reply : Message}
    (closed : Word (!s.isEmpty) (Classifier.isQuestion m.content) word) :
    Spells s (exchanges ++ [(m, reply)]) [] marks := by
  obtain ⟨words, each, rfl⟩ := h
  exact ⟨words ++ [word], List.rel_append each (.cons closed .nil), by simp⟩

/-- A turn that is entered waits for an answer, or for the solution of a question. -/
theorem Assistant.enter_spoken (a : Assistant) {s text : String} (free : a.store.isBusy s = false)
    (spoken : Text.blank text = false) (context : Context) (verbose : Option Bool) :
    ∃ t, (a.enter context s text verbose).2 = .waiting t ∧ t.sessionId = s ∧
      t.wait = if Classifier.isQuestion text then .solution (.extraction text) else .answer text := by
  have hm := Message.make_of_spoken (m := a.said text) spoken
  rw [said] at hm
  unfold enter
  rw [Store.enter_of_free free]
  dsimp only
  rw [hm]
  dsimp only
  cases Classifier.isQuestion text with
  | true => exact ⟨_, rfl, rfl, rfl⟩
  | false => exact ⟨_, rfl, rfl, rfl⟩

namespace Switchboard

/-- What the sessions have been told, and what is said in them, agree with the turns in flight. -/
structure Recorded (w : Switchboard) (log : String → Log) (marks : String → List (Option Mark)) :
    Prop extends WellKept w where
  quiet : ∀ s, s ∉ w.talking → (log s).asked = none ∧ Spells s (log s).exchanges [] (marks s)
  underway : ∀ t ∈ w.turns, ∃ m, (log t.sessionId).asked = some m ∧
    t.wait.solves = Classifier.isQuestion m.content ∧
    Spells t.sessionId (log t.sessionId).exchanges (t.wait.marks (!t.sessionId.isEmpty))
      (marks t.sessionId)

section

variable {w w' : Switchboard} {log log' : String → Log} {marks marks' : String → List (Option Mark)}

theorem recorded_new (feed : Option Feed) (manner : Solver.Manner) (showStages : Bool) :
    Recorded (new feed manner showStages) (fun _ => .empty) (fun _ => []) where
  toWellKept := wellKept_new feed manner showStages
  quiet s _ := ⟨rfl, [], .nil, rfl⟩
  underway t h := by simp [new] at h

/-- No turn moves, and nothing is said or told. -/
theorem Recorded.still (h : Recorded w log marks) (kept : WellKept w') (turns : w'.turns = w.turns)
    (unsaid : ∀ s, log' s = log s) (untold : ∀ s, marks' s = marks s) :
    Recorded w' log' marks' where
  toWellKept := kept
  quiet := by simpa only [talking, turns, unsaid, untold] using h.quiet
  underway := by simpa only [turns, unsaid, untold] using h.underway

/-- A turn begins, and its question is asked. -/
theorem Recorded.begun (h : Recorded w log marks) (kept : WellKept w') {t : Turn} {m : Message}
    (free : t.sessionId ∉ w.talking) (turns : w'.turns = w.turns ++ [t])
    (solves : t.wait.solves = Classifier.isQuestion m.content)
    (asked : ∀ s, log' s = if t.sessionId = s then (log s).ask m else log s)
    (told : ∀ s, marks' s = marks s ++
      if t.sessionId = s then (t.wait.marks (!s.isEmpty)).map some else []) :
    Recorded w' log' marks' where
  toWellKept := kept
  quiet := by
    intro s hs
    rw [talking, turns, List.map_append, List.mem_append, not_or] at hs
    have other : t.sessionId ≠ s := by
      rintro rfl
      exact hs.2 (by simp)
    rw [asked, told, if_neg other, if_neg other, List.append_nil]
    exact h.quiet s hs.1
  underway := by
    intro u hu
    rw [turns] at hu
    rcases List.mem_append.mp hu with hu | hu
    · have other : t.sessionId ≠ u.sessionId := by
        intro same
        exact free (same ▸ List.mem_map_of_mem hu)
      rw [asked, told, if_neg other, if_neg other, List.append_nil]
      exact h.underway u hu
    · obtain rfl := List.mem_singleton.mp hu
      obtain ⟨-, spelled⟩ := h.quiet u.sessionId free
      rw [asked, told, if_pos rfl, if_pos rfl]
      exact ⟨m, rfl, solves, spelled.more _⟩

/-- The turn at a place waits on, within its word. -/
theorem Recorded.moved (h : Recorded w log marks) (kept : WellKept w') {place : Nat} {t : Turn}
    {wait : Wait} {new : List Mark} (found : w.turns[place]? = some t)
    (turns : w'.turns = w.turns.set place { t with wait }) (solves : wait.solves = t.wait.solves)
    (grows : wait.marks (!t.sessionId.isEmpty) = t.wait.marks (!t.sessionId.isEmpty) ++ new)
    (unsaid : ∀ s, log' s = log s)
    (told : ∀ s, marks' s = marks s ++ if t.sessionId = s then new.map some else []) :
    Recorded w' log' marks' where
  toWellKept := kept
  quiet := by
    intro s hs
    rw [talking, turns, talking_set found] at hs
    have other : t.sessionId ≠ s := by
      rintro rfl
      exact hs (mem_talking found)
    rw [unsaid, told, if_neg other, List.append_nil]
    exact h.quiet s hs
  underway := by
    intro u hu
    rw [turns] at hu
    rcases mem_set_turns h.apart found hu with rfl | ⟨hu, other⟩
    · obtain ⟨m, asked, math, spelled⟩ := h.underway t (List.mem_of_getElem? found)
      refine ⟨m, ?_, solves.trans math, ?_⟩
      · rw [unsaid]
        exact asked
      · dsimp only
        rw [unsaid, told, if_pos rfl, grows]
        exact spelled.more new
    · rw [unsaid, told, if_neg (Ne.symm other), List.append_nil]
      exact h.underway u hu

/-- The turn at a place is over with its word, and its question is answered. -/
theorem Recorded.concluded (h : Recorded w log marks) (kept : WellKept w') {place : Nat} {t : Turn}
    {new : List Mark} (reply : Message) (found : w.turns[place]? = some t)
    (turns : w'.turns = w.turns.eraseIdx place)
    (closed : Word (!t.sessionId.isEmpty) t.wait.solves (t.wait.marks (!t.sessionId.isEmpty) ++ new))
    (answered : ∀ s, log' s = if t.sessionId = s then (log s).answer reply else log s)
    (told : ∀ s, marks' s = marks s ++ if t.sessionId = s then new.map some else []) :
    Recorded w' log' marks' where
  toWellKept := kept
  quiet := by
    intro s hs
    rw [talking, turns, mem_eraseIdx_talking h.apart found] at hs
    rw [answered, told]
    by_cases own : t.sessionId = s
    · subst own
      obtain ⟨m, asked, math, spelled⟩ := h.underway t (List.mem_of_getElem? found)
      rw [if_pos rfl, if_pos rfl, Log.answer, asked]
      rw [math] at closed
      exact ⟨rfl, (spelled.more new).ends closed⟩
    · rw [if_neg own, if_neg own, List.append_nil]
      refine h.quiet s ?_
      intro mem
      exact hs ⟨mem, Ne.symm own⟩
  underway := by
    intro u hu
    rw [turns] at hu
    have other := ((mem_eraseIdx_talking h.apart found _).mp (List.mem_map_of_mem hu)).2
    rw [answered, told, if_neg (Ne.symm other), if_neg (Ne.symm other), List.append_nil]
    exact h.underway u (List.mem_of_mem_eraseIdx hu)

/-- A question is in flight exactly where a turn is. -/
theorem Recorded.asked (h : Recorded w log marks) (s : String) :
    (log s).asked.isSome = true ↔ s ∈ w.talking := by
  constructor
  · intro asked
    by_contra quiet
    rw [(h.quiet s quiet).1] at asked
    simp at asked
  · intro talking
    obtain ⟨t, ht, rfl⟩ := List.mem_map.mp talking
    obtain ⟨m, asked, -⟩ := h.underway t ht
    rw [asked]
    rfl

/-- Marks spell a log, and what is told of its question in flight can be gone on with. -/
theorem Recorded.spelled (h : Recorded w log marks) (s : String) :
    ∃ underway, Spells s (log s).exchanges underway (marks s) ∧
      ((log s).asked = none → underway = []) ∧
      ∀ m, (log s).asked = some m → ∃ rest, rest ≠ [] ∧
        Word (!s.isEmpty) (Classifier.isQuestion m.content) (underway ++ rest) := by
  by_cases talking : s ∈ w.talking
  · obtain ⟨t, ht, rfl⟩ := List.mem_map.mp talking
    obtain ⟨m, asked, math, spelled⟩ := h.underway t ht
    refine ⟨_, spelled, ?_, ?_⟩
    · rw [asked]
      simp
    · intro m' asked'
      obtain rfl : m = m' := Option.some.inj (asked.symm.trans asked')
      rw [← math]
      exact t.wait.word_goes_on _
  · obtain ⟨silent, spelled⟩ := h.quiet s talking
    refine ⟨[], spelled, fun _ => rfl, ?_⟩
    rw [silent]
    simp

end

/-- What a step says. -/
def saidOf (w : Switchboard) (x : Action) : List Deed :=
  (w.deed? x (w.step x).2).toList.filter Deed.isSaid

/-- What a run says. -/
def saidIn (w : Switchboard) (actions : List Action) : List Deed :=
  (w.deeds actions).filter Deed.isSaid

/-- The logs and the marks that a step adds to keep agreeing with the turns. -/
def RecordedAfter (w : Switchboard) (x : Action) (log : String → Log)
    (marks : String → List (Option Mark)) : Prop :=
  Recorded (w.step x).1 (fun s => (w.saidOf x).foldl (Log.after s) (log s))
    (fun s => marks s ++ marksFor s (w.effects x))

section

variable {w : Switchboard} {x : Action} {log : String → Log} {marks : String → List (Option Mark)}

/-- A step that says and tells nothing, and leaves the turns as they are. -/
theorem Recorded.step_still (h : Recorded w log marks) (turns : (w.step x).1.turns = w.turns)
    (unsaid : w.saidOf x = []) (untold : ∀ s, marksFor s (w.effects x) = []) :
    RecordedAfter w x log marks := by
  refine h.still (h.change (change_step w x)) turns ?_ ?_
  · intro s
    rw [unsaid]
    rfl
  · intro s
    rw [untold, List.append_nil]

theorem Recorded.step_respond (h : Recorded w log marks) (context : Context) (s text : String)
    (verbose : Option Bool) : RecordedAfter w (.respond context s text verbose) log marks := by
  have kept := h.change (change_step w (.respond context s text verbose))
  cases hb : w.store.isBusy s with
  | true =>
    have stepped := step_respond_busy hb context text verbose
    refine h.step_still ?_ ?_ ?_
    · rw [stepped]
    · rw [saidOf, stepped]
      rfl
    · intro other
      simp [effects, Assistant.entering, hb]
  | false =>
    rcases Assistant.enter_cases hb context text verbose with d | b
    · obtain ⟨issues, hp⟩ := d.progress
      refine h.step_still ?_ ?_ ?_
      · simp only [step, hp]
      · simp only [saidOf, step, hp]
        rfl
      · intro other
        simp [effects, Assistant.entering, hb, d.blank, marksFor, Effect.mark?]
    · obtain ⟨t, hp, rfl, wait⟩ := w.assistant.enter_spoken hb b.spoken context verbose
      refine h.begun kept (t := t) (m := w.assistant.said text) (h.free hb) ?_ ?_ ?_ ?_
      · simp only [step, hp]
      · rw [wait]
        show _ = Classifier.isQuestion text
        cases Classifier.isQuestion text <;> rfl
      · intro s
        simp only [saidOf, step, hp]
        rfl
      · intro s
        rw [effects, Assistant.marksFor_entering _ hb b.spoken, wait]

theorem Recorded.step_reply (h : Recorded w log marks) {place : Nat}
    {reply : Except CallFailure String} (reported : (Action.reply place reply).isReported = true) :
    RecordedAfter w (.reply place reply) log marks := by
  have kept := h.change (change_step w (.reply place reply))
  cases found : w.turns[place]? with
  | none =>
    refine h.step_still ?_ ?_ ?_
    · simp only [step, found]
    · simp only [saidOf, step, found]
      rfl
    · intro s
      simp only [effects, found]
      rfl
  | some t =>
    have sound : ∀ d, reply ≠ .error (.defect d) := by
      rintro d rfl
      simp [Action.isReported] at reported
    obtain ⟨new, spelled, advances⟩ := w.assistant.marksFor_resuming t sound
    have told : ∀ s, marks s ++ marksFor s (w.effects (.reply place reply)) =
        marks s ++ if t.sessionId = s then new.map some else [] := by
      intro s
      simp only [effects, found]
      by_cases own : t.sessionId = s
      · subst own
        rw [if_pos rfl, spelled]
      · rw [if_neg own, Assistant.marksFor_resuming_other _ t own]
    rcases advances with ⟨wait, hp, solves, grows⟩ | ⟨context, r, hp, closed⟩
    · refine h.moved kept found ?_ solves grows ?_ told
      · simp only [step, found, hp]
      · intro s
        simp only [saidOf, step, found, hp]
        rfl
    · refine h.concluded kept r.reply found ?_ closed ?_ told
      · simp only [step, found, hp]
      · intro s
        simp only [saidOf, step, found, hp]
        rfl

/-- Openings, resets and readings of a history say and tell nothing. -/
theorem Recorded.step (h : Recorded w log marks) (reported : x.isReported = true) :
    RecordedAfter w x log marks := by
  cases x with
  | respond context s text verbose => exact h.step_respond context s text verbose
  | reply place reply => exact h.step_reply reported
  | start s =>
    refine h.step_still ?_ ?_ fun _ => rfl
    · simp only [Switchboard.step]
      split <;> rfl
    · simp only [saidOf, Switchboard.step]
      split <;> rfl
  | probe place available =>
    refine h.step_still ?_ ?_ ?_
    · simp only [Switchboard.step]
      split <;> rfl
    · simp only [saidOf, Switchboard.step]
      split <;> rfl
    · intro s
      simp only [effects]
      split <;> rfl
  | reset s =>
    refine h.step_still ?_ ?_ ?_
    · simp only [Switchboard.step]
      split <;> rfl
    · simp only [saidOf, Switchboard.step]
      split <;> rfl
    · intro s
      simp only [effects]
      split <;> rfl
  | history s => exact h.step_still rfl rfl fun _ => rfl

theorem Recorded.run (h : Recorded w log marks) (actions : List Action)
    (reported : ∀ x ∈ actions, x.isReported = true) :
    Recorded (w.run actions) (fun s => (w.saidIn actions).foldl (Log.after s) (log s))
      (fun s => marks s ++ marksFor s (w.journal actions)) := by
  -- The logs and the marks move along with the run, so they are general in the induction.
  induction actions generalizing w log marks with
  | nil => simpa [saidIn, deeds, journal, Switchboard.run] using h
  | cons x rest ih =>
    have stepped := h.step (reported x List.mem_cons_self)
    have rested := ih stepped fun y hy => reported y (List.mem_cons_of_mem x hy)
    simp only [saidIn, deeds, journal, marksFor_append, List.filter_append, List.foldl_append,
      ← List.append_assoc]
    exact rested

end

end Switchboard

end Reckoner.Chat
