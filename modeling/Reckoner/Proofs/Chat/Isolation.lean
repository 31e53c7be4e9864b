import Reckoner.Proofs.Chat.Owners
import Reckoner.Proofs.Chat.ParallelTurns

namespace Reckoner.Chat

open Reckoner.Feed Reckoner.Gateway

/-- An action for a session that is alone: its turn and its openings are the only ones, so the first is meant. -/
def Action.alone : Action → Action
  | .reply _ words => .reply 0 words
  | .probe _ available => .probe 0 available
  | x => x

namespace Switchboard

/-- A session's part of a run, without the actions for others. -/
def only (s : String) (w : Switchboard) : List Action → List Action
  | [] => []
  | x :: rest => (if w.owner x = some s then [x.alone] else []) ++ only s (w.step x).1 rest

def outcomes (w : Switchboard) : List Action → List Outcome
  | [] => []
  | x :: rest => (w.step x).2 :: outcomes (w.step x).1 rest

/-- The outcomes of the actions for a session. -/
def outcomesOf (s : String) (w : Switchboard) : List Action → List Outcome
  | [] => []
  | x :: rest => (if w.owner x = some s then [(w.step x).2] else []) ++ outcomesOf s (w.step x).1 rest

/-- What a run does occurs session by session in its order, with any calls on the feed in between; what it
is about to do may be still to come. -/
def Interleaves (w : Switchboard) (actions : List Action) (occurrences : List Occurrence) : Prop :=
  ∀ s, effectsOf s (occurrences.filterMap Occurrence.effect?) <+: effectsOf s (w.journal actions)

/-- A switchboard of many sessions, and one on which one of them is alone. -/
structure Mirrors (s : String) (ids : Counterparts) (w w' : Switchboard) : Prop where
  kept : WellKept w
  books : Books.Alike ids s w.assistant.books w'.assistant.books
  turns : List.Forall₂ (Turn.Alike ids) (w.turns.filter (·.sessionId = s)) w'.turns
  openings : w'.openings = w.openings.filter (· = s)
  showStages : w'.assistant.showStages = w.assistant.showStages
  below : ids.Below w.assistant.issued w'.assistant.issued

theorem mirrors_new (s : String) (feed : Option Feed) (manner : Solver.Manner) (showStages : Bool) :
    Mirrors s [] (new feed manner showStages) (new feed manner showStages) where
  kept := wellKept_new feed manner showStages
  books := .empty [] s feed
  turns := .nil
  openings := rfl
  showStages := rfl
  below := ⟨.nil, by simp⟩

section

variable {w w' : Switchboard} {x : Action} {s : String} {ids ids' : Counterparts}

/-- A step for another session is not noticed. -/
theorem Mirrors.step_other (h : Mirrors s ids w w') (other : w.owner x ≠ some s) :
    Mirrors s ids (w.step x).1 w' where
  kept := h.kept.change (change_step w x)
  books := by
    have none_own : List.Forall₂ (Effect.Alike ids) (effectsOf s (w.effects x)) [] := by
      rw [h.kept.effectsOf_other x other]
      exact .nil
    rw [books_step]
    exact h.books.afterAll none_own
  turns := by
    rw [(change_step w x).turns_other other]
    exact h.turns
  openings := by
    rw [openings_other w x other]
    exact h.openings
  showStages := h.showStages.trans (showStages_step w x).symm
  below := h.below.grow (.still (change_step w x).issued (Nat.le_refl _))

/-- The same step of a session, among others and alone. -/
structure StepsAlike (s : String) (ids ids' : Counterparts) (w w' : Switchboard) (x x' : Action) :
    Prop where
  more : ids ⊆ ids'
  mirrors : Mirrors s ids' (w.step x).1 (w'.step x').1
  effects : List.Forall₂ (Effect.Alike ids') (w.effects x) (w'.effects x')
  outcome : (w.step x).2.Alike ids' (w'.step x').2

/-- Two steps are alike if they do alike things and leave alike turns and openings. -/
theorem Mirrors.stepsAlike (h : Mirrors s ids w w') {x' : Action} {v v' : Switchboard} {o o' : Outcome}
    (own : w.owner x = some s) (step : w.step x = (v, o)) (step' : w'.step x' = (v', o'))
    (grow : Counterparts.Grow w.assistant.issued w'.assistant.issued ids v.assistant.issued
      v'.assistant.issued ids')
    (effects : List.Forall₂ (Effect.Alike ids') (w.effects x) (w'.effects x'))
    (turns : List.Forall₂ (Turn.Alike ids') (v.turns.filter (·.sessionId = s)) v'.turns)
    (openings : v'.openings = v.openings.filter (· = s)) (outcome : o.Alike ids' o') :
    StepsAlike s ids ids' w w' x x' := by
  obtain rfl : (w.step x).1 = v := by rw [step]
  obtain rfl : (w'.step x').1 = v' := by rw [step']
  obtain rfl : (w.step x).2 = o := by rw [step]
  obtain rfl : (w'.step x').2 = o' := by rw [step']
  have own_effects := h.kept.effectsOf_own x own
  have books := (h.books.mono grow.subset).afterAll (own_effects ▸ effects)
  rw [← books_step, ← books_step] at books
  exact
    { more := grow.subset
      mirrors :=
        { kept := h.kept.change (change_step w x)
          books := books
          turns := turns
          openings := openings
          showStages := by rw [showStages_step, showStages_step, h.showStages]
          below := h.below.grow grow }
      effects := effects
      outcome := outcome }

/-- Where nothing is said, the numbers stay. -/
theorem grow_still (w w' : Switchboard) (ids : Counterparts) :
    Counterparts.Grow w.assistant.issued w'.assistant.issued ids w.assistant.issued
      w'.assistant.issued ids :=
  .still (Nat.le_refl _) (Nat.le_refl _)

theorem Mirrors.turns_mono (h : Mirrors s ids w w') (more : ids ⊆ ids') :
    List.Forall₂ (Turn.Alike ids') (w.turns.filter (·.sessionId = s)) w'.turns :=
  h.turns.imp fun _ _ => .mono more

theorem Mirrors.step_respond (h : Mirrors s ids w w') (context : Context) (text : String)
    (verbose : Option Bool) : ∃ ids', StepsAlike s ids ids' w w' (.respond context s text verbose)
      (.respond context s text verbose) := by
  obtain ⟨ids', grow, progress, effects⟩ :=
    Assistant.parallel_enter h.books h.showStages context text verbose
  have more := grow.subset
  have session := fun t => @Assistant.sessionId_enter w.assistant context s text verbose t
  cases ha : w.assistant.enter context s text verbose with | mk a p =>
  cases ha' : w'.assistant.enter context s text verbose with | mk a' p' =>
  rw [ha, ha'] at grow progress
  rw [ha] at session
  cases progress with
  | @waiting t t' alike =>
    have step : w.step (.respond context s text verbose) =
        ({ w with assistant := a, turns := w.turns ++ [t] }, .waiting) := by
      simp only [Switchboard.step, ha]
    have step' : w'.step (.respond context s text verbose) =
        ({ w' with assistant := a', turns := w'.turns ++ [t'] }, .waiting) := by
      simp only [Switchboard.step, ha']
    have here : t.sessionId = s := session t rfl
    have turns : List.Forall₂ (Turn.Alike ids') ((w.turns ++ [t]).filter (·.sessionId = s))
        (w'.turns ++ [t']) := by
      rw [List.filter_append, List.filter_cons_of_pos (by simpa using here)]
      exact List.rel_append (h.turns_mono more) (.cons alike .nil)
    exact ⟨ids', h.stepsAlike rfl step step' grow effects turns h.openings .waiting⟩
  | @ended context' result result' alike =>
    have step : w.step (.respond context s text verbose) =
        ({ w with assistant := a }, .ended s result) := by simp only [Switchboard.step, ha]
    have step' : w'.step (.respond context s text verbose) =
        ({ w' with assistant := a' }, .ended s result') := by simp only [Switchboard.step, ha']
    exact ⟨ids', h.stepsAlike rfl step step' grow effects (h.turns_mono more) h.openings (.ended s alike)⟩

theorem Mirrors.step_reply (h : Mirrors s ids w w') (place : Nat) (words : Except CallFailure String)
    (own : w.owner (.reply place words) = some s) :
    ∃ ids', StepsAlike s ids ids' w w' (.reply place words) (.reply 0 words) := by
  obtain ⟨t, found, rfl⟩ := Option.map_eq_some_iff.mp own
  obtain ⟨only, set, erased⟩ := h.kept.own_turn found
  have turns := h.turns
  rw [only] at turns
  obtain ⟨t', others, alike, none_else, alone⟩ := List.forall₂_cons_left_iff.mp turns
  obtain rfl := List.forall₂_nil_left_iff.mp none_else
  have session : t'.sessionId = t.sessionId := by rw [alike.rest]
  have found' : w'.turns[0]? = some t' := by rw [alone]; rfl
  obtain ⟨ids', grow, progress, effects⟩ :=
    Assistant.parallel_resume w.assistant w'.assistant alike words
  have done : List.Forall₂ (Effect.Alike ids') (w.effects (.reply place words))
      (w'.effects (.reply 0 words)) := by
    simpa only [Switchboard.effects, found, found'] using effects
  have still := fun u => @Assistant.sessionId_resume w.assistant t u words
  cases ha : w.assistant.resume t words with | mk a p =>
  cases ha' : w'.assistant.resume t' words with | mk a' p' =>
  rw [ha, ha'] at grow progress
  rw [ha] at still
  cases progress with
  | @waiting u u' alike =>
    have step : w.step (.reply place words) =
        ({ w with assistant := a, turns := w.turns.set place u }, .waiting) := by
      simp only [Switchboard.step, found, ha]
    have step' : w'.step (.reply 0 words) = ({ w' with assistant := a', turns := [u'] }, .waiting) := by
      simp only [Switchboard.step, found', ha']
      rw [alone]
      rfl
    have turns : List.Forall₂ (Turn.Alike ids')
        ((w.turns.set place u).filter (·.sessionId = t.sessionId)) [u'] := by
      rw [set u (still u rfl)]
      exact .cons alike .nil
    exact ⟨ids', h.stepsAlike own step step' grow done turns h.openings .waiting⟩
  | @ended context result result' alike =>
    have step : w.step (.reply place words) =
        ({ w with assistant := a, turns := w.turns.eraseIdx place }, .ended t.sessionId result) := by
      simp only [Switchboard.step, found, ha]
    have step' : w'.step (.reply 0 words) =
        ({ w' with assistant := a', turns := [] }, .ended t.sessionId result') := by
      simp only [Switchboard.step, found', ha', session]
      rw [alone]
      rfl
    have turns : List.Forall₂ (Turn.Alike ids')
        ((w.turns.eraseIdx place).filter (·.sessionId = t.sessionId)) [] := by
      rw [erased]
      exact .nil
    exact ⟨ids', h.stepsAlike own step step' grow done turns h.openings (.ended _ alike)⟩

theorem Mirrors.step_start (h : Mirrors s ids w w') :
    StepsAlike s ids ids w w' (.start s) (.start s) := by
  have stored : Option.Rel (Conversation.Alike ids) (w.store.get? s) (w'.store.get? s) := h.books.stored
  cases hc : w.store.get? s with
  | none =>
    have hc' : w'.store.get? s = none := by
      rw [hc] at stored
      generalize w'.store.get? s = c' at stored
      cases stored
      rfl
    have step : w.step (.start s) = ({ w with openings := w.openings ++ [s] }, .waiting) := by
      simp only [Switchboard.step, hc]
    have step' : w'.step (.start s) = ({ w' with openings := w'.openings ++ [s] }, .waiting) := by
      simp only [Switchboard.step, hc']
    exact h.stepsAlike rfl step step' (grow_still w w' ids) .nil h.turns (by simp [h.openings]) .waiting
  | some c =>
    obtain ⟨c', hc', alike⟩ : ∃ c', w'.store.get? s = some c' ∧ c.Alike ids c' := by
      rw [hc] at stored
      generalize w'.store.get? s = c' at stored
      cases stored with
      | some alike => exact ⟨_, rfl, alike⟩
    have step : w.step (.start s) = (w, .started c) := by simp only [Switchboard.step, hc]
    have step' : w'.step (.start s) = (w', .started c') := by simp only [Switchboard.step, hc']
    exact h.stepsAlike rfl step step' (grow_still w w' ids) .nil h.turns h.openings (.started alike)

theorem Mirrors.step_probe (h : Mirrors s ids w w') (place : Nat) (available : Bool)
    (own : w.owner (.probe place available) = some s) :
    ∃ ids', StepsAlike s ids ids' w w' (.probe place available) (.probe 0 available) := by
  have found : w.openings[place]? = some s := own
  obtain ⟨before, after, split, -, erased⟩ := exists_at found
  -- One opening of a session is like another, so it does not matter which one ends.
  let k := before.count s + after.count s
  have alone : w'.openings = List.replicate (k + 1) s := by
    rw [h.openings, List.filter_eq, split, List.count_append, List.count_cons_self]
    rfl
  have rest : (w.openings.eraseIdx place).filter (· = s) = List.replicate k s := by
    rw [erased, List.filter_eq, List.count_append]
  have found' : w'.openings[0]? = some s := by rw [alone]; rfl
  have opened : (w.assistant.openWith s available).2.Alike
      (ids ++ [(w.assistant.issued + 1, w'.assistant.issued + 1)])
      (w'.assistant.openWith s available).2 :=
    ⟨.cons ⟨w.assistant.issued + 1, w'.assistant.issued + 1, by simp, rfl, rfl⟩ .nil, rfl⟩
  have step : w.step (.probe place available) =
      ({ w with assistant := (w.assistant.openWith s available).1, openings := w.openings.eraseIdx place },
        .started (w.assistant.openWith s available).2) := by
    simp only [Switchboard.step, found]
  have step' : w'.step (.probe 0 available) =
      ({ w' with assistant := (w'.assistant.openWith s available).1, openings := List.replicate k s },
        .started (w'.assistant.openWith s available).2) := by
    simp only [Switchboard.step, found']
    rw [alone]
    rfl
  have saved : List.Forall₂ (Effect.Alike (ids ++ [(w.assistant.issued + 1, w'.assistant.issued + 1)]))
      (w.effects (.probe place available)) (w'.effects (.probe 0 available)) := by
    simp only [effects, found, found']
    exact .cons (.save opened) .nil
  exact ⟨_, h.stepsAlike own step step' .made saved (h.turns_mono (List.subset_append_left _ _))
    rest.symm (.started opened)⟩

theorem Mirrors.step_reset (h : Mirrors s ids w w') :
    StepsAlike s ids ids w w' (.reset s) (.reset s) := by
  have busy : w'.store.isBusy s = w.store.isBusy s := h.books.busy
  cases hb : w.store.isBusy s with
  | true =>
    have refused : List.Forall₂ (Effect.Alike ids) (w.effects (.reset s)) (w'.effects (.reset s)) := by
      simp only [effects, hb, busy, if_true]
      exact .nil
    exact h.stepsAlike rfl (step_reset_busy hb) (step_reset_busy (busy.trans hb)) (grow_still w w' ids)
      refused h.turns h.openings (.reset _)
  | false =>
    have forgets : List.Forall₂ (Effect.Alike ids) (w.effects (.reset s)) (w'.effects (.reset s)) := by
      simp only [effects, hb, busy, Bool.false_eq_true, if_false]
      exact .cons (.forget s) .nil
    exact h.stepsAlike rfl (step_reset_free hb) (step_reset_free (busy.trans hb)) (grow_still w w' ids)
      forgets h.turns h.openings (.reset _)

theorem Mirrors.step_history (h : Mirrors s ids w w') :
    StepsAlike s ids ids w w' (.history s) (.history s) := by
  have stored : Option.Rel (Conversation.Alike ids) (w.store.get? s) (w'.store.get? s) := h.books.stored
  refine h.stepsAlike rfl rfl rfl (grow_still w w' ids) .nil h.turns h.openings ?_
  simp only [Assistant.history]
  generalize w.assistant.store.get? s = c, w'.assistant.store.get? s = c' at stored
  cases stored with
  | none => exact .unknown _
  | some alike => exact .history alike

/-- A step for the session is the same when it is alone. -/
theorem Mirrors.step_own (h : Mirrors s ids w w') (own : w.owner x = some s) :
    ∃ ids', StepsAlike s ids ids' w w' x x.alone := by
  cases x with
  | respond context t text verbose =>
    obtain rfl := Option.some.inj own
    exact h.step_respond context text verbose
  | reply place words => exact h.step_reply place words own
  | start t =>
    obtain rfl := Option.some.inj own
    exact ⟨ids, h.step_start⟩
  | probe place available => exact h.step_probe place available own
  | reset t =>
    obtain rfl := Option.some.inj own
    exact ⟨ids, h.step_reset⟩
  | history t =>
    obtain rfl := Option.some.inj own
    exact ⟨ids, h.step_history⟩

/-- A session's part of a run is the same when it is alone. -/
theorem Mirrors.run (h : Mirrors s ids w w') (actions : List Action) :
    ∃ ids', ids ⊆ ids' ∧ Mirrors s ids' (w.run actions) (w'.run (w.only s actions)) ∧
      List.Forall₂ (Effect.Alike ids') (effectsOf s (w.journal actions))
        (w'.journal (w.only s actions)) ∧
      List.Forall₂ (Outcome.Alike ids') (w.outcomesOf s actions) (w'.outcomes (w.only s actions)) := by
  induction actions generalizing w w' ids with
  | nil => exact ⟨ids, List.Subset.refl _, h, .nil, .nil⟩
  | cons x rest ih =>
    rw [journal, effectsOf, List.filter_append, only, outcomesOf]
    by_cases own : w.owner x = some s
    · obtain ⟨ids₁, steps⟩ := h.step_own own
      obtain ⟨ids₂, more, mirrors, effects, outcomes⟩ := ih steps.mirrors
      have first : List.Forall₂ (Effect.Alike ids₂) (effectsOf s (w.effects x))
          (w'.effects x.alone) := by
        rw [h.kept.effectsOf_own x own]
        exact steps.effects.imp fun _ _ => .mono more
      rw [if_pos own, if_pos own]
      exact ⟨ids₂, List.Subset.trans steps.more more, mirrors, List.rel_append first effects,
        .cons (steps.outcome.mono more) outcomes⟩
    · obtain ⟨ids', more, mirrors, effects, outcomes⟩ := ih (h.step_other own)
      have silent : (w.effects x).filter (·.sessionId = s) = [] := h.kept.effectsOf_other x own
      rw [if_neg own, if_neg own, silent]
      exact ⟨ids', more, mirrors, effects, outcomes⟩

end

theorem effects_occurringIn (s : String) (occurrences : List Occurrence) :
    (occurringIn s occurrences).filterMap Occurrence.effect? =
      effectsOf s (occurrences.filterMap Occurrence.effect?) := by
  rw [occurringIn, effectsOf, List.filterMap_filter, List.filter_filterMap]
  congr 1
  funext x
  cases x with
  | effect e =>
    by_cases here : e.sessionId = s <;>
      simp [Occurrence.effect?, Occurrence.sessionId, Option.filter, here]
  | call t c => simp [Occurrence.effect?]

/-- The effects among what occurs can be exchanged for others that are alike. -/
theorem exists_exchanged {ids : Counterparts} {occurrences : List Occurrence}
    {effects effects' : List Effect} (done : occurrences.filterMap Occurrence.effect? <+: effects)
    (alike : List.Forall₂ (Effect.Alike ids) effects effects') :
    ∃ occurrences', List.Forall₂ (Occurrence.Alike ids) occurrences occurrences' ∧
      occurrences'.filterMap Occurrence.effect? <+: effects' := by
  induction occurrences generalizing effects effects' with
  | nil => exact ⟨[], .nil, List.nil_prefix⟩
  | cons x rest ih =>
    cases x with
    | effect e =>
      have split : e :: rest.filterMap Occurrence.effect? <+: effects := done
      obtain ⟨later, rfl, still⟩ := List.cons_prefix_iff.mp split
      obtain ⟨e', later', first, others, rfl⟩ := List.forall₂_cons_left_iff.mp alike
      obtain ⟨rest', exchanged, done'⟩ := ih still others
      exact ⟨.effect e' :: rest', .cons (.effect first) exchanged, List.cons_prefix_cons.mpr ⟨rfl, done'⟩⟩
    | call t c =>
      obtain ⟨rest', exchanged, done'⟩ := ih done alike
      exact ⟨.call t c :: rest', .cons (.call t c) exchanged, done'⟩

/-- Take any run of many sessions, with whatever calls on the feed in between, and leave out all that is not
for one of them. In the run that is left this session has the same effects and calls, gets the same answers
to its requests and to its calls, and ends with the same history, the same mark for a turn in flight and the
same channel, but for the ids of messages, which correspond one to one in the order in which they were made. -/
theorem session_isolated (feed : Option Feed) (manner : Solver.Manner) (showStages : Bool) (s : String)
    (actions : List Action) (occurrences : List Occurrence)
    (interleaved : Interleaves (new feed manner showStages) actions occurrences) :
    let w := new feed manner showStages
    ∃ ids occurrences', Counterparts.Ordered ids ∧
      List.Forall₂ (Occurrence.Alike ids) (occurringIn s occurrences) occurrences' ∧
      Interleaves w (w.only s actions) occurrences' ∧
      List.Forall₂ (Outcome.Alike ids) (w.outcomesOf s actions) (w.outcomes (w.only s actions)) ∧
      List.Forall₂ (Channel.Call.Answer.Alike (DataAlike ids)) (w.assistant.books.answersIn s occurrences)
        (w.assistant.books.answersIn s occurrences') ∧
      Books.Alike ids s (w.assistant.books.occurAll occurrences)
        (w.assistant.books.occurAll occurrences') := by
  intro w
  obtain ⟨ids, -, mirrors, effects, outcomes⟩ :=
    (mirrors_new s feed manner showStages).run actions
  have done : (occurringIn s occurrences).filterMap Occurrence.effect? <+:
      effectsOf s (w.journal actions) := effects_occurringIn s occurrences ▸ interleaved s
  obtain ⟨occurrences', alike, done'⟩ := exists_exchanged done effects
  have books : Books.Alike ids s w.assistant.books w.assistant.books := .empty ids s feed
  obtain ⟨last, answers⟩ := books.occurAll alike
  exact ⟨ids, occurrences', mirrors.below.ordered, alike, fun t => done'.filter _, outcomes, answers, last⟩

/-- One session asks while the other is answered, and somebody listens to both. -/
theorem session_isolated_overlapping :
    let w := new (some (.new 4)) ⟨.whole 0, .whole 0⟩ true
    let actions : List Action := [.respond .unbound "a" "2 + 2" none,
      .respond .unbound "b" "Who are you?" none, .reply 0 (.error (.gateway silence)), .history "b",
      .reply 0 (.ok "An assistant."), .reset "b"]
    let all := w.journal actions
    let rest := all.drop 6
    let effects := all.take 6 ++ ((rest.drop 3).take 2 ++ (rest.take 3 ++ (rest.drop 3).drop 2))
    let occurrences := .call "b" .register ::
      (effects.map .effect ++ [.call "a" .drain, .call "b" .perform, .call "b" (.next 0)])
    Interleaves w actions occurrences ∧ ∃ ids, Counterparts.Ordered ids ∧
      List.Forall₂ (Outcome.Alike ids) (w.outcomesOf "b" actions)
        (w.outcomes [.respond .unbound "b" "Who are you?" none, .history "b",
          .reply 0 (.ok "An assistant."), .reset "b"]) := by
  intro w actions all rest effects occurrences
  have apart : ∀ x ∈ rest.take 3, ∀ y ∈ (rest.drop 3).take 2, x.sessionId ≠ y.sessionId := by
    decide
  have interleaved : Interleaves w actions occurrences := by
    intro s
    have done : occurrences.filterMap Occurrence.effect? = effects := by
      simp [occurrences, List.filterMap_cons, Occurrence.effect?, Function.comp_def]
    have same : effectsOf s (occurrences.filterMap Occurrence.effect?) = effectsOf s all := by
      rw [done, effectsOf_swap apart, List.take_append_drop, List.take_append_drop, List.take_append_drop]
    exact ⟨[], (List.append_nil _).trans same⟩
  obtain ⟨ids, -, ordered, -, -, outcomes, -⟩ :=
    session_isolated (some (.new 4)) ⟨.whole 0, .whole 0⟩ true "b" actions occurrences interleaved
  exact ⟨interleaved, ids, ordered, outcomes⟩

end Switchboard

end Reckoner.Chat
