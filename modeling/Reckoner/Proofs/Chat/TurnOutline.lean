import Reckoner.Proofs.Chat.FailedTurns
import Reckoner.Proofs.Chat.Journal
import Reckoner.Proofs.Chat.Replies
import Reckoner.Proofs.Solver.DataFlow

namespace Reckoner.Chat

open Reckoner.Gateway Reckoner.Solver Reckoner.Solver.Graph

/-- The calls of the model, each with what came of it. -/
abbrev Transcript := List (Call × Except CallFailure String)

/-- A gateway that keeps a transcript. -/
def transcribed {γ : Type} (generate : γ → Call → γ × Except CallFailure String) (g : γ × Transcript)
    (c : Call) : (γ × Transcript) × Except CallFailure String :=
  (((generate g.1 c).1, g.2 ++ [(c, (generate g.1 c).2)]), (generate g.1 c).2)

/-- What a text is answered with: the model's own words, the run of a question, or a failure of the gateway. -/
inductive Answer where
  | words (w : String)
  | run (r : Run)
  | failure (f : GatewayFailure)

namespace Answer

def draft (showStages : Bool) : Answer → Draft
  | words w => (Draft.ofWords w).getD (.ofFailure silence)
  | run r => .ofRun r showStages
  | failure f => .ofFailure f

def run? : Answer → Option Run
  | run r => some r
  | _ => none

/-- Is the answer nothing that was asked for? -/
def fails : Answer → Bool
  | words w => Text.blank w
  | run r => !r.success
  | failure _ => true

theorem isError_draft (x : Answer) (showStages : Bool) : (x.draft showStages).isError = x.fails := by
  cases x with
  | words w =>
    have same : (Text.trim w).isEmpty = Text.blank w := Text.isEmpty_trim w
    simp only [draft, Draft.ofWords, fails, same]
    cases Text.blank w <;> rfl
  | run r =>
    simp only [draft, Draft.ofRun, fails]
    cases r.success <;> rfl
  | failure f => rfl

theorem isPipeline_draft (x : Answer) (showStages : Bool) :
    (x.draft showStages).isPipeline = x.run?.isSome := by
  cases x with
  | words w =>
    simp only [draft, Draft.ofWords]
    split <;> rfl
  | run r =>
    simp only [draft, Draft.ofRun]
    split <;> rfl
  | failure f => rfl

/-- What a call is answered with. A defect is no answer. -/
def ofCall {α : Type} (made : α → Answer) : Except CallFailure α → Except Defect Answer
  | .ok x => .ok (made x)
  | .error (.gateway f) => .ok (.failure f)
  | .error (.defect d) => .error d

theorem ofCall_map {α β : Type} (made : β → Answer) (f : α → β) (x : Except CallFailure α) :
    ofCall made (x.map f) = ofCall (fun a => made (f a)) x := by
  cases x with
  | ok a => rfl
  | error e => cases e <;> rfl

/-- There is an answer unless a call fails with a defect. -/
theorem ofCall_of_owned {α : Type} (made : α → Answer) {x : Except CallFailure α}
    (owned : ∀ f, x = .error f → ∃ own, f = .gateway own) : ∃ answer, ofCall made x = .ok answer := by
  cases x with
  | ok a => exact ⟨made a, rfl⟩
  | error f =>
    obtain ⟨own, rfl⟩ := owned f rfl
    exact ⟨.failure own, rfl⟩

end Answer

section

variable {γ : Type} (generate : γ → Call → γ × Except CallFailure String)

/-- The answer to a text, and what is noted on the way: a question is solved, and for anything else the model speaks
for itself. -/
def answer (m : Manner) (g : γ) (text : String) : γ × List Note × Except Defect Answer :=
  if Classifier.isQuestion text then
    let done := outline generate .arithmetic m g text
    (done.1, done.2.1, Answer.ofCall .run done.2.2)
  else
    let called := generate g (.plain text)
    (called.1, [], Answer.ofCall .words called.2)

/-- All the ways in which a text can be answered, each with the calls that are made. -/
inductive Ways (m : Manner) (text : String) : Transcript → Except Defect Answer → Prop
  | direct (other : Classifier.isQuestion text = false) (reply : Except CallFailure String) :
      Ways m text [(.plain text, reply)] (Answer.ofCall .words reply)
  | unnamed (question : Classifier.isQuestion text = true) (f : CallFailure) :
      Ways m text [(naming m text, .error f)] (Answer.ofCall .run (.error f))
  | refused (question : Classifier.isQuestion text = true) {words : String} {failure : Arithmetic.Failure}
      (value : Arithmetic.evaluate (Arithmetic.sanitize words) = .error failure) :
      Ways m text [(naming m text, .ok words)]
        (.ok (.run (refusedRun (Arithmetic.sanitize words) failure.fault.message)))
  | phrased (question : Classifier.isQuestion text = true) {words : String} {result : Arithmetic.Success}
      (value : Arithmetic.evaluate (Arithmetic.sanitize words) = .ok result)
      (reply : Except CallFailure String) :
      Ways m text [(naming m text, .ok words),
          (phrasing m text (Arithmetic.sanitize words) result.formatted, reply)]
        (Answer.ofCall (fun answer =>
          .run (answeredRun text (Arithmetic.sanitize words) result.formatted (Text.trim answer))) reply)

/-- Without a defect there is an answer. -/
theorem Ways.answers {m : Manner} {text : String} {exchanges : Transcript} {outcome : Except Defect Answer}
    (ways : Ways m text exchanges outcome)
    (owned : ∀ e ∈ exchanges, ∀ f, e.2 = .error f → ∃ own, f = .gateway own) :
    ∃ answer, outcome = .ok answer := by
  cases ways with
  | direct _ reply => exact Answer.ofCall_of_owned _ (owned _ List.mem_cons_self)
  | unnamed _ f =>
    obtain ⟨own, rfl⟩ := owned _ List.mem_cons_self f rfl
    exact ⟨.failure own, rfl⟩
  | refused => exact ⟨_, rfl⟩
  | phrased _ _ reply => exact Answer.ofCall_of_owned _ (owned _ (List.mem_cons_of_mem _ List.mem_cons_self))

section

variable {generate} {m : Manner} {g : γ} {text words : String}

theorem answer_question (question : Classifier.isQuestion text = true) : answer generate m g text =
    ((outline generate .arithmetic m g text).1, (outline generate .arithmetic m g text).2.1,
      Answer.ofCall .run (outline generate .arithmetic m g text).2.2) :=
  if_pos question

theorem answer_direct (other : Classifier.isQuestion text = false) : answer generate m g text =
    ((generate g (.plain text)).1, [], Answer.ofCall .words (generate g (.plain text)).2) :=
  if_neg (by simp [other])

theorem outline_unnamed {f : CallFailure} (first : (generate g (naming m text)).2 = .error f) :
    let done := outline generate .arithmetic m g text
    done.1 = (generate g (naming m text)).1 ∧ done.2.2 = .error f := by
  have called : (generate g ((Pending.extraction text).call m)).2 = .error f := first
  simp only [outline, called, and_true]
  rfl

theorem outline_refused {failure : Arithmetic.Failure} (first : (generate g (naming m text)).2 = .ok words)
    (value : Arithmetic.evaluate (Arithmetic.sanitize words) = .error failure) :
    let done := outline generate .arithmetic m g text
    done.1 = (generate g (naming m text)).1 ∧
      done.2.2 = .ok (refusedRun (Arithmetic.sanitize words) failure.fault.message) := by
  have called : (generate g ((Pending.extraction text).call m)).2 = .ok words := first
  simp only [outline, called, Evaluator.arithmetic, value]
  exact ⟨rfl, rfl⟩

theorem outline_phrased {result : Arithmetic.Success} (first : (generate g (naming m text)).2 = .ok words)
    (value : Arithmetic.evaluate (Arithmetic.sanitize words) = .ok result) :
    let done := outline generate .arithmetic m g text
    let called := generate (generate g (naming m text)).1
      (phrasing m text (Arithmetic.sanitize words) result.formatted)
    done.1 = called.1 ∧ done.2.2 = called.2.map fun answer =>
      answeredRun text (Arithmetic.sanitize words) result.formatted (Text.trim answer) := by
  have called : (generate g ((Pending.extraction text).call m)).2 = .ok words := first
  have again : (generate (generate g ((Pending.extraction text).call m)).1 (.withTemperature (Prompt.formatting.fill
      (fields text (Arithmetic.sanitize words) result.formatted)) m.formatting)).2 =
    (generate (generate g (naming m text)).1
      (phrasing m text (Arithmetic.sanitize words) result.formatted)).2 := rfl
  simp only [outline, called, Evaluator.arithmetic, value, again]
  cases (generate (generate g (naming m text)).1
      (phrasing m text (Arithmetic.sanitize words) result.formatted)).2 with
  | error f => exact ⟨rfl, rfl⟩
  | ok answer => exact ⟨rfl, rfl⟩

end

/-- The answer to a text comes in one of these ways, with what the gateway gives. -/
theorem ways_answer (m : Manner) (g : γ) (log : Transcript) (text : String) :
    let done := answer (transcribed generate) m (g, log) text
    ∃ exchanges, done.1.2 = log ++ exchanges ∧ Ways m text exchanges done.2.2 ∧
      ∀ e ∈ exchanges, ∃ h, e.2 = (generate h e.1).2 := by
  dsimp only
  cases question : Classifier.isQuestion text with
  | false =>
    rw [answer_direct question]
    exact ⟨[(.plain text, _)], rfl, .direct question _, List.forall_mem_singleton.mpr ⟨g, rfl⟩⟩
  | true =>
    rw [answer_question question]
    dsimp only
    cases first : (generate g (naming m text)).2 with
    | error f =>
      have unnamed : (transcribed generate (g, log) (naming m text)).2 = .error f := first
      obtain ⟨gateway, outcome⟩ := outline_unnamed unnamed
      rw [gateway, outcome]
      refine ⟨[(naming m text, (generate g (naming m text)).2)], rfl, ?_,
        List.forall_mem_singleton.mpr ⟨g, rfl⟩⟩
      rw [first]
      exact .unnamed question f
    | ok words =>
      have named : (transcribed generate (g, log) (naming m text)).2 = .ok words := first
      cases value : Arithmetic.evaluate (Arithmetic.sanitize words) with
      | error failure =>
        obtain ⟨gateway, outcome⟩ := outline_refused named value
        rw [gateway, outcome]
        refine ⟨[(naming m text, (generate g (naming m text)).2)], rfl, ?_,
          List.forall_mem_singleton.mpr ⟨g, rfl⟩⟩
        rw [first]
        exact .refused question value
      | ok result =>
        obtain ⟨gateway, outcome⟩ := outline_phrased named value
        rw [gateway, outcome]
        let again := phrasing m text (Arithmetic.sanitize words) result.formatted
        refine ⟨[(naming m text, (generate g (naming m text)).2),
          (again, (generate (generate g (naming m text)).1 again).2)], ?_, ?_, ?_⟩
        · exact List.append_assoc ..
        · rw [first, Answer.ofCall_map]
          exact .phrased question value _
        · exact List.forall_mem_cons.mpr ⟨⟨g, rfl⟩, List.forall_mem_singleton.mpr ⟨_, rfl⟩⟩

end

namespace Assistant

/-- The turn in which a text is served. -/
def turn (a : Assistant) (context : Context) (sessionId text : String) (showStages : Bool) : Turn :=
  ⟨sessionId, showStages, a.asking sessionId text, (context.bind .sessionId (some sessionId)).1,
    (context.bind .sessionId (some sessionId)).2,
    if Classifier.isQuestion text then .solution (.extraction text) else .answer text⟩

/-- The assistant with a text saved and its turn in flight. -/
def asked (a : Assistant) (sessionId text : String) : Assistant :=
  { a with store := (a.store.hold sessionId).save (a.asking sessionId text), issued := a.issued + 1 }

/-- Ends a turn with an answer, or with the defect that there is instead. -/
def settle (a : Assistant) (t : Turn) : Except Defect Answer → Assistant × Progress
  | .ok x => a.conclude t (x.draft t.showStages) x.run?
  | .error d => (a.leave t.sessionId, .ended t.contextAfter (.error (.defect d)))

/-- What a turn comes to with an answer. -/
def outcome (a : Assistant) (t : Turn) : Except Defect Answer → Except TurnFailure Response
  | .ok x =>
    let m := a.told (x.draft t.showStages)
    .ok ⟨m, x.run?, (t.conversation.add m).messages⟩
  | .error d => .error (.defect d)

section

variable {γ : Type} {generate : γ → Call → γ × Except CallFailure String} {g : γ} {a : Assistant} {t : Turn}
  {context : Context} {sessionId text : String}

theorem publish_nil (a : Assistant) (sessionId : String) : a.publish sessionId [] = a := by
  have same : (Solver.publish · sessionId []) = id := by
    funext f
    simp [Solver.publish]
  rw [publish, same, Option.map_id]
  rfl

theorem publish_publish (a : Assistant) (sessionId : String) (x y : List Note) :
    (a.publish sessionId x).publish sessionId y = a.publish sessionId (x ++ y) := by
  simp only [publish, Option.map_map, Function.comp_def, publish_append]

theorem giveUp_eq_settle {α : Type} (made : α → Answer) (f : CallFailure) :
    a.giveUp t f = a.settle t (Answer.ofCall made (.error f)) := by
  cases f <;> rfl

theorem settle_progress (answer : Except Defect Answer) :
    (a.settle t answer).2 = .ended t.contextAfter (a.outcome t answer) := by
  cases answer <;> rfl

theorem issued_settle (a : Assistant) (t : Turn) (x : Answer) :
    (a.settle t (.ok x)).1.issued = a.issued + 1 := rfl

/-- A turn that waits for the model's own words ends with them. -/
theorem resume_words (waits : t.wait = .answer text) (reply : Except CallFailure String) :
    a.resume t reply = a.settle t (Answer.ofCall .words reply) := by
  simp only [resume, waits]
  cases reply with
  | error f => exact giveUp_eq_settle .words f
  | ok words =>
    simp only [Answer.ofCall, settle, Answer.draft, Answer.run?]
    cases Draft.ofWords words with
    | some d => rfl
    | none => rfl

theorem manner_publish (a : Assistant) (sessionId : String) (notes : List Note) :
    (a.publish sessionId notes).manner = a.manner := rfl

theorem resume_solution {p : Pending} (waits : t.wait = .solution p) (reply : Except CallFailure String) :
    a.resume t reply = a.proceed t (p.resume reply) := by
  simp only [resume, waits]

theorem followWith_settle (answer : Except Defect Answer) :
    followWith generate g (a.settle t answer).1 (a.settle t answer).2 =
      (g, (a.settle t answer).1, t.contextAfter, a.outcome t answer) := by
  rw [settle_progress, followWith_ended]

theorem proceed_callFailed (k : Task) (input : Option Payload) (f : CallFailure) :
    a.proceed t (callFailed k input f) =
      (a.publish t.sessionId (callFailed k input f).notes).settle t (Answer.ofCall .run (.error f)) := by
  cases f <;> rfl

/-- A turn that waits for the wording of a result goes the way of its outline from there. -/
theorem followWith_formatting {result : Arithmetic.Success} {expression : String}
    (same : result.expression = expression) (before : List Note)
    (waits : t.wait = .solution (.formatting text result)) :
    let input := fields text expression result.formatted
    let called := generate g (.withTemperature (Prompt.formatting.fill input) a.manner.formatting)
    let ended := match called.2 with
      | .error f => ((callFailed .format (some (.fields input)) f).notes, Answer.ofCall .run (.error f))
      | .ok words =>
        let last := wording text expression result.formatted (Text.trim words)
        let run := Run.ofStages [extraction expression, evaluation expression result.formatted, last]
          (some (Text.trim words))
        ([.stage .format last, .finished run.success], .ok (.run run))
    let b := a.publish t.sessionId (before ++ ended.1)
    followWith generate g (a.publish t.sessionId before) (.waiting t) =
      (called.1, (b.settle t ended.2).1, t.contextAfter, b.outcome t ended.2) := by
  subst same
  dsimp only
  have call : t.wait.call a.manner = .withTemperature
      (Prompt.formatting.fill (fields text result.expression result.formatted)) a.manner.formatting := by
    rw [waits]
    rfl
  rw [followWith_waiting, manner_publish, call, resume_solution waits]
  cases (generate g (.withTemperature
      (Prompt.formatting.fill (fields text result.expression result.formatted)) a.manner.formatting)).2 with
  | error f =>
    dsimp only [Pending.resume]
    rw [proceed_callFailed, publish_publish]
    exact followWith_settle _
  | ok words =>
    dsimp only [Pending.resume, formatted, finish, proceed]
    rw [publish_publish]
    exact followWith_settle (.ok (.run _))

/-- A turn that waits for a solution goes the way of its outline. -/
theorem followWith_extraction (waits : t.wait = .solution (.extraction text)) :
    let done := outline generate .arithmetic a.manner g text
    let b := a.publish t.sessionId done.2.1
    followWith generate g (a.publish t.sessionId (Solver.start text).notes) (.waiting t) =
      (done.1, (b.settle t (Answer.ofCall .run done.2.2)).1, t.contextAfter,
        b.outcome t (Answer.ofCall .run done.2.2)) := by
  have call : t.wait.call a.manner = (Pending.extraction text).call a.manner := by
    rw [waits]
    rfl
  dsimp only [outline]
  rw [followWith_waiting, manner_publish, call, resume_solution waits]
  cases first : (generate g ((Pending.extraction text).call a.manner)).2 with
  | error f =>
    dsimp only [Pending.resume]
    rw [proceed_callFailed, publish_publish]
    exact followWith_settle _
  | ok words =>
    dsimp only [Pending.resume, extracted, Evaluator.arithmetic]
    generalize Arithmetic.sanitize words = expression
    cases value : Arithmetic.evaluate expression with
    | error failure =>
      dsimp only [finish, proceed]
      rw [publish_publish]
      exact followWith_settle (.ok (.run _))
    | ok result =>
      have same := expression_of_evaluate value
      have later := @followWith_formatting γ generate
        (generate g ((Pending.extraction text).call a.manner)).1 a
        { t with wait := .solution (.formatting text result) } text result expression same
      dsimp only [proceed]
      -- The turn waits once more, with what has been told so far.
      rw [publish_publish, later _ rfl]
      subst same
      dsimp only
      cases (generate (generate g ((Pending.extraction text).call a.manner)).1 (.withTemperature
          (Prompt.formatting.fill (fields text result.expression result.formatted)) a.manner.formatting)).2 with
      | error f => rfl
      | ok words => rfl

theorem enter_eq (free : a.store.isBusy sessionId = false) (spoken : Text.blank text = false)
    (context : Context) (verbose : Option Bool) :
    a.enter context sessionId text verbose =
      ((a.asked sessionId text).publish sessionId
          (if Classifier.isQuestion text then (Solver.start text).notes else []),
        .waiting (a.turn context sessionId text (verbose.getD a.showStages))) := by
  have acceptable := Message.make_of_spoken (m := a.said text) spoken
  rw [said] at acceptable
  unfold enter turn
  rw [Store.enter_of_free free]
  dsimp only
  rw [acceptable]
  cases Classifier.isQuestion text with
  | true => rfl
  | false =>
    rw [if_neg Bool.false_ne_true, publish_nil]
    rfl

/-- A turn ends with the answer to its text, after what is noted of it has been told. -/
theorem respondWith_eq (free : a.store.isBusy sessionId = false) (spoken : Text.blank text = false)
    (context : Context) (verbose : Option Bool) :
    respondWith generate g a context sessionId text verbose =
      let done := answer generate a.manner g text
      let t := a.turn context sessionId text (verbose.getD a.showStages)
      let b := (a.asked sessionId text).publish sessionId done.2.1
      (done.1, (b.settle t done.2.2).1, context, b.outcome t done.2.2) := by
  have released : (a.turn context sessionId text (verbose.getD a.showStages)).contextAfter = context := by
    rw [Turn.contextAfter, turn, Context.release_bind]
  dsimp only [respondWith]
  rw [enter_eq free spoken]
  cases question : Classifier.isQuestion text with
  | true =>
    have waits : (a.turn context sessionId text (verbose.getD a.showStages)).wait =
        .solution (.extraction text) := if_pos question
    have followed := @followWith_extraction γ generate g (a.asked sessionId text) _ text waits
    rw [released] at followed
    rw [answer_question question]
    exact followed
  | false =>
    have waits : (a.turn context sessionId text (verbose.getD a.showStages)).wait = .answer text :=
      if_neg (by simp [question])
    have call : (a.turn context sessionId text (verbose.getD a.showStages)).wait.call
        (a.asked sessionId text).manner = .plain text := by
      rw [waits]
      rfl
    rw [answer_direct question, if_neg Bool.false_ne_true]
    simp only [publish_nil]
    rw [followWith_waiting, call, resume_words waits, followWith_settle, released]

/-- A text is refused in the same way whether the stages are to be shown or not. -/
theorem respondWith_refused (refused : a.store.isBusy sessionId = true ∨ Text.blank text = true)
    (context : Context) : ∃ b f, ∀ verbose,
      respondWith generate g a context sessionId text verbose = (g, b, context, .error f) := by
  by_cases busy : a.store.isBusy sessionId = true
  · refine ⟨a, .busy (.reply sessionId), ?_⟩
    intro verbose
    rw [respondWith, enter_of_busy busy, followWith_ended]
  · have free : a.store.isBusy sessionId = false := by simpa using busy
    obtain ⟨issues, unacceptable⟩ := @Message.make_of_blank (a.said text) (refused.resolve_left busy)
    rw [said] at unacceptable
    refine ⟨({ a with store := a.store.hold sessionId, issued := a.issued + 1 } : Assistant).leave sessionId,
      .unacceptable issues, ?_⟩
    intro verbose
    rw [respondWith, enter, Store.enter_of_free free]
    dsimp only
    rw [unacceptable]
    exact followWith_ended ..

theorem followWith_transcribed (g : γ) (log : Transcript) (a : Assistant) (p : Progress) :
    let kept := followWith (transcribed generate) (g, log) a p
    followWith generate g a p = (kept.1.1, kept.2) := by
  induction g, a, p using followWith.induct generate generalizing log with
  | case1 g a context result => rw [followWith_ended, followWith_ended]
  | case2 g a t called next ih =>
    rw [followWith_waiting, followWith_waiting]
    exact ih _

/-- Keeping a transcript changes nothing else. -/
theorem respondWith_transcribed (g : γ) (log : Transcript) (a : Assistant) (context : Context)
    (sessionId text : String) (verbose : Option Bool) :
    let kept := respondWith (transcribed generate) (g, log) a context sessionId text verbose
    respondWith generate g a context sessionId text verbose = (kept.1.1, kept.2) :=
  followWith_transcribed g log _ _

/-- What is done while a text is served: it is saved, the notes are told, and the reply is saved and told of. -/
def serving (a : Assistant) (sessionId text : String) (notes : List Note) (reply : Message) : List Effect :=
  [.hold sessionId, .save (a.asking sessionId text)] ++ noted sessionId notes ++
    [.save ((a.asking sessionId text).add reply),
      .tell sessionId Feed.replyKind "conversation" (replyData reply), .leave sessionId]

theorem books_settle (x : Answer) (notes : List Note) (showStages : Bool) :
    let t := a.turn context sessionId text showStages
    let b := (a.asked sessionId text).publish sessionId notes
    (b.settle t (.ok x)).1.books =
      a.books.afterAll (a.serving sessionId text notes (b.told (x.draft showStages))) := by
  intro t b
  rw [serving, Books.afterAll_append, Books.afterAll_append]
  have entered : a.books.afterAll [.hold sessionId, .save (a.asking sessionId text)] =
      (a.asked sessionId text).books := rfl
  rw [entered, ← books_publish]
  rfl

end

end Assistant

end Reckoner.Chat
