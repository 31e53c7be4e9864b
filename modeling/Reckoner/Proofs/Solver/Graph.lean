import Reckoner.Proofs.Prompt.PlainFields
import Reckoner.Proofs.Solver.Replay
import Reckoner.Solver.Course

namespace Reckoner.Solver

open Reckoner.Feed Reckoner.Gateway

/-- The display of the value of an expression, or why it has none. -/
abbrev Evaluator := String → Except String String

def Evaluator.arithmetic : Evaluator := fun expression =>
  match Arithmetic.evaluate expression with
  | .ok result => .ok result.formatted
  | .error f => .error f.fault.message

/-- What goes wrong in a graph: a call of the model fails, a prompt has no rendering, a stage cannot move,
a node finds nothing to work on, or the run is not valid. -/
inductive Breakdown where
  | call (f : CallFailure)
  | prompt (r : Prompt.Refusal)
  | transition (f : TransitionFault)
  | noResult
  | invalid (f : Run.Fault)

/-- What is outside of the graph: the gateway, the feed, and the events that were emitted. -/
structure World (γ : Type) where
  gateway : γ
  feed : Feed
  told : List Event

/-- Tells the listeners of a session. A session without a name has none. -/
def World.tell {γ : Type} (w : World γ) (sessionId : String) (n : Note) : World γ :=
  if sessionId.isEmpty then w
  else
    { w with
      feed := (w.feed.emit sessionId n.kind n.node n.data).1
      told := w.told ++ [(w.feed.emit sessionId n.kind n.node n.data).2] }

/-- The world when notes have been told, with the gateway as it is by then. -/
def World.after {γ : Type} (w : World γ) (g : γ) (sessionId : String) (notes : List Note) : World γ :=
  ⟨g, publish w.feed sessionId notes,
    w.told ++ if sessionId.isEmpty then [] else eventsOf w.feed sessionId notes⟩

theorem World.after_nil {γ : Type} (w : World γ) (sessionId : String) :
    w.after w.gateway sessionId [] = w := by
  unfold after publish
  split <;> simp [eventsOf]

theorem World.after_tell {γ : Type} (w : World γ) (g : γ) (sessionId : String) (notes : List Note)
    (n : Note) :
    (w.after g sessionId notes).tell sessionId n = w.after g sessionId (notes ++ [n]) := by
  unfold after tell
  rw [publish_append, eventsOf_append]
  unfold publish
  split
  · rfl
  · simp [eventsOf, Note.publish]

namespace Graph

abbrev Exec (γ : Type) := ExceptT Breakdown (StateM (World γ))

/-- What the nodes have found out. -/
structure State where
  sessionId : String
  question : String
  expression : Option String
  evaluation : Option (Except String String)
  finalAnswer : Option String
  stages : List Stage

def State.new (sessionId question : String) : State := ⟨sessionId, question, none, none, none, []⟩

/-- What the last node works on. -/
def fields (question expression result : String) : List (String × String) :=
  [("question", question), ("expression", expression), ("result", result)]

def extraction (expression : String) : Stage := Task.extract.done none expression

def evaluation (expression result : String) : Stage :=
  Task.evaluate.done (some (.text expression)) result

def refusal (expression message : String) : Stage :=
  Task.evaluate.failed (some (.text expression)) message

def wording (question expression result answer : String) : Stage :=
  Task.format.done (some (.fields (fields question expression result))) answer

section

variable {γ : Type} (generate : γ → Call → γ × Except CallFailure String) (evaluator : Evaluator)
  (m : Manner)

def tell (sessionId : String) (n : Note) : Exec γ Unit :=
  modify (·.tell sessionId n)

def orElse {α ε : Type} (breakdown : ε → Breakdown) (x : Except ε α) : Exec γ α :=
  match x with
  | .ok a => return a
  | .error e => throw (breakdown e)

def ask (c : Call) : Exec γ (Except CallFailure String) :=
  modifyGet fun w => ((generate w.gateway c).2, { w with gateway := (generate w.gateway c).1 })

/-- A call of the model for a task. The gateway's own failures fail the stage and are told. -/
def askFor (p : State) (t : Task) (stage : Stage) (c : Call) : Exec γ String := do
  match ← ask generate c with
  | .ok words => return words
  | .error (.gateway f) =>
    tell p.sessionId (.stage t (← orElse .transition (stage.fail f.message)))
    throw (.call (.gateway f))
  | .error f => throw (.call f)

/-- Takes the stage that a node has finished into the list. -/
def finished (p : State) (stage : Stage) : Exec γ State := do
  return { p with stages := ← orElse .transition (Stage.merge p.stages [stage]) }

def extractNode (p : State) : Exec γ State := do
  let stage := Task.extract.begun none
  tell p.sessionId (.stage .extract stage)
  let prompt ← orElse .prompt (Prompt.extraction.render [("question", p.question)])
  let words ← askFor generate p .extract stage (.withTemperature prompt m.extraction)
  let expression := Arithmetic.sanitize words
  let stage ← orElse .transition (stage.complete expression)
  tell p.sessionId (.stage .extract stage)
  finished { p with expression := some expression } stage

def evaluateNode (p : State) : Exec γ State := do
  let expression := p.expression.getD ""
  let stage := Task.evaluate.begun (some (.text expression))
  tell p.sessionId (.stage .evaluate stage)
  let evaluation := evaluator expression
  let stage ← orElse .transition <|
    match evaluation with
    | .ok result => stage.complete result
    | .error message => stage.fail message
  tell p.sessionId (.stage .evaluate stage)
  finished { p with evaluation := some evaluation } stage

def formatNode (p : State) : Exec γ State := do
  match p.evaluation with
  | some (.ok result) =>
    let fields := fields p.question (p.expression.getD "") result
    let stage := Task.format.begun (some (.fields fields))
    tell p.sessionId (.stage .format stage)
    let prompt ← orElse .prompt (Prompt.formatting.render fields)
    let words ← askFor generate p .format stage (.withTemperature prompt m.formatting)
    let answer := Text.trim words
    let stage ← orElse .transition (stage.complete answer)
    tell p.sessionId (.stage .format stage)
    finished { p with finalAnswer := some answer } stage
  | _ => throw .noResult

/-- The nodes one after the other; the last one only if there is a result. -/
def invoke (p : State) : Exec γ State := do
  let p ← extractNode generate m p
  let p ← evaluateNode evaluator p
  match p.evaluation with
  | some (.ok _) => formatNode generate m p
  | _ => return p

/-- The run that the list of stages makes, if it is valid. -/
def runOf (p : State) : Except Run.Fault Run :=
  let run := Run.ofStages p.stages p.finalAnswer
  match run.fault? with
  | some f => .error f
  | none => .ok run

def solve (sessionId question : String) : Exec γ Run := do
  let p ← invoke generate evaluator m (State.new sessionId question)
  let run ← orElse .invalid (runOf p)
  tell sessionId (.finished run.success)
  return run

/-- All that a solution can come to, and what is noted on the way. -/
def outline (g : γ) (question : String) : γ × List Note × Except CallFailure Run :=
  let first := generate g ((Pending.extraction question).call m)
  let begun : Note := .stage .extract (Task.extract.begun none)
  match first.2 with
  | .error f => (first.1, [begun] ++ (callFailed .extract none f).notes, .error f)
  | .ok words =>
    let expression := Arithmetic.sanitize words
    let named := [begun, .stage .extract (extraction expression),
      .stage .evaluate (Task.evaluate.begun (some (.text expression)))]
    match evaluator expression with
    | .error message =>
      let run := Run.ofStages [extraction expression, refusal expression message] none
      (first.1, named ++ [.stage .evaluate (refusal expression message), .finished run.success], .ok run)
    | .ok result =>
      let input := fields question expression result
      let computed := named ++ [.stage .evaluate (evaluation expression result),
        .stage .format (Task.format.begun (some (.fields input)))]
      let second := generate first.1 (.withTemperature (Prompt.formatting.fill input) m.formatting)
      match second.2 with
      | .error f =>
        (second.1, computed ++ (callFailed .format (some (.fields input)) f).notes, .error f)
      | .ok words =>
        let last := wording question expression result (Text.trim words)
        let run := Run.ofStages [extraction expression, evaluation expression result, last]
          (some (Text.trim words))
        (second.1, computed ++ [.stage .format last, .finished run.success], .ok run)

end

section

variable {γ α β : Type} {generate : γ → Call → γ × Except CallFailure String} {evaluator : Evaluator}
  {m : Manner} {w : World γ} {g : γ} {notes : List Note}

/-- What comes of an execution, and the world afterwards. -/
def Exec.on (x : Exec γ α) (w : World γ) : Except Breakdown α × World γ := x w

@[simp] theorem on_pure (a : α) : (pure a : Exec γ α).on w = (.ok a, w) := rfl

@[simp] theorem on_tell (sessionId : String) (n : Note) :
    (tell sessionId n : Exec γ Unit).on w = (.ok (), w.tell sessionId n) := rfl

/-- Goes on with a result, unless it is a breakdown. -/
def proceed (r : Except Breakdown α × World γ) (f : α → Exec γ β) : Except Breakdown β × World γ :=
  match r with
  | (.ok a, w) => (f a).on w
  | (.error e, w) => (.error e, w)

@[simp] theorem proceed_ok (a : α) (f : α → Exec γ β) : proceed (.ok a, w) f = (f a).on w := rfl

@[simp] theorem proceed_error (e : Breakdown) (f : α → Exec γ β) :
    proceed (.error e, w) f = (.error e, w) := rfl

theorem on_bind (x : Exec γ α) (f : α → Exec γ β) : (x >>= f).on w = proceed (x.on w) f := by
  show StateT.bind x (ExceptT.bindCont f) w = _
  simp only [StateT.bind, proceed, Exec.on]
  rcases h : x w with ⟨_ | a, w'⟩ <;> rfl

@[simp] theorem on_orElse_ok {ε : Type} (breakdown : ε → Breakdown) (a : α) :
    (orElse breakdown (.ok a) : Exec γ α).on w = (.ok a, w) := rfl

theorem on_tell_after (sessionId : String) (n : Note) :
    (tell sessionId n : Exec γ Unit).on (w.after g sessionId notes) =
      (.ok (), w.after g sessionId (notes ++ [n])) := by
  rw [on_tell, World.after_tell]

theorem on_ask_after (sessionId : String) (c : Call) :
    (ask generate c).on (w.after g sessionId notes) =
      (.ok (generate g c).2, w.after (generate g c).1 sessionId notes) := rfl

/-- A call within a stage gives the words of the model, or fails with what is noted of its failure. -/
theorem on_askFor (p : State) (t : Task) (input : Option Payload) (c : Call) :
    (askFor generate p t (t.begun input) c).on (w.after g p.sessionId notes) =
      match (generate g c).2 with
      | .ok words => (.ok words, w.after (generate g c).1 p.sessionId notes)
      | .error f => (.error (.call f),
          w.after (generate g c).1 p.sessionId (notes ++ (callFailed t input f).notes)) := by
  rw [askFor, on_bind, on_ask_after, proceed_ok]
  cases (generate g c).2 with
  | ok words => rfl
  | error f =>
    cases f with
    | gateway own =>
      dsimp only
      rw [Task.fail_begun, on_bind, on_orElse_ok, proceed_ok, on_bind, on_tell_after, proceed_ok]
      rfl
    | defect d =>
      dsimp only [callFailed]
      rw [List.append_nil]
      rfl

theorem render_extraction (question : String) : Prompt.extraction.render [("question", question)] =
    .ok (Prompt.extraction.fill [("question", question)]) := by
  apply Prompt.render_of_isPlain Prompt.isPlain_extraction
  simp [Prompt.extraction]

theorem render_formatting (question expression result : String) :
    Prompt.formatting.render (fields question expression result) =
      .ok (Prompt.formatting.fill (fields question expression result)) := by
  apply Prompt.render_of_isPlain Prompt.isPlain_formatting
  simp [Prompt.formatting, fields, List.lookup_cons]

/-- The first node names an expression, or fails with the call of the model. -/
theorem on_extractNode (sessionId question : String) :
    let called := generate g ((Pending.extraction question).call m)
    let begun := notes ++ [.stage .extract (Task.extract.begun none)]
    (extractNode generate m (.new sessionId question)).on (w.after g sessionId notes) =
      match called.2 with
      | .ok words =>
        let expression := Arithmetic.sanitize words
        (.ok ⟨sessionId, question, some expression, none, none, [extraction expression]⟩,
          w.after called.1 sessionId (begun ++ [.stage .extract (extraction expression)]))
      | .error f => (.error (.call f),
          w.after called.1 sessionId (begun ++ (callFailed .extract none f).notes)) := by
  have rendered := render_extraction question
  have asked := @on_askFor γ generate w g (notes ++ [.stage .extract (Task.extract.begun none)])
    (.new sessionId question) .extract none
  simp only [State.new] at asked
  simp only [State.new, Pending.call, extractNode, on_bind, proceed_ok, on_tell_after, rendered, on_orElse_ok, asked]
  rcases generate g (.withTemperature _ m.extraction) with ⟨g', f | words⟩
  · rfl
  · simp only [Task.complete_begun, on_orElse_ok, on_tell_after, finished, on_bind, proceed_ok]
    rfl

/-- The second node evaluates the expression, with or without success. -/
theorem on_evaluateNode (sessionId question expression : String) :
    let begun : List Note := notes ++ [.stage .evaluate (Task.evaluate.begun (some (.text expression)))]
    let ended := match evaluator expression with
      | .ok result => evaluation expression result
      | .error message => refusal expression message
    (evaluateNode evaluator
        ⟨sessionId, question, some expression, none, none, [extraction expression]⟩).on
        (w.after g sessionId notes) =
      (.ok ⟨sessionId, question, some expression, some (evaluator expression), none,
          [extraction expression, ended]⟩,
        w.after g sessionId (begun ++ [.stage .evaluate ended])) := by
  simp only [evaluateNode, Option.getD_some, on_bind, proceed_ok, on_tell_after]
  cases evaluator expression with
  | ok result =>
    simp only [Task.complete_begun, on_orElse_ok, on_tell_after, finished, on_bind, proceed_ok]
    rfl
  | error message =>
    simp only [Task.fail_begun, on_orElse_ok, on_tell_after, finished, on_bind, proceed_ok]
    rfl

/-- The last node words the result, or fails with the call of the model. -/
theorem on_formatNode (sessionId question expression result : String) :
    let input := fields question expression result
    let called := generate g (.withTemperature (Prompt.formatting.fill input) m.formatting)
    let begun := notes ++ [.stage .format (Task.format.begun (some (.fields input)))]
    (formatNode generate m ⟨sessionId, question, some expression, some (.ok result), none,
        [extraction expression, evaluation expression result]⟩).on (w.after g sessionId notes) =
      match called.2 with
      | .ok words =>
        let last := wording question expression result (Text.trim words)
        (.ok ⟨sessionId, question, some expression, some (.ok result), some (Text.trim words),
            [extraction expression, evaluation expression result, last]⟩,
          w.after called.1 sessionId (begun ++ [.stage .format last]))
      | .error f => (.error (.call f), w.after called.1 sessionId
          (begun ++ (callFailed .format (some (.fields input)) f).notes)) := by
  have rendered := render_formatting question expression result
  have asked := @on_askFor γ generate w g
    (notes ++ [.stage .format (Task.format.begun (some (.fields (fields question expression result))))])
    ⟨sessionId, question, some expression, some (.ok result), none,
      [extraction expression, evaluation expression result]⟩
    .format (some (.fields (fields question expression result)))
  simp only [formatNode, Option.getD_some, on_bind, proceed_ok, on_tell_after, rendered, on_orElse_ok, asked]
  rcases generate g (.withTemperature _ m.formatting) with ⟨g', f | words⟩
  · rfl
  · simp only [Task.complete_begun, on_orElse_ok, on_tell_after, finished, on_bind, proceed_ok]
    rfl

theorem runOf_refusal (sessionId question expression message : String) :
    runOf ⟨sessionId, question, some expression, some (.error message), none,
        [extraction expression, refusal expression message]⟩ =
      .ok (Run.ofStages [extraction expression, refusal expression message] none) := rfl

theorem runOf_wording (sessionId question expression result answer : String) :
    runOf ⟨sessionId, question, some expression, some (.ok result), some answer,
        [extraction expression, evaluation expression result,
          wording question expression result answer]⟩ =
      .ok (Run.ofStages [extraction expression, evaluation expression result,
        wording question expression result answer] (some answer)) := rfl

/-- A graph that is carried out comes to what the outline says. -/
theorem on_solve (w : World γ) (sessionId question : String) :
    (solve generate evaluator m sessionId question).on w =
      let done := outline generate evaluator m w.gateway question
      (done.2.2.mapError .call, w.after done.1 sessionId done.2.1) := by
  have first := @on_extractNode γ generate m w w.gateway [] sessionId question
  rw [World.after_nil] at first
  simp only [solve, invoke, on_bind, first, outline]
  rcases generate w.gateway ((Pending.extraction question).call m) with ⟨g', f | words⟩
  · simp only [proceed_error, List.nil_append, List.cons_append, Except.mapError]
  · simp only [proceed_ok, on_bind, on_evaluateNode]
    cases evaluator (Arithmetic.sanitize words) with
    | error message =>
      simp only [proceed_ok, on_pure, runOf_refusal, on_orElse_ok, on_bind, on_tell_after,
        List.nil_append, List.cons_append, Except.mapError]
    | ok result =>
      simp only [on_formatNode]
      rcases generate g' (.withTemperature _ m.formatting) with ⟨g'', f | words⟩
      · simp only [proceed_error, List.nil_append, List.cons_append, Except.mapError]
      · simp only [proceed_ok, on_pure, runOf_wording, on_orElse_ok, on_bind, on_tell_after,
          List.nil_append, List.cons_append, Except.mapError]

end

theorem follow_solved (m : Manner) (c : Canned) (before : List Note) (r : Run) :
    follow m c ⟨before, .solved r⟩ = (c, ⟨before, .ok r⟩) := by
  rw [follow]

theorem follow_failed (m : Manner) (c : Canned) (before : List Note) (f : CallFailure) :
    follow m c ⟨before, .failed f⟩ = (c, ⟨before, .error f⟩) := by
  rw [follow]

theorem follow_waiting (m : Manner) (c : Canned) (before : List Note) (p : Pending) :
    follow m c ⟨before, .waiting p⟩ =
      let called := c.generate (p.call m)
      let later := follow m called.1 (p.resume called.2)
      (later.1, ⟨before ++ later.2.notes, later.2.outcome⟩) := by
  rw [follow]

theorem follow_callFailed (m : Manner) (c : Canned) (t : Task) (input : Option Payload)
    (f : CallFailure) :
    follow m c (callFailed t input f) = (c, ⟨(callFailed t input f).notes, .error f⟩) := by
  cases f with
  | gateway own => rw [callFailed, follow_failed]
  | defect d => rw [callFailed, follow_failed]

/-- A result names the expression that was evaluated. -/
theorem expression_of_evaluate {expression : String} {result : Arithmetic.Success}
    (h : Arithmetic.evaluate expression = .ok result) : result.expression = expression := by
  unfold Arithmetic.evaluate Arithmetic.evaluateWithin at h
  split at h
  · cases h
    rfl
  · simp at h

/-- With the evaluator of arithmetic and a gateway whose replies are laid out beforehand, the outline is
that of the solution that is followed to its end. -/
theorem outline_canned (m : Manner) (c : Canned) (question : String) :
    outline Canned.generate Evaluator.arithmetic m c question =
      let done := Solver.solve m c question
      (done.1, done.2.notes, done.2.outcome) := by
  rw [Solver.solve, start, follow_waiting]
  dsimp only [outline]
  rcases c.generate ((Pending.extraction question).call m) with ⟨c', f | words⟩
  · simp only [Pending.resume, follow_callFailed]
  · simp only [Pending.resume, Evaluator.arithmetic, extracted]
    generalize Arithmetic.sanitize words = expression
    cases h : Arithmetic.evaluate expression with
    | error f =>
      simp only [finish, follow_solved]
      rfl
    | ok result =>
      have same := expression_of_evaluate h
      simp only [follow_waiting, Pending.call, formatInput, same, fields]
      rcases c'.generate (.withTemperature _ m.formatting) with ⟨c'', f | words⟩
      · simp only [Pending.resume, follow_callFailed, formatInput, same]
        rfl
      · simp only [Pending.resume, formatted, finish, follow_solved, formatInput, same]
        rfl

/-- So the graph does what the solution does: it comes to the same, and publishes the same. -/
theorem on_solve_canned (m : Manner) (w : World Canned) (sessionId question : String) :
    (solve Canned.generate Evaluator.arithmetic m sessionId question).on w =
      let done := Solver.solve m w.gateway question
      (done.2.outcome.mapError .call, w.after done.1 sessionId done.2.notes) := by
  rw [on_solve, outline_canned]

end Graph

end Reckoner.Solver
