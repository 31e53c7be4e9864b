import Reckoner.Proofs.Solver.Graph

namespace Reckoner.Solver.Graph

open Reckoner.Gateway

/-- A gateway with a log of the calls that are made. -/
def logged {γ : Type} (generate : γ → Call → γ × Except CallFailure String) (g : γ × List Call)
    (c : Call) : (γ × List Call) × Except CallFailure String :=
  (((generate g.1 c).1, g.2 ++ [c]), (generate g.1 c).2)

/-- The call that asks for the expression in a question. -/
def naming (m : Manner) (question : String) : Call :=
  .withTemperature (Prompt.extraction.fill [("question", question)]) m.extraction

/-- The call that asks for a sentence with the result. -/
def phrasing (m : Manner) (question expression result : String) : Call :=
  .withTemperature (Prompt.formatting.fill (fields question expression result)) m.formatting

/-- The run of a question whose expression has no value. -/
def refusedRun (expression message : String) : Run :=
  ⟨[⟨Task.extract.position, "LLM: Extract Math Expression", .complete, none, some expression, none⟩,
    ⟨Task.evaluate.position, "PAL: Execute Math", .error, some (.text expression), none, some message⟩],
    false, none⟩

/-- The run of a question that has been answered. -/
def answeredRun (question expression result answer : String) : Run :=
  ⟨[⟨Task.extract.position, "LLM: Extract Math Expression", .complete, none, some expression, none⟩,
    ⟨Task.evaluate.position, "PAL: Execute Math", .complete, some (.text expression), some result, none⟩,
    ⟨Task.format.position, "LLM: Format Response", .complete,
      some (.fields [("question", question), ("expression", expression), ("result", result)]),
      some answer, none⟩], true, some answer⟩

section

variable {γ : Type} {generate : γ → Call → γ × Except CallFailure String} {m : Manner}
  {w : World (γ × List Call)} {sessionId question : String}

/-- A solution whose first call fails comes to nothing else. -/
theorem solve_unnamed {f : CallFailure}
    (first : (generate w.gateway.1 (naming m question)).2 = .error f) :
    let done := (solve (logged generate) .arithmetic m sessionId question).on w
    done.1 = .error (.call f) ∧ done.2.gateway.2 = w.gateway.2 ++ [naming m question] := by
  have called : (logged generate w.gateway ((Pending.extraction question).call m)).2 = .error f := first
  rw [on_solve]
  simp only [outline, called]
  exact ⟨rfl, rfl⟩

/-- A solution whose expression has no value ends with it. -/
theorem solve_refused {words : String} {failure : Arithmetic.Failure}
    (first : (generate w.gateway.1 (naming m question)).2 = .ok words)
    (value : Arithmetic.evaluate (Arithmetic.sanitize words) = .error failure) :
    let done := (solve (logged generate) .arithmetic m sessionId question).on w
    done.1 = .ok (refusedRun (Arithmetic.sanitize words) failure.fault.message) ∧
      done.2.gateway.2 = w.gateway.2 ++ [naming m question] := by
  have called : (logged generate w.gateway ((Pending.extraction question).call m)).2 = .ok words := first
  rw [on_solve]
  simp only [outline, called, Evaluator.arithmetic, value]
  exact ⟨rfl, rfl⟩

section

variable {words : String} {result : Arithmetic.Success}
  (first : (generate w.gateway.1 (naming m question)).2 = .ok words)
  (value : Arithmetic.evaluate (Arithmetic.sanitize words) = .ok result)

include first value

/-- A solution whose second call fails comes to nothing else. -/
theorem solve_unphrased {f : CallFailure}
    (second : (generate (generate w.gateway.1 (naming m question)).1
      (phrasing m question (Arithmetic.sanitize words) result.formatted)).2 = .error f) :
    let done := (solve (logged generate) .arithmetic m sessionId question).on w
    done.1 = .error (.call f) ∧ done.2.gateway.2 = w.gateway.2 ++
      [naming m question, phrasing m question (Arithmetic.sanitize words) result.formatted] := by
  have called : (logged generate w.gateway ((Pending.extraction question).call m)).2 = .ok words := first
  have again : (logged generate (logged generate w.gateway ((Pending.extraction question).call m)).1
      (phrasing m question (Arithmetic.sanitize words) result.formatted)).2 = .error f := second
  unfold phrasing at again
  rw [on_solve]
  simp only [outline, called, Evaluator.arithmetic, value, again]
  refine ⟨rfl, ?_⟩
  show (w.gateway.2 ++ [_]) ++ [_] = _
  rw [List.append_assoc]
  rfl

/-- A solution whose two calls give words ends with an answer. -/
theorem solve_answered {answer : String}
    (second : (generate (generate w.gateway.1 (naming m question)).1
      (phrasing m question (Arithmetic.sanitize words) result.formatted)).2 = .ok answer) :
    let done := (solve (logged generate) .arithmetic m sessionId question).on w
    done.1 = .ok (answeredRun question (Arithmetic.sanitize words) result.formatted (Text.trim answer)) ∧
      done.2.gateway.2 = w.gateway.2 ++
        [naming m question, phrasing m question (Arithmetic.sanitize words) result.formatted] := by
  have called : (logged generate w.gateway ((Pending.extraction question).call m)).2 = .ok words := first
  have again : (logged generate (logged generate w.gateway ((Pending.extraction question).call m)).1
      (phrasing m question (Arithmetic.sanitize words) result.formatted)).2 = .ok answer := second
  unfold phrasing at again
  rw [on_solve]
  simp only [outline, called, Evaluator.arithmetic, value, again]
  refine ⟨rfl, ?_⟩
  show (w.gateway.2 ++ [_]) ++ [_] = _
  rw [List.append_assoc]
  rfl

end

/-- All that a solution can return. -/
theorem run_cases {run : Run}
    (returned : ((solve (logged generate) .arithmetic m sessionId question).on w).1 = .ok run) :
    (∃ expression message, run = refusedRun expression message) ∨
      ∃ expression result answer, run = answeredRun question expression result answer := by
  cases first : (generate w.gateway.1 (naming m question)).2 with
  | error f =>
    rw [(solve_unnamed first).1] at returned
    cases returned
  | ok words =>
    cases value : Arithmetic.evaluate (Arithmetic.sanitize words) with
    | error failure =>
      rw [(solve_refused first value).1] at returned
      exact Or.inl ⟨_, _, (Except.ok.inj returned).symm⟩
    | ok result =>
      cases second : (generate (generate w.gateway.1 (naming m question)).1
          (phrasing m question (Arithmetic.sanitize words) result.formatted)).2 with
      | error f =>
        rw [(solve_unphrased first value second).1] at returned
        cases returned
      | ok answer =>
        rw [(solve_answered first value second).1] at returned
        exact Or.inr ⟨_, _, _, (Except.ok.inj returned).symm⟩

end

/-- For every gateway the model is first asked for the expression in the question. What it names, reduced to the
characters of arithmetic, is what the first stage gives and the second one evaluates. Without a value the
run ends there, and with the second stage; with one, the model is asked once more, about the question, the expression
and the result, and its words without the white space around them are what the last stage gives and the
final answer. A call that fails is what the solution ends with. A run succeeds exactly if no stage of it has
failed, and none ends with its first stage. -/
theorem solution_follows_data {γ : Type} (generate : γ → Call → γ × Except CallFailure String)
    (m : Manner) (w : World (γ × List Call)) (sessionId question : String) :
    let done := (solve (logged generate) .arithmetic m sessionId question).on w
    ∃ ask, Prompt.extraction.render [("question", question)] = .ok ask ∧
    let first : Call := .withTemperature ask m.extraction
    let named := generate w.gateway.1 first
    (∀ f, named.2 = .error f →
      done.1 = .error (.call f) ∧ done.2.gateway.2 = w.gateway.2 ++ [first]) ∧
    (∀ words, named.2 = .ok words →
      let expression := Arithmetic.sanitize words
      (∀ failure, Arithmetic.evaluate expression = .error failure →
        done.1 = .ok (refusedRun expression failure.fault.message) ∧
          done.2.gateway.2 = w.gateway.2 ++ [first]) ∧
      (∀ result, Arithmetic.evaluate expression = .ok result →
        ∃ tell, Prompt.formatting.render
          [("question", question), ("expression", expression), ("result", result.formatted)] = .ok tell ∧
        let second : Call := .withTemperature tell m.formatting
        done.2.gateway.2 = w.gateway.2 ++ [first, second] ∧
        (∀ f, (generate named.1 second).2 = .error f → done.1 = .error (.call f)) ∧
        (∀ answer, (generate named.1 second).2 = .ok answer →
          done.1 = .ok (answeredRun question expression result.formatted (Text.trim answer))))) ∧
    (∀ run, done.1 = .ok run →
      (run.success = true ↔ run.failedStage? = none) ∧ run.stages.length ≠ 1) := by
  dsimp only
  refine ⟨_, render_extraction question, fun f => solve_unnamed, ?_, ?_⟩
  · intro words first
    refine ⟨fun failure => solve_refused first, ?_⟩
    intro result value
    refine ⟨_, render_formatting question _ result.formatted, ?_, ?_, ?_⟩
    · cases second : (generate (generate w.gateway.1 (naming m question)).1
          (phrasing m question (Arithmetic.sanitize words) result.formatted)).2 with
      | error f => exact (solve_unphrased first value second).2
      | ok answer => exact (solve_answered first value second).2
    · exact fun f second => (solve_unphrased first value second).1
    · exact fun answer second => (solve_answered first value second).1
  · intro run returned
    rcases run_cases returned with ⟨expression, message, rfl⟩ | ⟨expression, result, answer, rfl⟩
    · simp [refusedRun, Run.failedStage?]
    · simp [answeredRun, Run.failedStage?]

end Reckoner.Solver.Graph
