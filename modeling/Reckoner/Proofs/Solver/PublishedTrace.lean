import Reckoner.Proofs.Solver.Graph

namespace Reckoner.Solver

open Reckoner.Feed Reckoner.Gateway

/-- The events tell of the stages of a run, and end with its success. -/
structure TellsOfRun (told : List Event) (run : Run) : Prop where
  stages : replay told = .ok run.stages
  success : ∃ before last, told = before ++ [last] ∧ last.kind = pipelineKind ∧
    last.data = [("success", .bool run.success)]

/-- The events tell of complete stages and one that has failed, and of no run. -/
structure TellsOfFailure (told : List Event) (own : GatewayFailure) : Prop where
  stages : ∃ earlier last, replay told = .ok (earlier ++ [last]) ∧
    (∀ s ∈ earlier, s.status = .complete) ∧ last.status = .error ∧ last.error = some own.message
  silent : ∀ e ∈ told, e.kind ≠ pipelineKind

section

variable {f : Feed} {sessionId : String} {notes : List Note}

/-- Notes whose stages merge to those of a run tell of it, if its success is noted last. -/
theorem tellsOfRun_eventsOf {run : Run}
    (merged : Stage.merge [] (notes.filterMap Note.stage?) = .ok run.stages) :
    TellsOfRun (eventsOf f sessionId (notes ++ [.finished run.success])) run where
  stages := by
    rw [replay_eventsOf, List.filterMap_append]
    show (Stage.merge [] (notes.filterMap Note.stage? ++ [])).mapError _ = _
    rw [List.append_nil, merged]
    rfl
  success := by
    rw [eventsOf_append]
    exact ⟨_, _, rfl, rfl, rfl⟩

theorem kind_of_stages (stages : ∀ n ∈ notes, n.kind = stageKind) :
    ∀ e ∈ eventsOf f sessionId notes, e.kind ≠ pipelineKind := by
  intro e he
  obtain ⟨n, hn, kind, -⟩ := kind_of_mem_eventsOf he
  rw [kind, stages n hn]
  decide

/-- Notes of stages of which the last has failed tell of the failure. -/
theorem tellsOfFailure_eventsOf {own : GatewayFailure} {earlier : List Stage} {last : Stage}
    (stages : ∀ n ∈ notes, n.kind = stageKind)
    (merged : Stage.merge [] (notes.filterMap Note.stage?) = .ok (earlier ++ [last]))
    (complete : ∀ s ∈ earlier, s.status = .complete) (failed : last.status = .error)
    (reason : last.error = some own.message) :
    TellsOfFailure (eventsOf f sessionId notes) own where
  stages := by
    refine ⟨earlier, last, ?_, complete, failed, reason⟩
    rw [replay_eventsOf, merged]
    rfl
  silent := kind_of_stages stages

end

namespace Graph

section

variable {γ : Type} {generate : γ → Call → γ × Except CallFailure String}

/-- The notes of a solution merge to the stages of its run, which is noted last, or to complete stages and
the one that the gateway failed. -/
theorem outline_cases (owned : ∀ g c f, (generate g c).2 = .error f → ∃ own, f = .gateway own)
    (evaluator : Evaluator) (m : Manner) (g : γ) (question : String) :
    let done := (outline generate evaluator m g question).2
    (∃ notes run, done = (notes ++ [.finished run.success], .ok run) ∧
      Stage.merge [] (notes.filterMap Note.stage?) = .ok run.stages) ∨
    ∃ own earlier last, done.2 = .error (.gateway own) ∧
      (∃ g c, (generate g c).2 = .error (.gateway own)) ∧
      (∀ n ∈ done.1, n.kind = stageKind) ∧
      Stage.merge [] (done.1.filterMap Note.stage?) = .ok (earlier ++ [last]) ∧
      (∀ s ∈ earlier, s.status = .complete) ∧ last.status = .error ∧
      last.error = some own.message := by
  simp only [outline]
  cases first : (generate g ((Pending.extraction question).call m)).2 with
  | error f =>
    obtain ⟨own, rfl⟩ := owned _ _ _ first
    refine Or.inr ⟨own, [], Task.extract.failed none own.message, rfl, ⟨_, _, first⟩, ?_, rfl, ?_, rfl, rfl⟩
    · simp [callFailed, Note.kind]
    · simp
  | ok words =>
    dsimp only
    generalize Arithmetic.sanitize words = expression
    cases evaluator expression with
    | error message =>
      dsimp only
      exact Or.inl ⟨[.stage .extract (Task.extract.begun none), .stage .extract (extraction expression),
        .stage .evaluate (Task.evaluate.begun (some (.text expression))),
        .stage .evaluate (refusal expression message)], _, rfl, rfl⟩
    | ok result =>
      dsimp only
      cases second : (generate (generate g ((Pending.extraction question).call m)).1 (.withTemperature
          (Prompt.formatting.fill (fields question expression result)) m.formatting)).2 with
      | error f =>
        obtain ⟨own, rfl⟩ := owned _ _ _ second
        refine Or.inr ⟨own, [extraction expression, evaluation expression result],
          Task.format.failed (some (.fields (fields question expression result))) own.message, rfl,
          ⟨_, _, second⟩, ?_, rfl, ?_, rfl, rfl⟩
        · simp [callFailed, Note.kind]
        · simp [extraction, evaluation, Task.done]
      | ok words =>
        dsimp only
        generalize Text.trim words = answer
        exact Or.inl ⟨[.stage .extract (Task.extract.begun none), .stage .extract (extraction expression),
          .stage .evaluate (Task.evaluate.begun (some (.text expression))),
          .stage .evaluate (evaluation expression result),
          .stage .format (Task.format.begun (some (.fields (fields question expression result)))),
          .stage .format (wording question expression result answer)], _, rfl, rfl⟩

end

/-- What is told of a solution agrees with what it returns, for every evaluator and every gateway that has no
failures but its own. A run is valid, and its stages are those that were told; a failure is the
gateway's own, and the stage that was told last has failed with it. -/
theorem told_agrees_with_returned {γ : Type} (generate : γ → Call → γ × Except CallFailure String)
    (owned : ∀ g c f, (generate g c).2 = .error f → ∃ own, f = .gateway own)
    (evaluator : Evaluator) (m : Manner) (w : World γ) (sessionId question : String)
    (named : sessionId ≠ "") :
    let done := (solve generate evaluator m sessionId question).on w
    ∃ told, done.2.told = w.told ++ told ∧
      ((∃ run, done.1 = .ok run ∧ TellsOfRun told run) ∨
        ∃ own, done.1 = .error (.call (.gateway own)) ∧
          (∃ g c, (generate g c).2 = .error (.gateway own)) ∧ TellsOfFailure told own) := by
  have listened : sessionId.isEmpty = false := by simpa using named
  rw [on_solve]
  simp only [World.after, listened, Bool.false_eq_true, if_false]
  refine ⟨_, rfl, ?_⟩
  rcases outline_cases owned evaluator m w.gateway question with
    ⟨notes, run, done, merged⟩ | ⟨own, earlier, last, failed, gateway, stages, merged, complete, status, reason⟩
  · rw [done]
    exact Or.inl ⟨run, rfl, tellsOfRun_eventsOf merged⟩
  · rw [failed]
    exact Or.inr ⟨own, rfl, gateway, tellsOfFailure_eventsOf stages merged complete status reason⟩

/-- A gateway that has its replies ready, and is unavailable after that. -/
def listed (replies : List (Except GatewayFailure String)) (_ : Call) :
    List (Except GatewayFailure String) × Except CallFailure String :=
  match replies with
  | [] => ([], .error (.gateway Canned.exhausted))
  | reply :: rest => (rest, reply.mapError .gateway)

/-- The model words a sum: the run succeeds with three stages, and the events tell of it. -/
theorem told_agrees_with_returned_sum :
    let w : World (List (Except GatewayFailure String)) := ⟨[.ok "2 + 2", .ok "It is 4."], .new 200, []⟩
    (∀ g c f, (listed g c).2 = .error f → ∃ own, f = .gateway own) ∧ "s" ≠ "" ∧
    let done := (solve listed .arithmetic ⟨.whole 0, .whole 0⟩ "s" "2 + 2").on w
    ∃ told run, done.2.told = w.told ++ told ∧ done.1 = .ok run ∧ TellsOfRun told run ∧
      run.success = true ∧ run.stages.length = 3 := by
  intro w
  have owned : ∀ g c f, (listed g c).2 = .error f → ∃ own, f = .gateway own := by
    rintro (_ | ⟨own | words, rest⟩) c f failed
    · exact ⟨_, (Except.error.inj failed).symm⟩
    · exact ⟨own, (Except.error.inj failed).symm⟩
    · simp [listed, Except.mapError] at failed
  have named : "s" ≠ "" := by decide
  refine ⟨owned, named, ?_⟩
  have agreed := told_agrees_with_returned listed owned .arithmetic ⟨.whole 0, .whole 0⟩ w "s" "2 + 2" named
  have whole : (match ((solve listed .arithmetic ⟨.whole 0, .whole 0⟩ "s" "2 + 2").on w).1 with
      | .ok run => run.success && run.stages.length == 3
      | .error _ => false) = true := by
    rw [on_solve]
    decide +kernel
  dsimp only at agreed ⊢
  generalize (solve listed .arithmetic ⟨.whole 0, .whole 0⟩ "s" "2 + 2").on w = done at agreed whole ⊢
  obtain ⟨told, emitted, ⟨run, returned, tells⟩ | ⟨own, failed, -, -⟩⟩ := agreed
  · rw [returned] at whole
    obtain ⟨success, three⟩ := Bool.and_eq_true_iff.mp whole
    exact ⟨told, run, emitted, returned, tells, success, beq_iff_eq.mp three⟩
  · rw [failed] at whole
    cases whole

end Graph

end Reckoner.Solver
