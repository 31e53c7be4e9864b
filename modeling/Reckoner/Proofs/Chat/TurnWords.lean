import Reckoner.Proofs.Chat.Journal

namespace Reckoner.Chat

open Reckoner.Feed Reckoner.Gateway

/-- What an event tells: a numbered stage begins, or ends with or without success; a run is over; the
turn is. -/
inductive Mark where
  | running (number : Nat)
  | complete (number : Nat)
  | error (number : Nat)
  | pipeline (success : Bool)
  | reply
  deriving DecidableEq, Repr

def Mark.ofStage (s : Stage) : Option Mark :=
  match s.status with
  | .pending => none
  | .running => some (.running s.number)
  | .complete => some (.complete s.number)
  | .error => some (.error s.number)

/-- The mark that the kind and the data of an event stand for. -/
def Mark.of? (kind : String) (data : Json.Members) : Option Mark :=
  if kind = stageKind then
    match Stage.check data with
    | .ok s => ofStage s
    | .error _ => none
  else if kind = pipelineKind then
    match data.get? "success" with
    | some (.bool success) => some (.pipeline success)
    | _ => none
  else if kind = replyKind then some .reply
  else none

/-- The words of turns that are over. -/
inductive Word : (published question : Bool) → List Mark → Prop where
  | direct (published : Bool) : Word published false [.reply]
  | unpublished : Word false true [.reply]
  | unextracted : Word true true [.running 1, .error 1, .reply]
  | unevaluated : Word true true
      [.running 1, .complete 1, .running 2, .error 2, .pipeline false, .reply]
  | unformatted : Word true true
      [.running 1, .complete 1, .running 2, .complete 2, .running 3, .error 3, .reply]
  | solved : Word true true
      [.running 1, .complete 1, .running 2, .complete 2, .running 3, .complete 3, .pipeline true, .reply]

/-- Does a turn solve a question? -/
def Wait.solves : Wait → Bool
  | .answer _ => false
  | .solution _ => true

/-- What has been told of a turn that waits. -/
def Wait.marks (published : Bool) : Wait → List Mark
  | .answer _ => []
  | .solution (.extraction _) => if published then [.running 1] else []
  | .solution (.formatting ..) =>
    if published then [.running 1, .complete 1, .running 2, .complete 2, .running 3] else []

/-- What has been told of a turn that waits is the beginning of a word. -/
theorem Wait.word_goes_on (published : Bool) (wait : Wait) :
    ∃ rest, rest ≠ [] ∧ Word published wait.solves (wait.marks published ++ rest) := by
  cases wait with
  | answer text => exact ⟨[.reply], List.cons_ne_nil _ _, .direct published⟩
  | solution p =>
    cases p with
    | extraction question =>
      cases published with
      | false => exact ⟨[.reply], List.cons_ne_nil _ _, .unpublished⟩
      | true => exact ⟨[.error 1, .reply], List.cons_ne_nil _ _, .unextracted⟩
    | formatting question result =>
      cases published with
      | false => exact ⟨[.reply], List.cons_ne_nil _ _, .unpublished⟩
      | true => exact ⟨[.error 3, .reply], List.cons_ne_nil _ _, .unformatted⟩

/-- The mark of an effect, if it tells a session of anything. -/
def Effect.mark? (s : String) : Effect → Option (Option Mark)
  | .tell other kind _ data => if other = s then some (Mark.of? kind data) else none
  | _ => none

/-- The marks of all that a session is told. -/
def marksFor (s : String) (effects : List Effect) : List (Option Mark) :=
  effects.filterMap (Effect.mark? s)

theorem Mark.of?_stage (s : Stage) : Mark.of? stageKind s.toMembers = ofStage s := by
  rw [of?, if_pos rfl, Stage.check_toMembers]

theorem Mark.of?_note (n : Solver.Note) : Mark.of? n.kind n.data =
    match n with
    | .stage _ s => ofStage s
    | .finished success => some (.pipeline success) := by
  cases n with
  | stage t s => exact Mark.of?_stage s
  | finished success => rfl

@[simp] theorem marksFor_nil (s : String) : marksFor s [] = [] := rfl

@[simp] theorem marksFor_append (s : String) (x y : List Effect) :
    marksFor s (x ++ y) = marksFor s x ++ marksFor s y :=
  List.filterMap_append

/-- A session is told by its own effects alone. -/
theorem marksFor_effectsOf (s : String) (effects : List Effect) :
    marksFor s (effectsOf s effects) = marksFor s effects := by
  rw [marksFor, effectsOf, List.filterMap_filter]
  refine List.filterMap_congr ?_
  intro x _
  cases x with
  | tell other kind node data => by_cases own : other = s <;> simp [Effect.sessionId, Effect.mark?, own]
  | _ => simp [Effect.mark?]

theorem marksFor_noted (s other : String) (notes : List Solver.Note) :
    marksFor s (noted other notes) =
      if other = s ∧ s.isEmpty = false then notes.map fun n => Mark.of? n.kind n.data else [] := by
  unfold noted
  by_cases same : other = s
  · subst same
    cases other.isEmpty with
    | true => simp
    | false => simp [marksFor, List.filterMap_map, Effect.mark?, Function.comp_def]
  · simp only [same, false_and, if_false]
    split
    · rfl
    · simp [marksFor, List.filterMap_map, Effect.mark?, Function.comp_def, same]

namespace Assistant

section

variable (a : Assistant) (t : Turn)

theorem marksFor_closing (s : String) (d : Draft) :
    marksFor s (a.closing t d) = if t.sessionId = s then [some .reply] else [] := by
  have told : Mark.of? replyKind (replyData (a.told d)) = some .reply := by
    simp [Mark.of?, replyKind, stageKind, pipelineKind]
  by_cases same : t.sessionId = s
  · simp [marksFor, closing, List.filterMap_cons, Effect.mark?, same, told]
  · simp [marksFor, closing, List.filterMap_cons, Effect.mark?, same]

/-- A turn tells its own session alone. -/
theorem marksFor_givingUp_other {s : String} (other : t.sessionId ≠ s) (f : CallFailure) :
    marksFor s (a.givingUp t f) = [] := by
  cases f with
  | gateway g => rw [givingUp, marksFor_closing, if_neg other]
  | defect d => rfl

theorem marksFor_proceeding_other {s : String} (other : t.sessionId ≠ s) (move : Solver.Move) :
    marksFor s (a.proceeding t move) = [] := by
  rw [proceeding, marksFor_append, marksFor_noted]
  simp only [other, false_and, if_false, List.nil_append]
  cases move.next with
  | waiting p => rfl
  | solved r => rw [marksFor_closing, if_neg other]
  | failed f => exact marksFor_givingUp_other a t other f

theorem marksFor_resuming_other {s : String} (other : t.sessionId ≠ s)
    (reply : Except CallFailure String) : marksFor s (a.resuming t reply) = [] := by
  unfold resuming
  cases t.wait with
  | solution p => exact marksFor_proceeding_other a t other _
  | answer text =>
    cases reply with
    | error f => exact marksFor_givingUp_other a t other f
    | ok words =>
      dsimp only
      split <;> rw [marksFor_closing, if_neg other]

theorem marksFor_entering {s other text : String} (free : a.store.isBusy other = false)
    (spoken : Text.blank text = false) :
    marksFor s (a.entering other text) =
      if other = s then
        ((if Classifier.isQuestion text then Wait.solution (.extraction text) else .answer text).marks
          (!s.isEmpty)).map some
      else [] := by
  simp only [entering, free, spoken, Bool.false_eq_true, if_false, marksFor_append]
  have stored : marksFor s [.hold other, .save (a.asking other text)] = [] := rfl
  rw [stored, List.nil_append]
  cases Classifier.isQuestion text with
  | false => simp [Wait.marks]
  | true =>
    simp only [if_true, marksFor_noted, Solver.start, List.map_cons, List.map_nil, Mark.of?_note]
    cases s.isEmpty <;> simp [Wait.marks, Mark.ofStage, Solver.Task.begun, Stage.start, Stage.number,
      Solver.Task.position]

/-- The marks of a move of a solution are those of its notes, and of the reply if it is over. -/
theorem marksFor_proceeding (move : Solver.Move) :
    marksFor t.sessionId (a.proceeding t move) =
      (if t.sessionId.isEmpty = false then move.notes.map fun n => Mark.of? n.kind n.data else []) ++
        match move.next with
        | .waiting _ => []
        | .solved _ => [some .reply]
        | .failed (.gateway _) => [some .reply]
        | .failed (.defect _) => [] := by
  rw [proceeding, marksFor_append, marksFor_noted]
  simp only [true_and]
  congr 1
  cases move.next with
  | waiting p => rfl
  | solved r => rw [marksFor_closing, if_pos rfl]
  | failed f =>
    cases f with
    | gateway g =>
      dsimp only
      rw [givingUp, marksFor_closing, if_pos rfl]
    | defect d => rfl

/-- What the turn comes to with a reply, and the marks that it is told with. -/
def Advances (published : Bool) (t : Turn) (new : List Mark) (p : Progress) : Prop :=
  (∃ wait, p = .waiting { t with wait } ∧ wait.solves = t.wait.solves ∧
    wait.marks published = t.wait.marks published ++ new) ∨
  ∃ context r, p = .ended context (.ok r) ∧
    Word published t.wait.solves (t.wait.marks published ++ new)

/-- A move of a solution goes on with the marks of its notes, or ends with them and the reply's. -/
def Continues (published : Bool) (p : Solver.Pending) (steps : List Mark) : Solver.Next → Prop
  | .waiting q => (Wait.solution q).marks published = (Wait.solution p).marks published ++ steps
  | .solved _ | .failed (.gateway _) =>
    Word published true ((Wait.solution p).marks published ++ steps ++ [.reply])
  | .failed (.defect _) => False

/-- The marks that the notes of a move are told with. -/
def stepsOf (published : Bool) (notes : List Solver.Note) : List (Option Mark) :=
  if published then notes.map fun n => Mark.of? n.kind n.data else []

theorem advances_proceed {p : Solver.Pending} (solves : t.wait = .solution p) (move : Solver.Move)
    {steps : List Mark} (noted : stepsOf (!t.sessionId.isEmpty) move.notes = steps.map some)
    (continues : Continues (!t.sessionId.isEmpty) p steps move.next) :
    ∃ new : List Mark, marksFor t.sessionId (a.proceeding t move) = new.map some ∧
      Advances (!t.sessionId.isEmpty) t new (a.proceed t move).2 := by
  have told : (if t.sessionId.isEmpty = false then move.notes.map fun n => Mark.of? n.kind n.data
      else []) = steps.map some := by
    rw [← noted, stepsOf]
    cases t.sessionId.isEmpty <;> rfl
  rw [marksFor_proceeding, told]
  unfold Advances proceed
  rw [solves]
  cases next : move.next with
  | waiting q =>
    rw [next] at continues
    exact ⟨steps, List.append_nil _, Or.inl ⟨.solution q, rfl, rfl, continues⟩⟩
  | solved r =>
    rw [next] at continues
    refine ⟨steps ++ [.reply], by simp, Or.inr ⟨_, _, rfl, ?_⟩⟩
    rw [← List.append_assoc]
    exact continues
  | failed f =>
    rw [next] at continues
    cases f with
    | gateway g =>
      refine ⟨steps ++ [.reply], by simp, Or.inr ⟨_, _, rfl, ?_⟩⟩
      rw [← List.append_assoc]
      exact continues
    | defect d => exact continues.elim

theorem Mark.of?_begun (k : Solver.Task) (input : Option Payload) :
    Mark.of? stageKind (k.begun input).toMembers = some (.running (k.position + 1)) := by
  rw [Mark.of?_stage]
  rfl

theorem Mark.of?_done (k : Solver.Task) (input : Option Payload) (output : String) :
    Mark.of? stageKind (k.done input output).toMembers = some (.complete (k.position + 1)) := by
  rw [Mark.of?_stage]
  rfl

theorem Mark.of?_failed (k : Solver.Task) (input : Option Payload) (reason : String) :
    Mark.of? stageKind (k.failed input reason).toMembers = some (.error (k.position + 1)) := by
  rw [Mark.of?_stage]
  rfl

theorem Mark.of?_finished (success : Bool) :
    Mark.of? pipelineKind [("success", .bool success)] = some (.pipeline success) := rfl

/-- Marks that are told unless the session has no name. -/
def shown (published : Bool) (steps : List Mark) : List Mark :=
  if published then steps else []

theorem stepsOf_eq {published : Bool} {notes : List Solver.Note} {steps : List Mark}
    (h : (notes.map fun n => Mark.of? n.kind n.data) = steps.map some) :
    stepsOf published notes = (shown published steps).map some := by
  cases published with
  | false => rfl
  | true => exact h

/-- What a failed call is told with. -/
theorem continues_callFailed (published : Bool) (p : Solver.Pending) (k : Solver.Task)
    (input : Option Payload) {f : CallFailure} (reported : ∀ d, f ≠ .defect d)
    (word : Word published true ((Wait.solution p).marks published ++
      shown published [.error (k.position + 1)] ++ [.reply])) :
    ∃ steps : List Mark, stepsOf published (Solver.callFailed k input f).notes = steps.map some ∧
      Continues published p steps (Solver.callFailed k input f).next := by
  cases f with
  | gateway g =>
    refine ⟨shown published [.error (k.position + 1)], stepsOf_eq ?_, word⟩
    exact congrArg (fun m => [m]) (Mark.of?_failed k input g.message)
  | defect d => exact absurd rfl (reported d)

/-- Every reply of the model that is no defect takes a solution on within its word. -/
theorem continues_resume (published : Bool) (p : Solver.Pending) {reply : Except CallFailure String}
    (reported : ∀ d, reply ≠ .error (.defect d)) :
    ∃ steps : List Mark, stepsOf published (p.resume reply).notes = steps.map some ∧
      Continues published p steps (p.resume reply).next := by
  cases p with
  | extraction question =>
    cases reply with
    | error f =>
      refine continues_callFailed published _ .extract none (fun d same => reported d (by rw [same])) ?_
      cases published
      · exact .unpublished
      · exact .unextracted
    | ok words =>
      simp only [Solver.Pending.resume, Solver.extracted]
      cases Arithmetic.evaluate (Arithmetic.sanitize words) with
      | ok result =>
        refine ⟨shown published [.complete 1, .running 2, .complete 2, .running 3], stepsOf_eq ?_, ?_⟩
        · simp only [List.map_cons, List.map_nil, List.cons_append, List.nil_append, Solver.Note.kind,
            Solver.Note.data, Mark.of?_begun, Mark.of?_done]
          rfl
        · cases published <;> rfl
      | error f =>
        refine ⟨shown published [.complete 1, .running 2, .error 2, .pipeline false], stepsOf_eq ?_, ?_⟩
        · simp only [Solver.finish, List.map_cons, List.map_nil, List.cons_append, List.nil_append,
            Solver.Note.kind, Solver.Note.data, Mark.of?_begun, Mark.of?_done, Mark.of?_failed,
            Mark.of?_finished]
          rfl
        · cases published
          · exact .unpublished
          · exact .unevaluated
  | formatting question result =>
    cases reply with
    | error f =>
      refine continues_callFailed published _ .format _ (fun d same => reported d (by rw [same])) ?_
      cases published
      · exact .unpublished
      · exact .unformatted
    | ok words =>
      simp only [Solver.Pending.resume, Solver.formatted]
      refine ⟨shown published [.complete 3, .pipeline true], stepsOf_eq ?_, ?_⟩
      · simp only [Solver.finish, List.map_cons, List.map_nil, Solver.Note.kind, Solver.Note.data,
          Mark.of?_done, Mark.of?_finished]
        rfl
      · cases published
        · exact .unpublished
        · exact .solved

theorem resume_answer {text : String} (answers : t.wait = .answer text)
    {reply : Except CallFailure String} (reported : ∀ d, reply ≠ .error (.defect d)) :
    ∃ d, a.resuming t reply = a.closing t d ∧ a.resume t reply = a.conclude t d none := by
  simp only [resume, resuming, answers]
  cases reply with
  | error f =>
    cases f with
    | gateway g => exact ⟨_, rfl, rfl⟩
    | defect d => exact absurd rfl (reported d)
  | ok words =>
    dsimp only
    cases Draft.ofWords words with
    | some d => exact ⟨d, rfl, rfl⟩
    | none => exact ⟨_, rfl, rfl⟩

/-- A reply that is no defect moves the turn on within its word, or ends the word. -/
theorem marksFor_resuming {reply : Except CallFailure String}
    (reported : ∀ d, reply ≠ .error (.defect d)) :
    ∃ new : List Mark, marksFor t.sessionId (a.resuming t reply) = new.map some ∧
      Advances (!t.sessionId.isEmpty) t new (a.resume t reply).2 := by
  cases wait : t.wait with
  | answer text =>
    obtain ⟨d, resuming, resume⟩ := resume_answer a t wait reported
    rw [resuming, resume, marksFor_closing, if_pos rfl]
    refine ⟨[.reply], rfl, Or.inr ⟨_, _, rfl, ?_⟩⟩
    rw [wait]
    exact .direct _
  | solution p =>
    obtain ⟨steps, noted, continues⟩ := continues_resume (!t.sessionId.isEmpty) p reported
    simp only [resuming, resume, wait]
    exact advances_proceed a t wait (p.resume reply) noted continues

end

end Assistant

end Reckoner.Chat
