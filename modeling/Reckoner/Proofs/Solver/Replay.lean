import Reckoner.Solver.Note
import Reckoner.Stage.Schema

namespace Reckoner

open Reckoner.Json Reckoner.Schema

theorem Schema.membersOf_texts (members : List (String × String)) :
    membersOf Schema.text (members.map fun (n, s) => (n, .text s)) = .ok members := by
  induction members with
  | nil => rfl
  | cons p rest ih =>
    rw [List.map_cons, membersOf, ih]
    rfl

theorem Payload.check_toJson (p : Payload) : Payload.check p.toJson = .ok p := by
  cases p with
  | text s => rfl
  | fields members =>
    rw [toJson, Payload.check]
    · rw [dictionaryOf, Schema.membersOf_texts]
    · intro s h
      simp at h

theorem Payload.checkNullable_toJson (p : Option Payload) :
    nullable Payload.check ((p.map toJson).getD .null) = .ok p := by
  cases p with
  | none => rfl
  | some p =>
    rw [Option.map_some, Option.getD_some, nullable, Payload.check_toJson]
    · rfl
    · cases p <;> simp [toJson]

theorem Schema.checkNullable_ofText? (s : Option String) :
    nullable Schema.text (.ofText? s) = .ok s := by
  cases s <;> rfl

theorem Status.check_name (s : Status) : Status.check (.text s.name) = .ok s := by
  rw [Status.check, Status.ofName?_name]

namespace Stage

theorem check_number (position : Fin 3) :
    intBetween firstNumber lastNumber (.int ((position.val + 1 : Nat) : Int)) =
      .ok ((position.val + 1 : Nat) : Int) := by
  match position with
  | 0 | 1 | 2 => rfl

theorem positionOf_number (position : Fin 3) :
    positionOf ((position.val + 1 : Nat) : Int) = position := by
  match position with
  | 0 | 1 | 2 => rfl

/-- A stage that is written out is read back as it was. -/
theorem check_toMembers (s : Stage) : check s.toMembers = .ok s := by
  have number : required s.toMembers "stage" (intBetween firstNumber lastNumber) =
      .ok ((s.position.val + 1 : Nat) : Int) := congrArg (under _) (check_number s.position)
  have status : optional s.toMembers "status" .pending Status.check = .ok s.status :=
    congrArg (under _) (Status.check_name s.status)
  have input : optional s.toMembers "input" none (nullable Payload.check) = .ok s.input :=
    congrArg (under _) (Payload.checkNullable_toJson s.input)
  have output : optional s.toMembers "output" none (nullable Schema.text) = .ok s.output :=
    congrArg (under _) (Schema.checkNullable_ofText? s.output)
  have error : optional s.toMembers "error" none (nullable Schema.text) = .ok s.error :=
    congrArg (under _) (Schema.checkNullable_ofText? s.error)
  have name : required s.toMembers "name" Schema.text = .ok s.name := rfl
  rw [check, number, name, status, input, output, error]
  show Except.ok (Stage.mk (positionOf _) _ _ _ _ _) = _
  rw [positionOf_number]

end Stage

namespace Solver

open Reckoner.Feed

/-- The events by which notes are published, in order. -/
def eventsOf (f : Feed) (sessionId : String) : List Note → List Event
  | [] => []
  | n :: rest =>
    (f.emit sessionId n.kind n.node n.data).2 :: eventsOf (n.publish f sessionId) sessionId rest

inductive ReplayFault where
  | unreadable (issues : List Issue)
  | transition (fault : TransitionFault)

/-- Reads the stage that an event tells of, and takes it into the list. Other events tell of none. -/
def takeIn (stages : List Stage) (e : Event) : Except ReplayFault (List Stage) :=
  if e.kind = stageKind then
    match Stage.check e.data with
    | .ok s => (Stage.merge stages [s]).mapError .transition
    | .error issues => .error (.unreadable issues)
  else .ok stages

def replay (events : List Event) : Except ReplayFault (List Stage) :=
  events.foldlM takeIn []

theorem kind_of_mem_eventsOf {f : Feed} {sessionId : String} {notes : List Note} {e : Event}
    (he : e ∈ eventsOf f sessionId notes) : ∃ n ∈ notes, e.kind = n.kind ∧ e.data = n.data := by
  induction notes generalizing f with
  | nil => simp [eventsOf] at he
  | cons n rest ih =>
    rcases List.mem_cons.mp he with rfl | later
    · exact ⟨n, List.mem_cons_self, rfl, rfl⟩
    · obtain ⟨m, hm, same⟩ := ih later
      exact ⟨m, List.mem_cons_of_mem n hm, same⟩

theorem eventsOf_append (f : Feed) (sessionId : String) (a b : List Note) :
    eventsOf f sessionId (a ++ b) = eventsOf f sessionId a ++
      eventsOf (a.foldl (Note.publish · sessionId ·) f) sessionId b := by
  induction a generalizing f with
  | nil => rfl
  | cons n rest ih =>
    rw [List.cons_append, eventsOf, eventsOf, ih]
    rfl

/-- The replay of what is published is the merge of the stages that the notes are about. -/
theorem foldlM_takeIn_eventsOf (f : Feed) (sessionId : String) (notes : List Note)
    (stages : List Stage) :
    (eventsOf f sessionId notes).foldlM takeIn stages =
      (Stage.merge stages (notes.filterMap Note.stage?)).mapError .transition := by
  induction notes generalizing f stages with
  | nil => rfl
  | cons n rest ih =>
    rw [eventsOf, List.foldlM_cons]
    cases n with
    | stage t s =>
      have taken : takeIn stages (f.emit sessionId (Note.stage t s).kind (Note.stage t s).node
          (Note.stage t s).data).2 = (Stage.merge stages [s]).mapError .transition := by
        show (match Stage.check s.toMembers with
          | .ok s => (Stage.merge stages [s]).mapError ReplayFault.transition
          | .error issues => .error (ReplayFault.unreadable issues)) = _
        rw [Stage.check_toMembers]
      rw [taken]
      show _ = (Stage.merge stages ([s] ++ rest.filterMap Note.stage?)).mapError ReplayFault.transition
      rw [Stage.merge_append]
      cases Stage.merge stages [s] with
      | ok merged => exact ih _ merged
      | error fault => rfl
    | finished success => exact ih _ stages

theorem replay_eventsOf (f : Feed) (sessionId : String) (notes : List Note) :
    replay (eventsOf f sessionId notes) =
      (Stage.merge [] (notes.filterMap Note.stage?)).mapError .transition :=
  foldlM_takeIn_eventsOf f sessionId notes []

end Solver

end Reckoner
