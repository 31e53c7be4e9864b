import Reckoner.Feed.Basic
import Reckoner.Stage.Transition

namespace Reckoner.Solver

open Reckoner.Json

inductive Task where
  | extract
  | evaluate
  | format
  deriving DecidableEq, Repr

namespace Task

def position : Task → Fin 3
  | extract => 0
  | evaluate => 1
  | format => 2

def title : Task → String
  | extract => "LLM: Extract Math Expression"
  | evaluate => "PAL: Execute Math"
  | format => "LLM: Format Response"

/-- Where the notes of a task come from. -/
def node : Task → String
  | extract => "extract_expression"
  | evaluate => "evaluate_expression"
  | format => "format_response"

def begun (t : Task) (input : Option Payload) : Stage :=
  Stage.start t.position t.title input

def done (t : Task) (input : Option Payload) (output : String) : Stage :=
  { t.begun input with status := .complete, output := some output }

def failed (t : Task) (input : Option Payload) (reason : String) : Stage :=
  { t.begun input with status := .error, error := some reason }

theorem complete_begun (t : Task) (input : Option Payload) (output : String) :
    (t.begun input).complete output = .ok (t.done input output) := rfl

theorem fail_begun (t : Task) (input : Option Payload) (reason : String) :
    (t.begun input).fail reason = .ok (t.failed input reason) := rfl

end Task

inductive Note where
  | stage (t : Task) (s : Stage)
  | finished (success : Bool)
  deriving DecidableEq, Repr

namespace Note

def kind : Note → String
  | .stage .. => Feed.stageKind
  | .finished _ => Feed.pipelineKind

def node : Note → String
  | .stage t _ => t.node
  | .finished _ => Feed.pipelineKind

def data : Note → Members
  | .stage _ s => s.toMembers
  | .finished success => [("success", .bool success)]

/-- The stage that a note is about. -/
def stage? : Note → Option Stage
  | .stage _ s => some s
  | .finished _ => none

/-- The task that begins with a note. -/
def begins? : Note → Option Task
  | .stage t s => if s.status = .running then some t else none
  | .finished _ => none

end Note

/-- Tells the listeners of a session what is noted. -/
def Note.publish (f : Feed) (sessionId : String) (n : Note) : Feed :=
  (f.emit sessionId n.kind n.node n.data).1

/-- Publishes notes in order. A session without a name has no listeners to be told. -/
def publish (f : Feed) (sessionId : String) (notes : List Note) : Feed :=
  if sessionId.isEmpty then f else notes.foldl (Note.publish · sessionId ·) f

theorem publish_append (f : Feed) (sessionId : String) (a b : List Note) :
    publish f sessionId (a ++ b) = publish (publish f sessionId a) sessionId b := by
  unfold publish
  split <;> simp

end Reckoner.Solver
