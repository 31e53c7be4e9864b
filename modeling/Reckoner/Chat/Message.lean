import Reckoner.Schema.Check
import Reckoner.Text.Blank

namespace Reckoner.Chat

open Reckoner.Json Reckoner.Schema

inductive Role where
  | user
  | assistant
  deriving DecidableEq, Repr

def Role.name : Role → String
  | .user => "user"
  | .assistant => "assistant"

def Role.check : Check Role := fun v => do
  let s ← oneOf ["user", "assistant"] v
  return if s = "user" then .user else .assistant

structure Message where
  id : String
  role : Role
  content : String
  isError : Bool
  isPipeline : Bool
  deriving DecidableEq, Repr

/-- Makes a message of content that is not blank. -/
def Message.make (m : Message) : Checked Message := do
  require (!Text.blank m.content) "Message content cannot be empty."
  return m

/-- A message read from data; one without an id gets the one given here. -/
def Message.check (fresh : String) (members : Members) : Checked Message := do
  let id := optional members "id" fresh Schema.text
  let role := required members "role" Role.check
  let content := required members "content" Schema.text
  let isError := optional members "isError" false Schema.bool
  let isPipeline := optional members "isPipeline" false Schema.bool
  let (id, role, content, isError, isPipeline) ←
    both id (both role (both content (both isError isPipeline)))
  Message.make ⟨id, role, content, isError, isPipeline⟩

/-- The members that say what a message is, its time aside. -/
def Message.toMembers (m : Message) : Members :=
  [("id", .text m.id), ("role", .text m.role.name), ("content", .text m.content),
    ("isError", .bool m.isError), ("isPipeline", .bool m.isPipeline)]

/-- What a person sends: a session, a text, and whether the stages should be shown. -/
structure Request where
  sessionId : String
  message : String
  verbose : Option Bool
  deriving DecidableEq, Repr

/-- The text without white space at its ends, which has to leave something. -/
def trimmedText : Check String := fun v => do
  let s := Text.trim (← Schema.text v)
  if s.isEmpty then refuse (.rejected "Message cannot be empty.") else return s

def Request.check (members : Members) : Checked Request :=
  let sessionId := required members "sessionId" nonemptyText
  let message := required members "message" trimmedText
  let verbose := optional members "verbose" none (nullable Schema.bool)
  (both sessionId (both message verbose)).map fun (s, m, v) => ⟨s, m, v⟩

end Reckoner.Chat
