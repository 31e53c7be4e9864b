import Reckoner.Chat.Message
import Reckoner.Table

namespace Reckoner.Chat

open Reckoner.Json

structure Conversation where
  sessionId : String
  messages : List Message
  metadata : Members

/-- A conversation in which nothing has been said. -/
def Conversation.new (sessionId : String) : Conversation := ⟨sessionId, [], []⟩

def Conversation.add (c : Conversation) (m : Message) : Conversation :=
  { c with messages := c.messages ++ [m] }

/-- What is refused while a reply is in preparation. -/
inductive Busy where
  | reply (sessionId : String)
  | reset (sessionId : String)
  deriving DecidableEq, Repr

def Busy.sessionId : Busy → String
  | .reply s | .reset s => s

def Busy.message : Busy → String
  | .reply _ => "A reply is still being prepared for this conversation."
  | .reset _ => "Cannot reset a conversation while a reply is being prepared."

/-- The histories of all sessions, and which sessions have a reply in preparation. -/
structure Store where
  sessions : Table Conversation
  inFlight : List String

namespace Store

def empty : Store := ⟨.empty, []⟩

def get? (s : Store) (sessionId : String) : Option Conversation :=
  s.sessions.get? sessionId

/-- The stored conversation, or a new one. -/
def current (s : Store) (sessionId : String) : Conversation :=
  (s.get? sessionId).getD (Conversation.new sessionId)

def save (s : Store) (c : Conversation) : Store :=
  { s with sessions := s.sessions.put c.sessionId c }

def isBusy (s : Store) (sessionId : String) : Bool :=
  s.inFlight.contains sessionId

def clear (s : Store) (sessionId : String) : Except Busy Store :=
  if s.isBusy sessionId then .error (.reset sessionId)
  else .ok { s with sessions := s.sessions.erase sessionId }

/-- Begins a turn; a session has one at a time. -/
def enter (s : Store) (sessionId : String) : Except Busy Store :=
  if s.isBusy sessionId then .error (.reply sessionId)
  else .ok { s with inFlight := sessionId :: s.inFlight }

def leave (s : Store) (sessionId : String) : Store :=
  { s with inFlight := s.inFlight.filter (· != sessionId) }

theorem get?_save (s : Store) (c : Conversation) (other : String) :
    (s.save c).get? other = if other = c.sessionId then some c else s.get? other :=
  Table.get?_put s.sessions c.sessionId other c

theorem isBusy_leave (s : Store) (sessionId other : String) :
    (s.leave sessionId).isBusy other = (s.isBusy other && other != sessionId) := by
  simp only [leave, isBusy]
  by_cases h : other = sessionId
  · subst h; simp
  · simp [h]

end Store

end Reckoner.Chat
