namespace Reckoner

/-- What is bound while a request is served: its id and the session it is about. -/
structure Context where
  requestId : Option String
  sessionId : Option String
  deriving DecidableEq, Repr

namespace Context

inductive Variable where
  | requestId
  | sessionId
  deriving DecidableEq, Repr

/-- With a token the value before a binding can be put back once. -/
structure Token where
  var : Variable
  before : Option String
  used : Bool
  deriving DecidableEq, Repr

inductive ReleaseFault where
  | alreadyUsed
  | otherVariable
  deriving DecidableEq, Repr

def unbound : Context := ⟨none, none⟩

def get (c : Context) : Variable → Option String
  | .requestId => c.requestId
  | .sessionId => c.sessionId

def set (c : Context) (v : Variable) (value : Option String) : Context :=
  match v with
  | .requestId => { c with requestId := value }
  | .sessionId => { c with sessionId := value }

/-- The id that a request brings, or a fresh one in place of none. -/
def requestIdOr (fresh : String) (given : Option String) : String :=
  match given with
  | some id => if id.isEmpty then fresh else id
  | none => fresh

def bind (c : Context) (v : Variable) (value : Option String) : Context × Token :=
  (c.set v value, ⟨v, c.get v, false⟩)

/-- Puts back the value that a token saw. -/
def release (c : Context) (v : Variable) (t : Token) : Except ReleaseFault (Context × Token) :=
  if t.used then .error .alreadyUsed
  else if t.var ≠ v then .error .otherVariable
  else .ok (c.set v t.before, { t with used := true })

/-- A bound value as log records carry it: a dash stands for nothing. -/
def stamp (value : Option String) : String :=
  match value with
  | some s => if s.isEmpty then "-" else s
  | none => "-"

theorem release_bind (c : Context) (v : Variable) (value : Option String) :
    (c.bind v value).1.release v (c.bind v value).2 = .ok (c, ⟨v, c.get v, true⟩) := by
  cases v <;> rfl

end Context

end Reckoner
