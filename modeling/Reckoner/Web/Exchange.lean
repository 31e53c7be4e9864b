import Reckoner.Chat.Message
import Reckoner.Feed.Event
import Reckoner.Text.Case
import Reckoner.Text.Encoding
import Reckoner.Web.Query

namespace Reckoner.Web

open Reckoner.Json Reckoner.Schema

abbrev Headers := List (String × String)

structure Request where
  method : String
  /-- The path with its escapes resolved. -/
  path : List Char
  /-- The query string as it was sent. -/
  rawQuery : List Char
  headers : Headers
  body : Text.Bytes

def Request.query (r : Request) : Query :=
  Query.parse r.rawQuery

/-- The value of a header, by its name in lower case; names are the same in any letter case. -/
def Request.header? (r : Request) (name : String) : Option String :=
  (r.headers.find? fun h => Text.lowerAscii h.1 == name).map (·.2)

/-- What a request brings in its body: nothing, a value, or bytes that are not read. -/
inductive Content where
  | missing
  | value (v : Value)
  | unread

/-- Why a body cannot be taken: no JSON from some place on, or not readable at all. -/
inductive ContentFault where
  | malformed (position : Nat)
  | unreadable
  deriving DecidableEq, Repr

/-- What a person sends, read from the body. -/
def Content.check (c : Content) : Checked Chat.Request :=
  under (.member "body") <|
    match c with
    | .missing => refuse .missing
    | .value (.object members) => Chat.Request.check members
    | .value _ | .unread => refuse .notRecord

/-- What a response brings. Of a page of the framework's own only the kind of content is told. -/
inductive Body where
  | empty
  | text (s : String)
  | json (v : Value)
  | events (frames : List Feed.Frame)
  | page (kind : String)

def Body.kind : Body → Option String
  | .empty => none
  | .text _ => some "text/plain; charset=utf-8"
  | .json _ => some "application/json"
  | .events _ => some "text/event-stream; charset=utf-8"
  | .page kind => some kind

structure Response where
  status : Nat
  headers : Headers
  body : Body

namespace Response

def json (status : Nat) (v : Value) : Response := ⟨status, [], .json v⟩

def object (members : Members) : Response := json 200 (.object members)

/-- A refusal that only says what it is. -/
def detail (status : Nat) (headers : Headers) (text : String) : Response :=
  ⟨status, headers, .json (.object [("detail", .text text)])⟩

def withHeader (r : Response) (name value : String) : Response :=
  { r with headers := r.headers.filter (·.1 != name) ++ [(name, value)] }

end Response

end Reckoner.Web
