import Reckoner.Context
import Reckoner.Json.Printer
import Reckoner.Log.Config

namespace Reckoner.Log

open Reckoner.Arithmetic (Oversize)
open Reckoner.Json

structure Record where
  logger : String
  level : String
  message : String
  extra : Members

/-- A text with spaces behind it up to a width. -/
def padRight (width : Nat) (s : String) : String :=
  s ++ String.ofList (List.replicate (width - s.length) ' ')

def levelWidth : Nat := 7

def jsonLine (time : String) (c : Context) (r : Record) : Except Oversize String :=
  write .ascii (.object ([("asctime", .text time), ("levelname", .text r.level), ("name", .text r.logger),
    ("message", .text r.message), ("request_id", .text (Context.stamp c.requestId)),
    ("session_id", .text (Context.stamp c.sessionId))] ++ r.extra))

def textLine (time : String) (c : Context) (r : Record) : String :=
  time ++ " " ++ padRight levelWidth r.level ++ " " ++ r.logger ++ " [" ++ Context.stamp c.requestId ++
    " " ++ Context.stamp c.sessionId ++ "] " ++ r.message

def line (format : Format) (time : String) (c : Context) (r : Record) : Except Oversize String :=
  match format with
  | .json => jsonLine time c r
  | .text => .ok (textLine time c r)

end Reckoner.Log
