import Reckoner.Json.Value
import Reckoner.Text.Case

namespace Reckoner.Log

open Reckoner.Json

inductive Format where
  | json
  | text
  deriving DecidableEq, Repr

def Format.ofName? : String → Option Format
  | "json" => some .json
  | "text" => some .text
  | _ => none

def Format.name : Format → String
  | .json => "json"
  | .text => "text"

def unknownFormat (name : String) : String :=
  "Unknown log format '" ++ name ++ "'."

def jsonFields : String :=
  "%(asctime)s %(levelname)s %(name)s %(message)s %(request_id)s %(session_id)s"

def textFields : String :=
  "%(asctime)s %(levelname)-7s %(name)s [%(request_id)s %(session_id)s] %(message)s"

def dateFormat : String := "%Y-%m-%dT%H:%M:%S%z"

/-- The levels of named loggers; those of the service have the configured level. -/
def loggers (level : String) : List (String × String) :=
  [("palchat", level), ("uvicorn.error", level), ("uvicorn.access", "WARNING"), ("httpx", "WARNING"),
    ("httpcore", "WARNING")]

structure Config where
  level : String
  format : Format
  deriving DecidableEq, Repr

/-- A level in any letter case and a known format. -/
def Config.make? (level format : String) : Option Config :=
  (Format.ofName? format).map fun f => ⟨Text.upper level, f⟩

def loggerMembers (level : String) : Members :=
  [("handlers", .list [.text "console"]), ("level", .text level), ("propagate", .bool false)]

def Config.toMembers (c : Config) : Members :=
  [("version", .int 1), ("disable_existing_loggers", .bool false),
    ("filters", .object [("request_context", .object [("()", .text "RequestContextFilter")])]),
    ("formatters", .object [
      ("json", .object [("()", .text "JsonFormatter"), ("fmt", .text jsonFields),
        ("datefmt", .text dateFormat)]),
      ("text", .object [("format", .text textFields), ("datefmt", .text dateFormat)])]),
    ("handlers", .object [("console", .object [("class", .text "logging.StreamHandler"),
      ("formatter", .text c.format.name), ("filters", .list [.text "request_context"])])]),
    ("loggers", .object ((loggers c.level).map fun (n, level) => (n, .object (loggerMembers level)))),
    ("root", .object [("handlers", .list [.text "console"]), ("level", .text c.level)])]

/-- The rank of a level by its name. -/
def rank? : String → Option Nat
  | "CRITICAL" | "FATAL" => some 50
  | "ERROR" => some 40
  | "WARNING" | "WARN" => some 30
  | "INFO" => some 20
  | "DEBUG" => some 10
  | "NOTSET" => some 0
  | _ => none

/-- Is a logger the named one, or below it? -/
def isWithin (logger name : String) : Bool :=
  logger == name || (name ++ ".").toList.isPrefixOf logger.toList

/-- The level that holds for a logger: that of the named logger it belongs to, or the general one. -/
def Config.levelOf (c : Config) (logger : String) : String :=
  match (loggers c.level).find? fun l => isWithin logger l.1 with
  | some (_, level) => level
  | none => c.level

def Config.isEnabled (c : Config) (logger level : String) : Bool :=
  match rank? (c.levelOf logger), rank? level with
  | some least, some n => least ≤ n
  | _, _ => false

end Reckoner.Log
