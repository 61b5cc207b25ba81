import ProjectScan.Json.Value
import ProjectScan.Log.Level

/-!
Records of diagnostics and the sinks they are written to. A sink belongs to a logger and may carry
tags, fields that every record of it has; a field given with a record wins over a tag, and a later
tag over an earlier one.
-/

namespace ProjectScan.Log

/-- What is written to a sink. The message may hold places for the arguments. -/
structure Record where
  logger : String
  level : Int
  message : String
  arguments : List Json
  fields : List (String × Json)
  deriving Repr

structure Sink where
  logger : String
  tags : List (String × Json)
  deriving Repr

namespace Sink

def plain (logger : String) : Sink := ⟨logger, []⟩

def tagged (sink : Sink) (tags : List (String × Json)) : Sink :=
  { sink with tags := Json.setFields sink.tags tags }

def identityField : String := "navigator_id"

/-- A sink whose records carry the identity of one scan. -/
def forScan (sink : Sink) (identity : String) : Sink :=
  sink.tagged [(identityField, .text identity)]

def record (sink : Sink) (level : Int) (message : String) (arguments : List Json)
    (fields : List (String × Json)) : Record :=
  ⟨sink.logger, level, message, arguments, Json.setFields sink.tags fields⟩

end Sink

def contextFields : List String :=
  [Sink.identityField, "project", "page", "api_endpoint", "status_code", "duration_ms"]

/-- The fields every record has of its own; a call must not give them again. -/
def ownFields : List String := [
  "name", "msg", "args", "levelname", "levelno", "pathname", "filename", "module", "exc_info",
  "exc_text", "stack_info", "lineno", "funcName", "created", "msecs", "relativeCreated", "thread",
  "threadName", "processName", "process", "message", "asctime"]

def Record.clash? (record : Record) : Option String :=
  (record.fields.map (·.1)).find? (· ∈ ownFields)

end ProjectScan.Log
