import ProjectScan.Failure
import ProjectScan.Json.Writer
import ProjectScan.Log.Record
import ProjectScan.Log.Template
import ProjectScan.Log.Timestamp

/-!
Records as lines: an object in JSON for machines, or a line for people, with colours where they can
be seen.
-/

namespace ProjectScan.Log

structure Origin where
  path : String
  line : Int
  function : Option String
  thread : String
  created : Number.Binary64
  failure : Option Failure
  deriving Repr

inductive LineFault where
  /-- It is given a field that every record has of its own. -/
  | clash (field : String)
  | time (fault : TimeFault)
  | template (fault : TemplateFault)
  | durationText
  | durationKind (found : Json.Kind)
  | durationSize
  deriving DecidableEq, Repr

def LineFault.name : LineFault → String
  | .clash _ => "KeyError"
  | .time fault => fault.name
  | .template fault => fault.name
  | .durationText => "ValueError"
  | .durationKind _ => "TypeError"
  | .durationSize => "OverflowError"

def LineFault.message : LineFault → String
  | .clash field =>
      Text.quoted ("Attempt to overwrite " ++ Text.quoted field ++ " in LogRecord")
  | .time fault => fault.message
  | .template fault => fault.message
  | .durationText => "Unknown format code 'f' for object of type 'str'"
  | .durationKind found => "unsupported format string passed to " ++ found.name ++ ".__format__"
  | .durationSize => "int too large to convert to float"

def fileName (path : String) : List Char := Text.afterLast '/' path.toList

def withoutExtension (name : List Char) : List Char :=
  let dots := name.takeWhile (· == '.')
  let rest := name.dropWhile (· == '.')
  if '.' ∈ rest then dots ++ ((rest.reverse.dropWhile (· != '.')).drop 1).reverse else name

def moduleName (path : String) : String := String.ofList (withoutExtension (fileName path))

def Record.text (record : Record) : Except LineFault String :=
  (fillTemplate record.message record.arguments).mapError .template

/-- The message of a record whose fields are all its own to give. -/
def Record.accepted (record : Record) : Except LineFault String :=
  match record.clash? with
  | some field => .error (.clash field)
  | none => record.text

def traced (failure : Failure) : String :=
  if failure.message = "" then failure.qualifiedName ++ "\n"
  else failure.qualifiedName ++ ": " ++ failure.message ++ "\n"

def failureObject (failure : Failure) : Json :=
  .object [("type", .text failure.name), ("message", .text failure.message),
    ("traceback", .list [.text (traced failure)])]

def Record.context (record : Record) : List (String × Json) :=
  contextFields.filterMap fun name =>
    (Json.field? record.fields name).map fun value => (name, value)

/-- The fields of a machine's line: those of the record, then the fixed ones, which win over them,
then the context, which wins over both, and last the failure. -/
def structuredFields (fixed : List (String × Json)) (record : Record) (origin : Origin)
    (time : Timestamp) (message : String) : List (String × Json) :=
  let own : List (String × Json) := [
    ("timestamp", .text time.text), ("level", .text (levelName record.level)),
    ("logger", .text record.logger), ("message", .text message),
    ("module", .text (moduleName origin.path)),
    ("function", match origin.function with
      | none => .null
      | some name => .text name),
    ("line", .whole origin.line), ("thread", .text origin.thread)]
  let merged := Json.setFields (Json.setFields own fixed) record.context
  match origin.failure with
  | none => merged
  | some failure => Json.setField merged "exception" (failureObject failure)

def structuredLine (fixed : List (String × Json)) (record : Record) (origin : Origin) :
    Except LineFault String :=
  match Timestamp.ofSeconds origin.created with
  | .error fault => .error (.time fault)
  | .ok time => record.text.map fun message =>
      (Json.object (structuredFields fixed record origin time message)).oneLine

def paddedName (name : String) : String :=
  name ++ String.ofList (List.replicate (8 - name.length) ' ')

def colour (code : String) : String := String.singleton '\x1b' ++ "[" ++ code ++ "m"

def levelColour (level : Int) : String :=
  if level = Level.debug then colour "36"
  else if level = Level.info then colour "32"
  else if level = Level.warning then colour "33"
  else if level = Level.error then colour "31"
  else if level = Level.critical then colour "35"
  else colour "0"

def durationText (value : Json) : Except LineFault String :=
  match value with
  | .float number => .ok (number.places 0)
  | .text _ => .error .durationText
  | _ => match value.wholeValue? with
    | none => .error (.durationKind value.kind)
    | some n => match Number.Binary64.ofWhole? n with
      | some number => .ok (number.places 0)
      | none => .error .durationSize

def remarks (record : Record) : Except LineFault (List String) := do
  let duration ← match Json.field? record.fields "duration_ms" with
    | none => pure []
    | some value => do
        let text ← durationText value
        pure ["duration=" ++ text ++ "ms"]
  let shown (name label : String) : List String :=
    ((Json.field? record.fields name).map fun value => label ++ "=" ++ value.shown).toList
  return shown "page" "page" ++ duration ++ shown "status_code" "status"

def plainLine (coloured : Bool) (record : Record) (origin : Origin) :
    Except LineFault String :=
  match Timestamp.ofSeconds origin.created with
  | .error fault => .error (.time fault)
  | .ok time => do
      let message ← record.text
      let remarks ← remarks record
      let level := paddedName (levelName record.level)
      let level := if coloured then levelColour record.level ++ level ++ colour "0" else level
      let message := if remarks = [] then message
        else message ++ " [" ++ Text.joined ", " remarks ++ "]"
      let trace := match origin.failure with
        | none => ""
        | some failure => "\n" ++ traced failure
      return time.clock ++ " " ++ level ++ " " ++ record.logger ++ ": " ++ message ++ trace

end ProjectScan.Log
