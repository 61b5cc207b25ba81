import ProjectScan.Disk
import ProjectScan.Log.Journal
import ProjectScan.Log.Line

/-!
Where the diagnostics of a run go: every line is shown and, if there is a log file, added to it.
-/

namespace ProjectScan.Command

inductive Layout where
  | json
  | plain (coloured : Bool)
  deriving DecidableEq, Repr

def serviceFields : List (String × Json) := [("service", .text "gerrit-discovery")]

/-- The line of a record; one that cannot be laid out has none. -/
def Layout.line? (layout : Layout) (origin : Log.Origin) (record : Log.Record) : Option String :=
  match layout with
  | .json => (Log.structuredLine serviceFields record origin).toOption
  | .plain coloured => (Log.plainLine coloured record origin).toOption

structure Console where
  layout : Layout
  /-- Where and when records are made. -/
  origin : Log.Origin
  /-- The log file by its absolute path. -/
  logFile : Option String
  disk : Disk
  shown : String

namespace Console

def lines (console : Console) (records : List Log.Record) : String :=
  String.join (records.filterMap fun record =>
    (console.layout.line? console.origin record).map (· ++ "\n"))

def log (console : Console) (text : String) : Disk :=
  match console.logFile with
  | none => console.disk
  | some path => match console.disk.append path text with
    | .ok disk => disk
    | .error _ => console.disk

def emit (console : Console) (journal : Log.Journal) : Console :=
  let text := console.lines journal.records.toList
  { console with
    shown := console.shown ++ text
    disk := console.log text }

def start (layout : Layout) (origin : Log.Origin) (logFile : Option String) (disk : Disk) :
    Except Failure Console :=
  match logFile with
  | none => .ok ⟨layout, origin, none, disk, ""⟩
  | some path =>
      let path := disk.absolute path
      match disk.append path "" with
      | .error fault => .error (.disk path fault)
      | .ok disk => .ok ⟨layout, origin, some path, disk, ""⟩

end Console

end ProjectScan.Command
