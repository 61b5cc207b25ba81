import ProjectScan.Command.Program
import ProjectScan.Command.Recording

/-!
The program at the console. What the server answers is replayed from a recording on standard input;
what a run leaves behind is written to the disk.
-/

namespace ProjectScan.Main

open Command

def variableNames : List String := [
  "GERRIT_SERVER_URL", "GERRIT_INSECURE_HTTPS", "GERRIT_CREDENTIALS_ID", "GERRIT_CREDENTIALS_FILE",
  "GERRIT_USERNAME", "GERRIT_PASSWORD", "GERRIT_TRAITS", "PAGE_SIZE", "MAX_PAGES", "TIMEOUT",
  "MAX_RETRIES", "OUTPUT_DIR", "LOG_LEVEL"]

def readEnvironment : IO Environment := do
  let found ← variableNames.filterMapM fun name => do
    return (← IO.getEnv name).map fun value => (name, value)
  return ⟨found⟩

def survey (path : String) : IO (List (Location × Entry)) := do
  let full := (← IO.currentDir) / path
  let place := (Path.ofText full.toString).parts
  if ← full.isDir then return [(place, .directory)]
  if ← full.pathExists then return [(place, .file (← IO.FS.readBinFile full).toList)]
  return []

def readDisk (paths : List String) : IO Disk := do
  let found ← paths.flatMapM survey
  return ⟨found, (Path.ofText (← IO.currentDir).toString).parts⟩

def scans (words : List String) : Option Arguments :=
  if words.head? = some checkWord then none else (Arguments.read words).toOption

def readMachine (words : List String) : IO Machine := do
  let environment ← readEnvironment
  let homes : Homes := ⟨(← IO.getEnv "HOME").getD "", []⟩
  let arguments? := scans words
  let paths := match arguments? with
    | none => []
    | some arguments => arguments.paths homes environment
  let recording ← match arguments? with
    | none => pure (Recording.read "")
    | some _ => Recording.read <$> (← IO.getStdin).readToEnd
  return {
    environment
    homes
    disk := ← readDisk paths
    terminal := ← (← IO.getStdout).isTty
    heedsSignals := true
    turns := recording.turns
    afterwards := Recording.ended
    startedAt := recording.startedAt
    finishedAt := recording.finishedAt
    origin := ⟨programName, 0, none, "MainThread", recording.time, none⟩ }

def writeDisk (before after : Disk) : IO Unit := do
  for (place, entry) in after.entries.reverse do
    if before.entries.lookup place ≠ some entry then
      let path := (Path.mk "/" place).text
      match entry with
      | .directory => IO.FS.createDirAll path
      | .file content => IO.FS.writeBinFile path ⟨content.toArray⟩

end ProjectScan.Main

def main (words : List String) : IO UInt32 := do
  let machine ← ProjectScan.Main.readMachine words
  let outcome := ProjectScan.Command.run machine words
  ProjectScan.Main.writeDisk machine.disk outcome.disk
  IO.print outcome.shown
  IO.eprint outcome.complaint
  match outcome.ending with
  | .ok code => return UInt32.ofNat code
  | .error failure =>
      IO.eprintln (failure.qualifiedName ++ ": " ++ failure.message)
      return 1
