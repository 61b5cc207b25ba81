import ProjectScan.Command.Arguments
import ProjectScan.Command.Console
import ProjectScan.Navigator
import ProjectScan.Report
import ProjectScan.Settings

/-!
A discovery run: it reads its settings and credentials, scans the server, and writes a report of the
candidates that were accepted. The report is written only if the scan came to its end, and only if it
has the shape that reports have.
-/

namespace ProjectScan.Command

structure Machine where
  environment : Environment
  homes : Homes
  disk : Disk
  /-- Whether what is shown goes to a terminal. -/
  terminal : Bool
  /-- Whether a wish to end the program reaches the scan. -/
  heedsSignals : Bool
  /-- What the server answers, and what every request meets after that. -/
  turns : List Turn
  afterwards : Reply
  startedAt : String
  finishedAt : String
  /-- Where and when records of diagnostics are made. -/
  origin : Log.Origin
  /-- The containers for which there is room on the stack when settings and files are read. -/
  room : Nat := Json.usualRoom

/-- How a run ended: with an exit code, or by a failure that is no outcome of a run; what it put out
and left behind; and the report, if one was written. -/
structure Outcome where
  ending : Except Failure Nat
  shown : String
  complaint : String
  disk : Disk
  channel : Channel
  client : Option Client
  report : Option Report

def sink : Log.Sink := .plain "gerrit_discovery"

def reportName : String := "discovered_sources.json"

namespace Arguments

/-- The level from which records are kept; quiet wins over verbose. -/
def threshold (arguments : Arguments) : Int :=
  if arguments.quiet then Log.Level.error
  else if arguments.verbose then Log.Level.debug
  else Log.Level.info

def leavesLevel (arguments : Arguments) : Bool := !(arguments.quiet || arguments.verbose)

def layout (arguments : Arguments) (terminal : Bool) : Layout :=
  if arguments.jsonLogs then .json else .plain terminal

/-- A text that is given, where no value counts as an empty one. -/
def givenOr (other : Option String) : Given String → Option String
  | .absent => none
  | .blank => other
  | .value text => some text

def logFile? (arguments : Arguments) : Option String :=
  (givenOr none arguments.logFile).filter (· ≠ "")

def logFileText (arguments : Arguments) : String :=
  match arguments.logFile with
  | .absent => "None"
  | .blank => "[]"
  | .value path => path

def number? : Given Int → Option Int
  | .value number => some number
  | _ => none

def overrides (arguments : Arguments) : Overrides :=
  { serverUrl := givenOr (some "") arguments.serverUrl
    insecure := if arguments.insecure then some true else none
    credentialsId := givenOr (some "") arguments.credentialsId
    credentialsFile := givenOr (some "") arguments.credentialsFile
    pageSize := number? arguments.pageSize
    maxPages := number? arguments.maxPages
    outputDirectory := (givenOr none arguments.output).map fun path => (Path.ofText path).text }

def paths (arguments : Arguments) (homes : Homes) (environment : Environment) : List String :=
  let overrides := arguments.overrides
  let credentials := overrides.credentialsFile.getD (environment.value "GERRIT_CREDENTIALS_FILE")
  let output := overrides.outputDirectory.getD
    ((environment.find? "OUTPUT_DIR").getD (Settings.defaults "").outputDirectory)
  let directory := Path.ofText (homes.expand output)
  let above := (List.range (directory.parts.length + 1)).map fun count =>
    (Path.mk directory.root (directory.parts.take count)).text
  [credentials, arguments.logFile?.getD ""].filter (· ≠ "") ++ above

end Arguments

/-- What the settings come to when a number is given without a value: it cannot be compared with
its bound, but what is checked before it is refused first. -/
def settingsWithout (machine : Machine) (arguments : Arguments) : Failure :=
  match Settings.ofEnvironment machine.room machine.environment with
  | .error fault => .setting fault
  | .ok read =>
      let settings := read.overridden arguments.overrides
      match Settings.checkServerUrl settings.serverUrl with
      | .error fault => .setting fault
      | .ok _ =>
          if arguments.pageSize ≠ .blank ∧ settings.pageSize < 1 then .tooSmall .pageSize
          else .misfit .noNumber

def loadSettings (machine : Machine) (arguments : Arguments) : Except Failure Settings :=
  if arguments.pageSize = .blank ∨ arguments.maxPages = .blank then
    .error (settingsWithout machine arguments)
  else Settings.load machine.homes machine.environment arguments.overrides machine.room

def readText (disk : Disk) (path : String) : Except Failure (List Char) :=
  match disk.read path with
  | .error fault => .error (.disk path fault)
  | .ok bytes => (Text.decodeUtf8 bytes).mapError .bytes

def loadStore (environment : Environment) (disk : Disk) (settings : Settings)
    (journal : Log.Journal) (room : Nat) : Except Failure Store × Log.Journal :=
  let own := Store.ofEnvironment environment
  match settings.credentialsFile with
  | none => (.ok own, journal)
  | some path =>
      let (loaded, journal) := Store.load path (readText disk path) journal room
      (loaded.map own.merged, journal)

def patternsOf : List (Given String) → List String
  | .value pattern :: rest => pattern :: patternsOf rest
  | _ => []

/-- A selection of names, and whether behind its exclusions or its inclusions stands a pattern
without a value, to which no name can be compared. -/
structure Choice where
  selection : Selection
  brokenExclusion : Bool
  brokenInclusion : Bool
  deriving Repr

namespace Choice

def create (arguments : Arguments) : Except Failure Choice :=
  if arguments.limit = .blank then .error (.misfit .noNumber)
  else
    let inclusions := patternsOf arguments.inclusions
    let exclusions := patternsOf arguments.exclusions
    (Selection.create inclusions exclusions (Arguments.number? arguments.limit)).map
      fun selection =>
        ⟨selection, exclusions.length ≠ arguments.exclusions.length,
          inclusions.length ≠ arguments.inclusions.length⟩

/-- Whether the choice of a name comes to a pattern without a value: no exclusion matches it, and
there is such an exclusion, or such an inclusion and no other that matches. -/
def breaksOn (choice : Choice) (name : String) : Bool :=
  let selection := choice.selection
  !(selection.exclusions.any fun pattern => Glob.matchesName pattern name) &&
    (choice.brokenExclusion ||
      (choice.brokenInclusion &&
        !(selection.inclusions.any fun pattern => Glob.matchesName pattern name)))

def observer (choice : Choice) : Observer Collection where
  sink := some sink
  observe collection name candidate isOpen :=
    if choice.breaksOn name then ⟨.error (.misfit .noPattern), collection, [], false⟩
    else (collecting choice.selection sink).observe collection name candidate isOpen

end Choice

/-! ### The run -/

structure Plan where
  settings : Settings
  store : Store
  choice : Choice

/-- Reads all settings, then the credentials, then the patterns. -/
def prepare (machine : Machine) (arguments : Arguments) (disk : Disk) (journal : Log.Journal) :
    Except Failure Plan × Log.Journal :=
  match loadSettings machine arguments with
  | .error failure => (.error failure, journal)
  | .ok settings => match loadStore machine.environment disk settings journal machine.room with
    | (.error failure, journal) => (.error failure, journal)
    | (.ok store, journal) =>
        ((Choice.create arguments).map fun choice => ⟨settings, store, choice⟩, journal)

def Plan.navigator (plan : Plan) : Navigator :=
  let settings := plan.settings
  Navigator.create (some settings.serverUrl) settings.insecure settings.credentialsId
    settings.traits plan.store settings.pageSize settings.maxPages settings.timeout
    settings.maxRetries

def Plan.threshold (plan : Plan) (arguments : Arguments) : Int :=
  if arguments.leavesLevel then
    (Log.levelOfName? plan.settings.logLevel).getD arguments.threshold
  else arguments.threshold

/-- What the server answers; a program that heeds no signals is not told to end. -/
def Machine.script (machine : Machine) : List Turn :=
  if machine.heedsSignals then machine.turns
  else machine.turns.map fun turn => { turn with cancels := false }

def reportOf (machine : Machine) (summary : Summary) (candidates : List Candidate) : Report :=
  { run :=
      { startedAt := machine.startedAt
        finishedAt := machine.finishedAt
        navigatorId := summary.navigatorId
        serverUrl := summary.endpoint.serverUrl
        webUri := summary.endpoint.webUri
        apiUri := summary.endpoint.apiUri
        projectsSeen := summary.projectsSeen
        pagesFetched := summary.pagesFetched
        apiCalls := summary.apiCalls
        stoppedEarly := summary.stoppedEarly }
    candidates }

/-- Writes a report into a directory, which is made if it does not exist, and returns the path of
the report. Directories that were made stay if the report cannot be written. -/
def writeReport (disk : Disk) (directory : String) (report : Report) :
    Except Failure String × Disk :=
  let directory := Path.ofText directory
  let path := (directory.child reportName).text
  match disk.ensureDirectories directory with
  | (.error failure, disk) => (.error failure, disk)
  | (.ok _, disk) => match disk.write path report.toJson.indented with
    | .error fault => (.error (.disk path fault), disk)
    | .ok disk => (.ok path, disk)

def emptied (journal : Log.Journal) : Log.Journal := .empty journal.threshold

def completion (report : Report) (path : String) : String :=
  "Discovery complete: " ++ Number.naturalText report.candidates.length ++ " sources from " ++
    Number.wholeText report.run.projectsSeen ++ " projects, written to " ++ path

def conclude (directory : String) (report : Report) (console : Console) (journal : Log.Journal) :
    Except Failure Nat × Console × Option Report :=
  match Report.problems report.toJson with
  | [] =>
      let console := console.emit journal
      match writeReport console.disk directory report with
      | (.error failure, disk) => (.error failure, { console with disk }, none)
      | (.ok path, disk) =>
          let journal := (emptied journal).note sink Log.Level.info (completion report path)
          (.ok 0, { console with disk }.emit journal, some report)
  | problems =>
      let journal := problems.foldl (fun journal problem =>
        journal.note sink Log.Level.error ("Report validation error: " ++ problem)) journal
      (.ok 1, console.emit journal, none)

def giveUp (failure : Failure) (console : Console) (journal : Log.Journal) :
    Except Failure Nat × Console :=
  if failure.isInterruption then
    (.ok 130, console.emit (journal.note sink Log.Level.warning "Discovery interrupted"))
  else if failure.isDiscovery then
    (.ok 1, console.emit (journal.note sink Log.Level.error
      ("Discovery failed: " ++ failure.message)))
  else (.error failure, console.emit journal)

def scan (machine : Machine) (plan : Plan) (console : Console) (journal : Log.Journal) : Outcome :=
  let scan := plan.navigator.discover plan.choice.observer true .empty
    (.fresh machine.script machine.afterwards journal)
  let journal := scan.channel.journal
  match scan.outcome with
  | .error failure =>
      let (ending, console) := giveUp failure console journal
      ⟨ending, console.shown, "", console.disk, scan.channel, scan.client, none⟩
  | .ok summary =>
      let (ending, console, report) := conclude plan.settings.outputDirectory
        (reportOf machine summary scan.state.accepted) console journal
      ⟨ending, console.shown, "", console.disk, scan.channel, scan.client, report⟩

def Machine.idle (machine : Machine) : Channel :=
  .fresh machine.script machine.afterwards (.empty 0)

def Machine.unused (machine : Machine) (ending : Except Failure Nat) (console : Console) : Outcome :=
  ⟨ending, console.shown, "", console.disk, machine.idle, none, none⟩

def refusal (failure : Failure) (journal : Log.Journal) : Log.Journal :=
  (journal.note sink Log.Level.error ("Configuration error: " ++ failure.message)).note sink
    Log.Level.error "Please provide required settings via CLI arguments or .env file"

def opening (arguments : Arguments) : String :=
  "Logging configured (json=" ++ (if arguments.jsonLogs then "True" else "False") ++ ", file=" ++
    arguments.logFileText ++ ")"

def discover (machine : Machine) (arguments : Arguments) : Outcome :=
  match Console.start (arguments.layout machine.terminal) machine.origin arguments.logFile?
      machine.disk with
  | .error failure => ⟨.error failure, "", "", machine.disk, machine.idle, none, none⟩
  | .ok console =>
      let journal := Log.Journal.empty arguments.threshold
      let console := console.emit (journal.note sink Log.Level.debug (opening arguments))
      match prepare machine arguments console.disk journal with
      | (.error failure, journal) =>
          if failure.isRefusal then
            machine.unused (.ok 1) (console.emit (refusal failure journal))
          else machine.unused (.error failure) (console.emit journal)
      | (.ok plan, journal) =>
          let console := console.emit journal
          scan machine plan console (.empty (plan.threshold arguments))

end ProjectScan.Command
