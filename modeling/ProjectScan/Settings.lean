import ProjectScan.Endpoint
import ProjectScan.Environment
import ProjectScan.Failure
import ProjectScan.Json.Reader
import ProjectScan.Log.Level

/-!
Settings of a discovery run. They are read from the environment; values that are given directly take
the place of those read, and the result is checked. Every variable is read even where a given value
takes its place.
-/

namespace ProjectScan

structure Settings where
  serverUrl : String
  insecure : Bool
  credentialsId : Option String
  credentialsFile : Option String
  traits : List Json
  pageSize : Int
  maxPages : Int
  timeout : Int
  maxRetries : Int
  outputDirectory : String
  logLevel : String
  deriving Repr

/-- Values given directly; those that are not given are as in the environment. -/
structure Overrides where
  serverUrl : Option String := none
  insecure : Option Bool := none
  credentialsId : Option String := none
  credentialsFile : Option String := none
  traits : Option (List Json) := none
  pageSize : Option Int := none
  maxPages : Option Int := none
  timeout : Option Int := none
  maxRetries : Option Int := none
  outputDirectory : Option String := none
  logLevel : Option String := none
  deriving Repr

/-- The home directories of a machine: one's own, and those of users by name. -/
structure Homes where
  own : String
  named : List (String × String)
  deriving Repr

/-- A path with the home directory it starts with written out. A user without one stays as
written. -/
def Homes.expand (homes : Homes) (path : String) : String :=
  match path.toList with
  | '~' :: rest =>
      let user := rest.takeWhile (· != '/')
      let home? := match user with
        | [] => some homes.own
        | user => homes.named.lookup (String.ofList user)
      match home? with
      | none => path
      | some home =>
          let expanded := Text.dropEndWhile (· = '/') home.toList ++ rest.drop user.length
          if expanded.isEmpty then "/" else String.ofList expanded
  | _ => path

namespace Settings

def defaults (serverUrl : String) : Settings :=
  { serverUrl
    insecure := false
    credentialsId := none
    credentialsFile := none
    traits := []
    pageSize := 100
    maxPages := 10000
    timeout := 30
    maxRetries := 3
    outputDirectory := "./output"
    logLevel := "INFO" }

def readFlag (environment : Environment) (name : String) : Bool :=
  let word := String.ofList (Text.small (Text.trim (environment.value name).toList))
  word = "1" || word = "true" || word = "yes"

/-- The whole number in a variable, `other` when it is blank. -/
def readNumber (environment : Environment) (name : String) (other : Int) :
    Except SettingFault Int :=
  match Text.trimmed (environment.value name) with
  | "" => .ok other
  | text => match Number.readWhole text.toList with
    | .ok value => .ok value
    | .error _ => .error (.notWhole name text)

/-- The traits in a text that may be blank, read with room for this many containers. -/
def readTraits (room : Nat) (text : String) : Except SettingFault (List Json) :=
  match Text.trimmed text with
  | "" => .ok []
  | _ => match Json.readWithin room text.toList with
    | .error fault => .error (.traitsText fault)
    | .ok (.list traits) => .ok traits
    | .ok _ => .error .traitsNoList

def ofEnvironment (room : Nat) (environment : Environment) : Except SettingFault Settings := do
  let preset := defaults (environment.value "GERRIT_SERVER_URL")
  let traits ← readTraits room (environment.value "GERRIT_TRAITS")
  let pageSize ← readNumber environment "PAGE_SIZE" preset.pageSize
  let maxPages ← readNumber environment "MAX_PAGES" preset.maxPages
  let timeout ← readNumber environment "TIMEOUT" preset.timeout
  let maxRetries ← readNumber environment "MAX_RETRIES" preset.maxRetries
  return { serverUrl := preset.serverUrl
           insecure := readFlag environment "GERRIT_INSECURE_HTTPS"
           credentialsId := environment.nonempty? "GERRIT_CREDENTIALS_ID"
           credentialsFile := environment.nonempty? "GERRIT_CREDENTIALS_FILE"
           traits
           pageSize
           maxPages
           timeout
           maxRetries
           outputDirectory := (environment.find? "OUTPUT_DIR").getD preset.outputDirectory
           logLevel := (environment.find? "LOG_LEVEL").getD preset.logLevel }

def overridden (settings : Settings) (overrides : Overrides) : Settings :=
  { serverUrl := overrides.serverUrl.getD settings.serverUrl
    insecure := overrides.insecure.getD settings.insecure
    credentialsId := overrides.credentialsId.or settings.credentialsId
    credentialsFile := overrides.credentialsFile.or settings.credentialsFile
    traits := overrides.traits.getD settings.traits
    pageSize := overrides.pageSize.getD settings.pageSize
    maxPages := overrides.maxPages.getD settings.maxPages
    timeout := overrides.timeout.getD settings.timeout
    maxRetries := overrides.maxRetries.getD settings.maxRetries
    outputDirectory := overrides.outputDirectory.getD settings.outputDirectory
    logLevel := overrides.logLevel.getD settings.logLevel }

def checkServerUrl (url : String) : Except SettingFault String :=
  match Text.trimmed url with
  | "" => .error .noServerUrl
  | url => match Endpoint.problem? (some url) with
    | none => .ok url
    | some reason => .error (.serverUrl url reason)

def tooSmall? (settings : Settings) : Option Bound :=
  if settings.pageSize < 1 then some .pageSize
  else if settings.maxPages < 1 then some .maxPages
  else if settings.timeout < 1 then some .timeout
  else if settings.maxRetries < 1 then some .maxRetries
  else none

def checkLogLevel (name : String) : Except SettingFault String :=
  let capitals := String.ofList (Text.capital name.toList)
  match Log.levelOfName? capitals with
  | some _ => .ok capitals
  | none => .error (.logLevel capitals)

def unlessBlank (text : String) : Option String :=
  if Text.trimmed text = "" then none else some text

/-- Checks settings and brings them into their form: blanks around the server address go, blank
names count as none, and home directories are written out. -/
def checked (homes : Homes) (settings : Settings) : Except Failure Settings :=
  match checkServerUrl settings.serverUrl with
  | .error fault => .error (.setting fault)
  | .ok serverUrl => match settings.tooSmall? with
    | some bound => .error (.tooSmall bound)
    | none => match checkLogLevel settings.logLevel with
      | .error fault => .error (.setting fault)
      | .ok logLevel => .ok
          { settings with
            serverUrl
            credentialsId := settings.credentialsId.bind unlessBlank
            credentialsFile := settings.credentialsFile.filter (· ≠ "")
            outputDirectory := homes.expand settings.outputDirectory
            logLevel }

/-- The settings of a run: those of the environment with the given values in place, checked. -/
def load (homes : Homes) (environment : Environment) (overrides : Overrides)
    (room : Nat := Json.usualRoom) : Except Failure Settings :=
  match ofEnvironment room environment with
  | .error fault => .error (.setting fault)
  | .ok settings => (settings.overridden overrides).checked homes

end Settings

end ProjectScan
