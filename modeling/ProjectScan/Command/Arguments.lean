import ProjectScan.Command.Grammar

/-!
The options of a discovery run, and what a command line says with them. Of options that are given
more than once the last counts, but patterns add up.
-/

namespace ProjectScan.Command

inductive Switch where
  | help
  | version
  | serverUrl
  | insecure
  | credentialsId
  | credentialsFile
  | pageSize
  | maxPages
  | inclusion
  | exclusion
  | limit
  | output
  | jsonLogs
  | logFile
  | verbose
  | quiet
  deriving DecidableEq, Repr

namespace Switch

def isFlag : Switch → Bool
  | .help | .version | .insecure | .jsonLogs | .verbose | .quiet => true
  | _ => false

def grammar : Grammar Switch where
  spellings := [("-h", .help), ("--help", .help), ("--version", .version),
    ("--server-url", .serverUrl), ("--insecure-https", .insecure),
    ("--credentials-id", .credentialsId), ("--credentials-file", .credentialsFile),
    ("--page-size", .pageSize), ("--max-pages", .maxPages), ("--include", .inclusion),
    ("--exclude", .exclusion), ("--limit", .limit), ("--out", .output),
    ("--json-logs", .jsonLogs), ("--log-file", .logFile), ("-v", .verbose),
    ("--verbose", .verbose), ("-q", .quiet), ("--quiet", .quiet)]
  hasValue switch := !switch.isFlag
  operand := none

end Switch

structure Arguments where
  serverUrl : Given String
  insecure : Bool
  credentialsId : Given String
  credentialsFile : Given String
  pageSize : Given Int
  maxPages : Given Int
  inclusions : List (Given String)
  exclusions : List (Given String)
  limit : Given Int
  output : Given String
  jsonLogs : Bool
  logFile : Given String
  verbose : Bool
  quiet : Bool
  deriving Repr

namespace Arguments

def empty : Arguments :=
  { serverUrl := .absent
    insecure := false
    credentialsId := .absent
    credentialsFile := .absent
    pageSize := .absent
    maxPages := .absent
    inclusions := []
    exclusions := []
    limit := .absent
    output := .absent
    jsonLogs := false
    logFile := .absent
    verbose := false
    quiet := false }

def wholeNumber (switch : Switch) (given : Given String) : Except Stop (Given Int) :=
  match given with
  | .absent => .ok .absent
  | .blank => .ok .blank
  | .value text => match Number.readWhole text.toList with
    | .ok number => .ok (.value number)
    | .error _ => .error (.misuse (.notWhole (Switch.grammar.label switch) text))

def take (arguments : Arguments) (occurrence : Occurrence Switch) : Except Stop Arguments :=
  let given := occurrence.given
  match occurrence.option with
  | .help => .error .help
  | .version => .error .version
  | .serverUrl => .ok { arguments with serverUrl := given }
  | .insecure => .ok { arguments with insecure := true }
  | .credentialsId => .ok { arguments with credentialsId := given }
  | .credentialsFile => .ok { arguments with credentialsFile := given }
  | .pageSize => (wholeNumber .pageSize given).map fun pageSize => { arguments with pageSize }
  | .maxPages => (wholeNumber .maxPages given).map fun maxPages => { arguments with maxPages }
  | .inclusion => .ok { arguments with inclusions := arguments.inclusions ++ [given] }
  | .exclusion => .ok { arguments with exclusions := arguments.exclusions ++ [given] }
  | .limit => (wholeNumber .limit given).map fun limit => { arguments with limit }
  | .output => .ok { arguments with output := given }
  | .jsonLogs => .ok { arguments with jsonLogs := true }
  | .logFile => .ok { arguments with logFile := given }
  | .verbose => .ok { arguments with verbose := true }
  | .quiet => .ok { arguments with quiet := true }

def read (words : List String) : Except Stop Arguments :=
  (Switch.grammar.read take empty words).map (·.1)

end Arguments

def checkGrammar : Grammar Unit where
  spellings := [("-h", ()), ("--help", ())]
  hasValue _ := false
  operand := some "url"

def readCheck (words : List String) : Except Stop String :=
  (checkGrammar.read (fun _ _ => .error .help) () words).map fun taken => taken.2.getD ""

end ProjectScan.Command
