import ProjectScan.Command.Discovery

/-!
The program: a discovery run, or the check of an address when the first word asks for it.
-/

namespace ProjectScan.Command

def programName : String := "gerrit_discovery"

def checkWord : String := "check-url"

def usage (name : String) : String :=
  if name = programName then "usage: " ++ name ++ " [options]\n"
  else "usage: " ++ name ++ " [-h] url\n"

def Machine.plain (machine : Machine) (code : Nat) (shown complaint : String) : Outcome :=
  ⟨.ok code, shown, complaint, machine.disk, machine.idle, none, none⟩

def stopped (machine : Machine) (name : String) (stop : Stop) : Outcome :=
  match stop with
  | .help => machine.plain 0 (usage name) ""
  | .version => machine.plain 0 (programName ++ " " ++ programVersion ++ "\n") ""
  | .misuse misuse =>
      machine.plain 2 "" (usage name ++ name ++ ": error: " ++ misuse.message ++ "\n")

def checkUrl (machine : Machine) (url : String) : Outcome :=
  match Endpoint.resolve (some url) with
  | .ok endpoint =>
      machine.plain 0 ("web: " ++ endpoint.webUri ++ "\napi: " ++ endpoint.apiUri ++ "\n") ""
  | .error fault => machine.plain 1 "" ("invalid: " ++ fault.reason ++ "\n")

def runDiscovery (machine : Machine) (words : List String) : Outcome :=
  match Arguments.read words with
  | .error stop => stopped machine programName stop
  | .ok arguments => discover machine arguments

def runCheck (machine : Machine) (words : List String) : Outcome :=
  match readCheck words with
  | .error stop => stopped machine (programName ++ " " ++ checkWord) stop
  | .ok url => checkUrl machine url

def run (machine : Machine) (words : List String) : Outcome :=
  match words with
  | [] => runDiscovery machine []
  | word :: rest =>
      if word = checkWord then runCheck machine rest else runDiscovery machine (word :: rest)

end ProjectScan.Command
