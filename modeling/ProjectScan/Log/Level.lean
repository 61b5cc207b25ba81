import ProjectScan.Number.Whole

/-!
Severity levels of diagnostics. A level is a number; six of them have names.
-/

namespace ProjectScan.Log

namespace Level

def debug : Int := 10
def info : Int := 20
def warning : Int := 30
def error : Int := 40
def critical : Int := 50

end Level

/-- The name of a level; one without a name is written with its number. -/
def levelName (level : Int) : String :=
  if level = 0 then "NOTSET"
  else if level = Level.debug then "DEBUG"
  else if level = Level.info then "INFO"
  else if level = Level.warning then "WARNING"
  else if level = Level.error then "ERROR"
  else if level = Level.critical then "CRITICAL"
  else "Level " ++ Number.wholeText level

def levelOfName? (name : String) : Option Int :=
  if name = "NOTSET" then some 0
  else if name = "DEBUG" then some Level.debug
  else if name = "INFO" then some Level.info
  else if name = "WARNING" ∨ name = "WARN" then some Level.warning
  else if name = "ERROR" then some Level.error
  else if name = "CRITICAL" ∨ name = "FATAL" then some Level.critical
  else none

end ProjectScan.Log
