/-!
The variables a program is started with.
-/

namespace ProjectScan

structure Environment where
  entries : List (String × String)

namespace Environment

def find? (environment : Environment) (name : String) : Option String :=
  (environment.entries.find? (·.1 = name)).map (·.2)

def value (environment : Environment) (name : String) : String :=
  (environment.find? name).getD ""

def nonempty? (environment : Environment) (name : String) : Option String :=
  (environment.find? name).filter (· ≠ "")

end Environment

end ProjectScan
