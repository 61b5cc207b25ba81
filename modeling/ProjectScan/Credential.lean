import ProjectScan.Failure
import ProjectScan.Json.Display

/-!
Credentials and the scopes they are registered for. A credential file may hold any values, so the
parts of a credential are values and not texts.
-/

namespace ProjectScan

structure Credential where
  username : Json
  password : Json
  deriving Repr

namespace Credential

def ofTexts (username password : String) : Credential := ⟨.text username, .text password⟩

def hidden : Json := .text "****"

def lastFour (credential : Credential) : Except Failure Json :=
  match credential.password with
  | .text password =>
      let characters := password.toList
      if 4 ≤ characters.length then
        .ok (.text (String.ofList (characters.drop (characters.length - 4))))
      else .ok hidden
  | .list items =>
      if 4 ≤ items.length then .ok (.list (items.drop (items.length - 4))) else .ok hidden
  | .object fields => if 4 ≤ fields.length then .error (.misfit .noSlices) else .ok hidden
  | other => .error (.misfit (.noLength other.kind))

def text (credential : Credential) : String :=
  "Credential(username=" ++ credential.username.displayed ++ ")"

def same (left right : Credential) : Bool :=
  left.username.same right.username && left.password.same right.password

end Credential

namespace Scope

open Address

def coversPath (scope target : List Char) : Bool :=
  target = scope || (scope ++ ['/']).isPrefixOf target

/-- Whether a scope covers a target: the same scheme and host, the same port when the scope names
one, and a path under that of the scope. -/
def coversParts (scope target : Parts) (scopePort targetPort : Option Nat) : Bool :=
  scope.scheme = target.scheme && scope.host = target.host &&
    (scopePort.isNone || scopePort = targetPort) &&
    coversPath (trimSlashes scope.path) (trimSlashes target.path)

def read? (text : String) : Option (Parts × Option Nat) :=
  match split text.toList with
  | .error _ => none
  | .ok parts => match parts.port with
    | .error _ => none
    | .ok port => some (parts, port)

/-- Whether the scope covers the target; a text that cannot be split covers nothing and is covered
by nothing. -/
def covers (scope target : String) : Bool :=
  match read? scope, read? target with
  | some (scope, scopePort), some (target, targetPort) =>
      coversParts scope target scopePort targetPort
  | _, _ => false

end Scope

structure StoredCredential where
  id : Json
  credential : Credential
  scope : Option Json
  deriving Repr

/-- Whether the credential applies to a server address. Without a scope it applies everywhere. -/
def StoredCredential.appliesTo (entry : StoredCredential) (serverUrl : String) :
    Except Failure Bool :=
  match entry.scope with
  | none => .ok true
  | some scope =>
      if !scope.isTrue then .ok true
      else match scope with
        | .text scope => .ok (Scope.covers scope serverUrl)
        | other => .error (.misfit (.noAddress other.kind))

end ProjectScan
