import ProjectScan.Endpoint
import ProjectScan.Json.Value

/-!
Candidates: everything that is needed to clone a project later. The id of a candidate is that of
the scan and the name of the project, with two colons between.
-/

namespace ProjectScan

structure Candidate where
  id : String
  project : String
  endpoint : Endpoint
  insecure : Bool
  credentialsId : Option String
  authenticated : Bool
  traits : List Json
  deriving Repr

namespace Candidate

def remoteUrl (candidate : Candidate) : String :=
  candidate.endpoint.projectUri candidate.project candidate.authenticated

def textOrNull : Option String → Json
  | none => .null
  | some text => .text text

def toJson (candidate : Candidate) : Json :=
  .object [("id", .text candidate.id), ("project_name", .text candidate.project),
    ("remote_url", .text candidate.remoteUrl), ("insecure_https", .bool candidate.insecure),
    ("credentials_id", textOrNull candidate.credentialsId), ("traits", .list candidate.traits)]

def same (left right : Candidate) : Bool :=
  left.id == right.id && left.project == right.project && left.endpoint == right.endpoint &&
    left.insecure == right.insecure && left.credentialsId == right.credentialsId &&
    left.authenticated == right.authenticated && Json.sameItems left.traits right.traits

end Candidate

structure Blueprint where
  scanId : String
  endpoint : Endpoint
  insecure : Bool
  authenticated : Bool
  credentialsId : Option String
  traits : List Json
  deriving Repr

def idSeparator : String := "::"

def Blueprint.candidate (blueprint : Blueprint) (project : String) : Candidate :=
  { id := blueprint.scanId ++ idSeparator ++ project
    project
    endpoint := blueprint.endpoint
    insecure := blueprint.insecure
    credentialsId := blueprint.credentialsId
    authenticated := blueprint.authenticated
    traits := blueprint.traits }

end ProjectScan
