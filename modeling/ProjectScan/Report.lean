import ProjectScan.Candidate
import ProjectScan.Json.Shape

/-!
Reports of discovery runs: what is known of the run and the candidates that were accepted, in the
order in which they were. `Report.shape` is what every written report has to look like.
-/

namespace ProjectScan

structure Run where
  startedAt : String
  finishedAt : String
  navigatorId : String
  serverUrl : String
  webUri : String
  apiUri : String
  projectsSeen : Int
  pagesFetched : Int
  apiCalls : Int
  stoppedEarly : Bool
  deriving Repr

structure Report where
  run : Run
  candidates : List Candidate
  deriving Repr

namespace Report

/-- The counts of a report; that of the sources is the length of their list. -/
def statsJson (report : Report) : Json :=
  .object [("projects_seen", .whole report.run.projectsSeen),
    ("sources", .whole report.candidates.length), ("pages_fetched", .whole report.run.pagesFetched),
    ("api_calls", .whole report.run.apiCalls)]

def runJson (report : Report) : Json :=
  .object [("started_at", .text report.run.startedAt), ("finished_at", .text report.run.finishedAt),
    ("navigator_id", .text report.run.navigatorId), ("server_url", .text report.run.serverUrl),
    ("web_uri", .text report.run.webUri), ("api_uri", .text report.run.apiUri),
    ("stopped_early", .bool report.run.stoppedEarly), ("stats", report.statsJson)]

def toJson (report : Report) : Json :=
  .object [("run", report.runJson), ("sources", .list (report.candidates.map Candidate.toJson))]

open Json (Shape)

def anyText : Shape := .oneOf [.text]

def statsShape : Shape :=
  .record ["projects_seen", "sources", "pages_fetched", "api_calls"] false
    [("projects_seen", .count 0), ("sources", .count 0), ("pages_fetched", .count 0),
      ("api_calls", .count 0)]

def runShape : Shape :=
  .record
    ["started_at", "finished_at", "navigator_id", "server_url", "web_uri", "api_uri",
      "stopped_early", "stats"]
    false
    [("started_at", anyText), ("finished_at", anyText), ("navigator_id", .text 1),
      ("server_url", anyText), ("web_uri", anyText), ("api_uri", anyText),
      ("stopped_early", .oneOf [.bool]), ("stats", statsShape)]

def candidateShape : Shape :=
  .record ["id", "project_name", "remote_url", "traits"] true
    [("id", anyText), ("project_name", .text 1), ("remote_url", anyText),
      ("insecure_https", .oneOf [.bool]), ("credentials_id", .oneOf [.text, .null]),
      ("traits", .oneOf [.list])]

def shape : Shape :=
  .record ["run", "sources"] false [("run", runShape), ("sources", .listOf candidateShape)]

/-- What is wrong with a value that is to be a report, one message a fault. -/
def problems (value : Json) : List String :=
  (shape.violations value).map Json.Violation.message

end Report

end ProjectScan
