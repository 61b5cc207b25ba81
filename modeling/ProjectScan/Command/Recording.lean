import ProjectScan.Channel
import ProjectScan.Json.Reader

/-!
Recordings of what a server answered, as JSON. A recording tells when the run began and ended, and
lists the answers in order; an answer is a response, or a failure by its kind and message.
-/

namespace ProjectScan.Command

structure Recording where
  startedAt : String
  finishedAt : String
  /-- When diagnostics were made, in seconds of the epoch. -/
  time : Number.Binary64
  turns : List Turn
  deriving Repr

namespace Recording

def textOf (fields : List (String × Json)) (name : String) : String :=
  match Json.field? fields name with
  | some (.text text) => text
  | _ => ""

def numberOf (fields : List (String × Json)) (name : String) : Number.Binary64 :=
  match Json.field? fields name with
  | some (.float number) => number
  | some (.whole number) => (Number.Binary64.ofWhole? number).getD (.zero false)
  | _ => .zero false

def flagOf (fields : List (String × Json)) (name : String) : Bool :=
  match Json.field? fields name with
  | some value => value.isTrue
  | none => false

def headersOf (fields : List (String × Json)) : List (String × String) :=
  match Json.field? fields "headers" with
  | some (.object headers) => headers.filterMap fun header => match header.2 with
    | .text value => some (header.1, value)
    | _ => none
  | _ => []

def kindOf (word : String) : TransportKind :=
  if word = "connection" then .connection
  else if word = "timeout" then .timeout
  else if word = "certificate" then .certificate
  else .other

def responseOf (fields : List (String × Json)) : Response :=
  { status := match Json.field? fields "status" with
      | some (.whole status) => status
      | _ => 200
    body := textOf fields "body"
    headers := headersOf fields
    elapsed := numberOf fields "seconds" }

def turnOf (fields : List (String × Json)) : Turn :=
  { reply := match Json.field? fields "failure" with
      | some (.text kind) => .failure (.transport (kindOf kind) (textOf fields "message"))
      | _ => .response (responseOf fields)
    stays := flagOf fields "stays"
    cancels := flagOf fields "cancels" }

def turnsOf (fields : List (String × Json)) : List Turn :=
  match Json.field? fields "answers" with
  | some (.list answers) => answers.filterMap fun answer => match answer with
    | .object fields => some (turnOf fields)
    | _ => none
  | _ => []

def ofFields (fields : List (String × Json)) : Recording :=
  ⟨textOf fields "started_at", textOf fields "finished_at", numberOf fields "time",
    turnsOf fields⟩

def read (text : String) : Recording :=
  match Json.read text.toList with
  | .ok (.object fields) => ofFields fields
  | _ => ofFields []

def ended : Reply := .failure (.transport .connection "the recording is over")

end Recording

end ProjectScan.Command
