import ProjectScan.Channel
import ProjectScan.Credential
import ProjectScan.Endpoint

/-!
The client of one server. Requests that meet trouble are repeated after a pause, as long as
attempts are left: after a failure of the transport, a refusal for too many requests or an error of
the server. Calls with a credential go to the base for authenticated access.
-/

namespace ProjectScan

def programVersion : String := "0.1.0"

namespace Body

/-- The line in front of a body that keeps it from being run as a program. -/
def guard : List Char := [')', ']', '}', '\x27']

def unguarded (body : List Char) : List Char :=
  let body := Text.trimStart body
  if guard.isPrefixOf body then body.drop guard.length else body

def decode (body : List Char) (room : Nat := Json.usualRoom) : Except Json.Fault Json :=
  Json.readWithin room (unguarded body)

end Body

namespace Response

def decoded (response : Response) : Except Json.Fault Json :=
  Body.decode response.body.toList response.room

/-- The value that the body stands for, or the body itself as a text. -/
def value (response : Response) : Json :=
  match response.decoded with
  | .ok value => value
  | .error _ => .text response.body

end Response

/-- What there was no stack left for when the body was read. -/
def Response.excess? (response : Response) : Option Json.Excess :=
  Json.excess? response.room (Body.unguarded response.body.toList)

/-- A reply as it is once its body is read: a response whose body is too deep is met as this
failure. -/
def Reply.met : Reply → Reply
  | .failure cause => .failure cause
  | .response sent => match sent.decoded with
      | .error (.tooDeep excess) => .failure (.json (.tooDeep excess))
      | _ => .response sent

theorem Response.decoded_eq_tooDeep_iff {response : Response} {excess : Json.Excess} :
    response.decoded = .error (.tooDeep excess) ↔ response.excess? = some excess :=
  Json.readWithin_eq_tooDeep_iff

theorem Reply.met_of_readable {sent : Response} (readable : sent.excess? = none) :
    (Reply.response sent).met = .response sent := by
  dsimp only [met]
  split
  · rename_i decoded
    rw [Response.decoded_eq_tooDeep_iff.mp decoded] at readable
    cases readable
  · rfl

theorem Response.readable_of_decoded {response : Response} {value : Json}
    (decoded : response.decoded = .ok value) : response.excess? = none :=
  (Json.readWithin_eq_ok_iff.mp decoded).1

theorem Response.value_of_decoded {response : Response} {value : Json}
    (decoded : response.decoded = .ok value) : response.value = value := by
  unfold Response.value
  rw [decoded]

theorem Response.value_of_excess {response : Response} {excess : Json.Excess}
    (deep : response.excess? = some excess) : response.value = .text response.body := by
  unfold Response.value
  rw [Response.decoded_eq_tooDeep_iff.mpr deep]

theorem Response.readable_of_value {response : Response}
    (read : response.value ≠ .text response.body) : response.excess? = none := by
  cases deep : response.excess? with
  | none => rfl
  | some excess => exact absurd (value_of_excess deep) read

theorem Reply.met_of_excess {sent : Response} {excess : Json.Excess}
    (deep : sent.excess? = some excess) :
    (Reply.response sent).met = .failure (.json (.tooDeep excess)) := by
  dsimp only [met]
  rw [Response.decoded_eq_tooDeep_iff.mpr deep]

def callLevel (status : Int) : Int :=
  if 500 ≤ status then Log.Level.error
  else if 400 ≤ status then Log.Level.warning
  else Log.Level.debug

def callMessage (method url : String) (status : Int) (duration : Number.Binary64) : String :=
  method ++ " " ++ url ++ " -> " ++ Number.wholeText status ++ " (" ++ duration.places 0 ++ "ms)"

def callFields (url : String) (status : Int) (duration : Number.Binary64) :
    List (String × Json) :=
  [("api_endpoint", .text url), ("status_code", .whole status), ("duration_ms", .float duration)]

def Log.Journal.call (journal : Log.Journal) (sink : Log.Sink) (method url : String)
    (status : Int) (duration : Number.Binary64) : Log.Journal :=
  journal.write sink (callLevel status) (callMessage method url status duration)
    (callFields url status duration)

/-! ### The client -/

structure Tally where
  total : Nat
  successful : Nat
  retried : Nat
  failed : Nat
  deriving DecidableEq, Repr

structure Connection where
  headers : List (String × String)
  credential : Option Credential
  verifies : Bool
  closings : Nat
  deriving Repr

structure Client where
  endpoint : Endpoint
  timeout : Int
  maxRetries : Nat
  sink : Log.Sink
  connection : Connection
  tally : Tally
  closed : Bool
  deriving Repr

namespace Client

def ownSink : Log.Sink := .plain "gerrit_discovery.gerrit_client"

def requestHeaders : List (String × String) :=
  [("Accept", "application/json"), ("User-Agent", "Gerrit-Discovery/" ++ programVersion)]

def authenticated (client : Client) : Bool := client.connection.credential.isSome

def baseUrl (client : Client) : String := client.endpoint.restUri client.authenticated

def create (endpoint : Endpoint) (credential : Option Credential) (insecure : Bool)
    (timeout maxRetries : Int) (sink : Log.Sink) (journal : Log.Journal) :
    Except Failure Client × Log.Journal :=
  if maxRetries < 1 then (.error (.tooSmall .maxRetries), journal)
  else
    let client : Client :=
      { endpoint, timeout, sink
        maxRetries := maxRetries.toNat
        connection := ⟨requestHeaders, credential, !insecure, 0⟩
        tally := ⟨0, 0, 0, 0⟩
        closed := false }
    (.ok client,
      if insecure then
        journal.note sink Log.Level.warning
          ("TLS certificate verification disabled for " ++ client.baseUrl)
      else journal)

def close (client : Client) : Client :=
  if client.closed then client
  else
    { client with
      closed := true
      connection := { client.connection with closings := client.connection.closings + 1 } }

section Close

variable (client : Client)

@[simp] theorem closed_close : client.close.closed = true := by
  unfold close
  split
  · assumption
  · rfl

@[simp] theorem close_close : client.close.close = client.close := if_pos client.closed_close

@[simp] theorem closings_close :
    client.close.connection.closings = client.connection.closings + (!client.closed).toNat := by
  unfold close
  cases client.closed <;> rfl

@[simp] theorem credential_close :
    client.close.connection.credential = client.connection.credential := by
  unfold close
  split <;> rfl

@[simp] theorem verifies_close :
    client.close.connection.verifies = client.connection.verifies := by
  unfold close
  split <;> rfl

@[simp] theorem tally_close : client.close.tally = client.tally := by
  unfold close
  split <;> rfl

end Close

/-- The address of a path; a full web address stands for itself. -/
def address (client : Client) (path : String) : String :=
  if "http://".toList.isPrefixOf path.toList || "https://".toList.isPrefixOf path.toList then path
  else if path.toList.head? = some '/' then client.baseUrl ++ path
  else client.baseUrl ++ "/" ++ path

/-! ### Retries -/

def longestPause : Number.Binary64 := .ofQuotient false 60 1

/-- How long to pause after an attempt: as long as the server asks for, else twice as long after
each attempt, and never longer than the longest pause. -/
def pauseAfter (attempt : Int) (wanted : Option Int) : Except Failure Number.Binary64 :=
  let seconds := match wanted with
    | some seconds => Number.Binary64.ofWhole? seconds
    | none => Number.Binary64.powerOfTwo? attempt
  match seconds with
  | none => .error .endlessPause
  | some seconds => .ok (seconds.lesser longestPause)

def isTransient (status : Int) : Bool := status = 429 || (500 ≤ status && status < 600)

/-- The value of a header by its exact name, the last one given. -/
def header? (headers : List (String × String)) (name : String) : Option String :=
  (headers.reverse.find? (·.1 = name)).map (·.2)

/-- The pause that the server asks for, in whole seconds. The name is looked up in two spellings. -/
def wantedPause (headers : List (String × String)) : Option Int :=
  let text := match header? headers "Retry-After" with
    | some "" | none => header? headers "retry-after"
    | found => found
  match text with
  | none | some "" => none
  | some text => (Number.readWhole text.toList).toOption

structure Answer where
  status : Int
  value : Json
  headers : List (String × String)
  deriving Repr

def counted (client : Client) : Client :=
  { client with tally := { client.tally with total := client.tally.total + 1 } }

def countedRetry (client : Client) : Client :=
  { client with tally := { client.tally with retried := client.tally.retried + 1 } }

def countedFailure (client : Client) : Client :=
  { client with tally := { client.tally with failed := client.tally.failed + 1 } }

def countedEnd (client : Client) (status : Int) : Client :=
  if status < 400 then
    { client with tally := { client.tally with successful := client.tally.successful + 1 } }
  else client.countedFailure

def attemptText (client : Client) (attempt : Nat) : String :=
  Number.naturalText (attempt + 1) ++ "/" ++ Number.naturalText client.maxRetries

def retryText (client : Client) (attempt : Nat) (seconds : Number.Binary64) : String :=
  ", retrying in " ++ seconds.places 1 ++ "s (attempt " ++ client.attemptText attempt ++ ")"

def sendOnce (client : Client) (request : Request) (attempt : Nat) (channel : Channel) :
    Reply × Channel :=
  let (reply, channel) := (channel.note client.sink Log.Level.debug
    ("GET " ++ request.url ++ " params=" ++ (Json.object request.params).displayed ++
      " (attempt " ++ Number.naturalText (attempt + 1) ++ ")")).send request
  match reply.met with
  | .response response =>
      (.response response, { channel with
        journal := channel.journal.call client.sink "GET" request.url response.status
          (response.elapsed.timesNat 1000) })
  | .failure failure => (.failure failure, channel)

def answered (client : Client) (response : Response) (channel : Channel) :
    Except Failure Answer × Client × Channel :=
  (.ok ⟨response.status, response.value, response.headers⟩,
    client.countedEnd response.status, channel)

def lastAttempt (client : Client) (request : Request) (attempt : Nat) (channel : Channel) :
    Except Failure Answer × Client × Channel :=
  let client := client.counted
  match client.sendOnce request attempt channel with
  | (.response response, channel) => client.answered response channel
  | (.failure (.transport kind message), channel) =>
      (.error (.exhausted request.url client.maxRetries (.transport kind message)),
        client.countedFailure,
        channel.note client.sink Log.Level.error
          ("Request failed after " ++ Number.naturalText client.maxRetries ++ " attempts: " ++
            message))
  | (.failure failure, channel) => (.error failure, client, channel)

def pauseFor (client : Client) (reason : String) (attempt : Nat)
    (seconds : Number.Binary64) (channel : Channel) : Except Failure Unit × Channel :=
  (channel.note client.sink Log.Level.warning
    (reason ++ client.retryText attempt seconds)).pause seconds

/-- An attempt that others may follow: the end of the request, or `none` for another attempt. -/
def earlierAttempt (client : Client) (request : Request) (attempt : Nat) (channel : Channel) :
    Option (Except Failure Answer) × Client × Channel :=
  let client := client.counted
  match client.sendOnce request attempt channel with
  | (.response response, channel) =>
      if isTransient response.status then
        match pauseAfter attempt (wantedPause response.headers) with
        | .error failure => (some (.error failure), client, channel)
        | .ok seconds =>
            match client.pauseFor ("Request failed with " ++ Number.wholeText response.status)
                attempt seconds channel with
            | (.error failure, channel) => (some (.error failure), client.countedRetry, channel)
            | (.ok _, channel) => (none, client.countedRetry, channel)
      else
        let (answer, client, channel) := client.answered response channel
        (some answer, client, channel)
  | (.failure (.transport _ message), channel) =>
      match pauseAfter attempt none with
      | .error failure => (some (.error failure), client.countedRetry, channel)
      | .ok seconds =>
          match client.pauseFor ("Request error: " ++ message) attempt seconds channel with
          | (.error failure, channel) => (some (.error failure), client.countedRetry, channel)
          | (.ok _, channel) => (none, client.countedRetry, channel)
  | (.failure failure, channel) => (some (.error failure), client, channel)

def attempts (client : Client) (request : Request) (attempt : Nat) (channel : Channel) :
    (left : Nat) → Except Failure Answer × Client × Channel
  | 0 => client.lastAttempt request attempt channel
  | left + 1 =>
      match client.earlierAttempt request attempt channel with
      | (some answer, client, channel) => (answer, client, channel)
      | (none, client, channel) => client.attempts request (attempt + 1) channel left

def get (client : Client) (path : String) (params : List (String × Json)) (channel : Channel) :
    Except Failure Answer × Client × Channel :=
  if client.closed then (.error .clientClosed, client, channel)
  else client.attempts ⟨client.address path, params, client.timeout⟩ 0 channel
    (client.maxRetries - 1)

end Client

end ProjectScan
