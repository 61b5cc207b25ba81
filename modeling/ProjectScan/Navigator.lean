import ProjectScan.Pager
import ProjectScan.Session
import ProjectScan.Store

/-!
Scans. A navigator holds the settings of scans of one server; every scan resolves the address,
looks the credential up, makes a client of its own and tells the observer of one project after the
other, until there are no more, the observer stops, the scan is cancelled or something fails.
-/

namespace ProjectScan

structure Navigator where
  serverUrl : Option String
  insecure : Bool
  credentialsId : Option String
  traits : List Json
  store : Store
  pageSize : Int
  maxPages : Int
  timeout : Int
  maxRetries : Int
  deriving Repr

structure Summary where
  navigatorId : String
  endpoint : Endpoint
  projectsSeen : Nat
  pagesFetched : Nat
  stoppedEarly : Bool
  apiCalls : Nat
  deriving Repr

structure Scan (σ : Type) where
  outcome : Except Failure Summary
  state : σ
  client : Option Client
  channel : Channel

namespace Navigator

def ownSink : Log.Sink := .plain "gerrit_discovery.navigator"

def stripped? (text : Option String) : Option String :=
  match Text.trimmed (text.getD "") with
  | "" => none
  | stripped => some stripped

/-- A navigator; blanks around address and id are dropped. -/
def create (serverUrl : Option String) (insecure : Bool) (credentialsId : Option String)
    (traits : List Json) (store : Store) (pageSize maxPages timeout maxRetries : Int) :
    Navigator :=
  ⟨stripped? serverUrl, insecure, stripped? credentialsId, traits, store, pageSize, maxPages,
    timeout, maxRetries⟩

def idPart (name : String) (value : Option String) : String :=
  name ++ "=" ++ value.getD "null"

/-- The identity of the navigator, with which the ids of its candidates begin. -/
def id (navigator : Navigator) : String :=
  idPart "server-url" navigator.serverUrl ++ idSeparator ++
    idPart "credentials-id" navigator.credentialsId

def lookupCredential (navigator : Navigator) (journal : Log.Journal) :
    Except Failure (Option Credential) × Log.Journal :=
  match navigator.serverUrl with
  | none => (.ok none, journal)
  | some serverUrl => navigator.store.lookup serverUrl navigator.credentialsId journal

def noteCredential (navigator : Navigator) (credential : Option Credential) (sink : Log.Sink)
    (journal : Log.Journal) : Except Failure Log.Journal :=
  match credential with
  | some credential => credential.lastFour.map fun lastFour =>
      journal.note sink Log.Level.debug
        ("Authenticating as " ++ credential.username.shown ++ " (password ending " ++
          lastFour.shown ++ ")")
  | none => match navigator.credentialsId with
    | none => .ok journal
    | some id => .ok (journal.note sink Log.Level.warning
        ("Credential " ++ Text.quoted id ++ " not found, scanning anonymously"))

def blueprint (navigator : Navigator) (endpoint : Endpoint) (authenticated : Bool) : Blueprint :=
  ⟨navigator.id, endpoint, navigator.insecure, authenticated, navigator.credentialsId,
    navigator.traits⟩

structure Visit (σ : Type) where
  session : Session
  state : σ

/-- Submits a project and looks whether to go on: the observer may stop, and a scan that is
watched may be cancelled. -/
def visit {σ : Type} (blueprint : Blueprint) (observer : Observer σ) (sink : Log.Sink)
    (watched : Bool) (now : Visit σ) (project : Project) (channel : Channel) :
    Pager.Flow × Visit σ × Channel :=
  let submission := now.session.process observer sink project.name
    (blueprint.candidate project.name) now.state channel
  let now : Visit σ := ⟨submission.session, submission.state⟩
  match submission.verdict with
  | .error failure => (.fail failure, now, submission.channel)
  | .ok true => (.stop, now, submission.channel)
  | .ok false =>
      if watched && submission.channel.cancelled then
        let failure := Failure.cancelled now.session.projectsSeen
        (.fail failure, now, submission.channel.note sink Log.Level.warning failure.message)
      else (.go, now, submission.channel)

/-- A failure as the scan reports it: that of the first page means that there is no listing, and
that of a later page is noted. -/
def reported (baseUrl : String) (projectsSeen : Nat) (sink : Log.Sink) (failure : Failure)
    (channel : Channel) : Failure × Channel :=
  match failure.page? with
  | none => (failure, channel)
  | some page =>
      if page = 1 then (.noListing baseUrl failure, channel)
      else (failure, channel.note sink Log.Level.error
        (failure.message ++ " after " ++ Number.naturalText projectsSeen ++ " projects"))

/-- The part of a scan inside its session, which ends with the client closed. -/
def runSession {σ : Type} (navigator : Navigator) (observer : Observer σ) (sink : Log.Sink)
    (watched : Bool) (pager : Pager) (state : σ) (channel : Channel) : Scan σ :=
  let blueprint := navigator.blueprint pager.client.endpoint pager.client.authenticated
  let (session, journal) := Session.fresh.enter sink channel.journal
  let walk := pager.walk (visit blueprint observer sink watched) .fresh ⟨session, state⟩
    { channel with journal }
  let session := walk.state.session
  let client := walk.pager.client
  match walk.ending with
  | .failed failure =>
      let (failure, channel) :=
        reported client.baseUrl session.projectsSeen sink failure walk.channel
      let (_, client, journal) := session.exit client (some failure.name) sink channel.journal
      ⟨.error failure, walk.state.state, some client, { channel with journal }⟩
  | _ =>
      let summary : Summary :=
        { navigatorId := navigator.id
          endpoint := client.endpoint
          projectsSeen := session.projectsSeen
          pagesFetched := walk.pager.pagesFetched
          stoppedEarly := session.stoppedEarly
          apiCalls := client.tally.total }
      let (_, client, journal) := session.exit client none sink walk.channel.journal
      let journal := journal.note sink Log.Level.info
        ("Discovery finished: " ++ Number.naturalText summary.projectsSeen ++ " projects in " ++
          Number.naturalText summary.pagesFetched ++ " pages")
      ⟨.ok summary, walk.state.state, some client, { walk.channel with journal }⟩

def scanEndpoint {σ : Type} (navigator : Navigator) (observer : Observer σ) (sink : Log.Sink)
    (watched : Bool) (endpoint : Endpoint) (credential : Option Credential) (state : σ)
    (channel : Channel) : Scan σ :=
  match Client.create endpoint credential navigator.insecure navigator.timeout
      navigator.maxRetries sink channel.journal with
  | (.error failure, journal) =>
      ⟨.error (.noClient endpoint.apiUri failure), state, none, { channel with journal }⟩
  | (.ok client, journal) =>
      let channel := { channel with journal }
      match Pager.create client navigator.pageSize navigator.maxPages (some "CODE") with
      | .error failure => ⟨.error failure, state, some client, channel⟩
      | .ok pager =>
          navigator.runSession observer sink watched pager state
            (channel.note sink Log.Level.info ("Discovering projects at " ++ client.baseUrl))

/-- Scans the server and submits every project to the observer, from the given state on. Only a
scan that is watched can be cancelled. -/
def discover {σ : Type} (navigator : Navigator) (observer : Observer σ) (watched : Bool)
    (state : σ) (channel : Channel) : Scan σ :=
  let sink := (observer.sink.getD ownSink).forScan navigator.id
  match Endpoint.resolve navigator.serverUrl with
  | .error fault =>
      ⟨.error (.resolution (.address navigator.serverUrl fault)), state, none,
        channel.note sink Log.Level.error
          ("Cannot resolve Gerrit server URL: " ++ fault.reason)⟩
  | .ok endpoint =>
      match navigator.lookupCredential channel.journal with
      | (.error failure, journal) => ⟨.error failure, state, none, { channel with journal }⟩
      | (.ok credential, journal) =>
          match navigator.noteCredential credential sink journal with
          | .error failure => ⟨.error failure, state, none, { channel with journal }⟩
          | .ok journal =>
              navigator.scanEndpoint observer sink watched endpoint credential state
                { channel with journal }

end Navigator

end ProjectScan
