import ProjectScan.Client
import ProjectScan.Observer

/-!
The session of one scan: it is opened, passes projects on to the observer, and closes the client
when it is left, however the scan ends.
-/

namespace ProjectScan

structure Session where
  isOpen : Bool
  projectsSeen : Nat
  stoppedEarly : Bool
  deriving DecidableEq, Repr

namespace Session

def fresh : Session := ⟨false, 0, false⟩

def enter (session : Session) (sink : Log.Sink) (journal : Log.Journal) :
    Session × Log.Journal :=
  ({ session with isOpen := true },
    journal.note sink Log.Level.debug "Discovery session opened")

structure Submission (σ : Type) where
  verdict : Except Failure Bool
  session : Session
  state : σ
  channel : Channel

/-- Submits a project to the observer. It counts as seen even if the observer fails. -/
def process {σ : Type} (session : Session) (observer : Observer σ) (sink : Log.Sink)
    (name : String) (candidate : Candidate) (state : σ) (channel : Channel) : Submission σ :=
  if !session.isOpen then ⟨.error .sessionClosed, session, state, channel⟩
  else
    let session := { session with projectsSeen := session.projectsSeen + 1 }
    let observation := observer.observe state name candidate session.isOpen
    let channel := { channel with
      journal := observation.records.foldl Log.Journal.keep channel.journal
      cancelled := channel.cancelled || observation.cancels }
    match observation.verdict with
    | .ok true =>
        ⟨.ok true, { session with stoppedEarly := true }, observation.state,
          channel.write sink Log.Level.info ("Observer stopped discovery after " ++ name)
            [("project", .text name)]⟩
    | verdict => ⟨verdict, session, observation.state, channel⟩

def failureText : Option String → String
  | none => ""
  | some failure => " (" ++ failure ++ ")"

/-- Leaves the session, with the name of the failure that ends it if there is one, and closes the
client. -/
def exit (session : Session) (client : Client) (failure : Option String) (sink : Log.Sink)
    (journal : Log.Journal) : Session × Client × Log.Journal :=
  ({ session with isOpen := false }, client.close,
    journal.note sink Log.Level.debug
      ("Discovery session closed after " ++ Number.naturalText session.projectsSeen ++
        " projects" ++ failureText failure))

end Session

end ProjectScan
