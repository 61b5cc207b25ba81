import ProjectScan.Failure
import ProjectScan.Log.Journal

/-!
The channel to a server: the replies still to come, what was sent, how long was paused and what was
noted so far. A reply may come with the wish to cancel the scan; once uttered, the wish stays.
-/

namespace ProjectScan

structure Response where
  status : Int
  body : String
  headers : List (String × String)
  elapsed : Number.Binary64
  /-- The containers for which there is room on the stack when the body is read. -/
  room : Nat := Json.usualRoom
  deriving Repr

inductive Reply where
  | response (response : Response)
  | failure (failure : Failure)
  deriving Repr

/-- A reply, whether it is met again by the next request, and whether the scan is cancelled while
it is awaited. -/
structure Turn where
  reply : Reply
  stays : Bool
  cancels : Bool
  deriving Repr

structure Request where
  url : String
  params : List (String × Json)
  timeout : Int
  deriving Repr

structure Channel where
  turns : List Turn
  /-- What every request meets after the last turn. -/
  afterwards : Reply
  requests : Array Request
  pauses : Array Number.Binary64
  journal : Log.Journal
  cancelled : Bool

namespace Channel

def fresh (turns : List Turn) (afterwards : Reply) (journal : Log.Journal) : Channel :=
  ⟨turns, afterwards, #[], #[], journal, false⟩

def send (channel : Channel) (request : Request) : Reply × Channel :=
  let channel := { channel with requests := channel.requests.push request }
  match channel.turns with
  | [] => (channel.afterwards, channel)
  | turn :: rest =>
      (turn.reply, { channel with
        turns := if turn.stays then turn :: rest else rest
        cancelled := channel.cancelled || turn.cancels })

/-- The least seconds that a clock counts, which it does in nanoseconds. -/
def leastTime : Number.Binary64 := .ofQuotient true 9223372036854775808 1000000000

def pauseFault? (seconds : Number.Binary64) : Option Failure :=
  if seconds.less leastTime then some .pauseOutOfRange
  else if seconds.lessThanWhole 0 then some .negativePause
  else none

def pause (channel : Channel) (seconds : Number.Binary64) : Except Failure Unit × Channel :=
  match pauseFault? seconds with
  | some failure => (.error failure, channel)
  | none => (.ok (), { channel with pauses := channel.pauses.push seconds })

def note (channel : Channel) (sink : Log.Sink) (level : Int) (message : String) : Channel :=
  { channel with journal := channel.journal.note sink level message }

def write (channel : Channel) (sink : Log.Sink) (level : Int) (message : String)
    (fields : List (String × Json)) : Channel :=
  { channel with journal := channel.journal.write sink level message fields }

end Channel

end ProjectScan
