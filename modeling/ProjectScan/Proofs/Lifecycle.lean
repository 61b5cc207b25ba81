import ProjectScan.Proofs.Hiccups
import ProjectScan.Proofs.Traversal

/-!
The life of a client, whatever is done with it. Its connection is closed once, when the client is
closed or a block of its use is left for the first time; from then on requests are refused. Every
call that a client counts is a request on its channel. What becomes of a call is counted too, unless
a failure that is not the client's own ends the request first.
-/

namespace ProjectScan

def Tally.settled (tally : Tally) : Nat := tally.successful + tally.retried + tally.failed

namespace Client

section Counted

variable (client : Client)

@[simp] theorem settled_counted : client.counted.tally.settled = client.tally.settled := rfl

@[simp] theorem settled_countedRetry :
    client.countedRetry.tally.settled = client.tally.settled + 1 := by
  simp only [Tally.settled, countedRetry]
  omega

@[simp] theorem settled_countedFailure :
    client.countedFailure.tally.settled = client.tally.settled + 1 := rfl

@[simp] theorem settled_countedEnd (status : Int) :
    (client.countedEnd status).tally.settled = client.tally.settled + 1 := by
  unfold countedEnd
  split
  · simp only [Tally.settled]
    omega
  · exact client.settled_countedFailure

end Counted

/-- An answer, or a failure that clients report of themselves. -/
def isSettled : Except Failure Answer → Bool
  | .ok _ | .error .clientClosed | .error (.exhausted _ _ _) => true
  | .error _ => false

/-- Between two states of a client and its channel every call counted is a request, and what became
of it is counted at most once for each call, and exactly once if `all` holds. -/
structure Counts (before : Client) (earlier : Channel) (after : Client) (later : Channel)
    (all : Prop) : Prop where
  requests : later.requests.size + before.tally.total = earlier.requests.size + after.tally.total
  atMost : after.tally.settled + before.tally.total ≤ before.tally.settled + after.tally.total
  exactly : all →
    after.tally.settled + before.tally.total = before.tally.settled + after.tally.total

namespace Counts

variable {first second third : Client} {start between last : Channel} {all others : Prop}

theorem refl (client : Client) (channel : Channel) : Counts client channel client channel all :=
  ⟨rfl, Nat.le_refl _, fun _ => rfl⟩

theorem trans (left : Counts first start second between all)
    (right : Counts second between third last others) :
    Counts first start third last (all ∧ others) where
  requests := by
    have := left.requests
    have := right.requests
    omega
  atMost := by
    have := left.atMost
    have := right.atMost
    omega
  exactly both := by
    have := left.exactly both.1
    have := right.exactly both.2
    omega

theorem imp (counts : Counts first start second between all) (less : others → all) :
    Counts first start second between others :=
  ⟨counts.requests, counts.atMost, fun given => counts.exactly (less given)⟩

theorem of_sent {request : Request} (sent : between.requests = start.requests.push request)
    (total : second.tally.total = first.tally.total + 1)
    (atMost : second.tally.settled ≤ first.tally.settled + 1)
    (exactly : all → second.tally.settled = first.tally.settled + 1) :
    Counts first start second between all where
  requests := by
    rw [sent, Array.size_push, total]
    omega
  atMost := by omega
  exactly given := by
    have := exactly given
    omega

end Counts

variable (client : Client) (request : Request) (attempt : Nat) (channel : Channel)

theorem lastAttempt_counts :
    let tried := client.lastAttempt request attempt channel
    Counts client channel tried.2.1 tried.2.2 (channel.IsForeign ∧ isSettled tried.1 = true) := by
  have sent := client.counted.sendOnce_requests request attempt channel
  have foreign (given : channel.IsForeign) :=
    (client.counted.sendOnce_isForeign request attempt given).1
  unfold lastAttempt
  dsimp only
  generalize client.counted.sendOnce request attempt channel = exchange at sent foreign ⊢
  obtain ⟨reply, later⟩ := exchange
  change later.requests = _ at sent
  cases reply with
  | response response => apply Counts.of_sent sent <;> simp [answered]
  | failure failure =>
      cases failure with
      | transport kind message =>
          have noted (text : String) : (later.note client.sink Log.Level.error text).requests =
              channel.requests.push request := sent
          apply Counts.of_sent (noted _) <;> simp
      | outside kind message | json fault => apply Counts.of_sent sent <;> simp [isSettled]
      | _ =>
          apply Counts.of_sent sent
          · rfl
          · simp
          · exact fun given => (foreign given.1).elim

private theorem pausing_counts {all : Prop} {later : Channel}
    (sent : later.requests = channel.requests.push request) (reason : String)
    (seconds : Number.Binary64) :
    let retried := client.counted.countedRetry
    let tried : Option (Except Failure Answer) × Client × Channel :=
      match client.counted.pauseFor reason attempt seconds later with
      | (.error failure, channel) => (some (.error failure), retried, channel)
      | (.ok _, channel) => (none, retried, channel)
    Counts client channel tried.2.1 tried.2.2 all := by
  have waits := (client.counted.pauseFor_requests attempt later reason seconds).trans sent
  generalize client.counted.pauseFor reason attempt seconds later = paused at waits ⊢
  obtain ⟨verdict, last⟩ := paused
  cases verdict <;> apply Counts.of_sent waits <;> simp

theorem earlierAttempt_counts :
    let tried := client.earlierAttempt request attempt channel
    Counts client channel tried.2.1 tried.2.2
      (channel.IsForeign ∧ ∀ answer, tried.1 = some answer → isSettled answer = true) := by
  have sent := client.counted.sendOnce_requests request attempt channel
  have foreign (given : channel.IsForeign) :=
    (client.counted.sendOnce_isForeign request attempt given).1
  unfold earlierAttempt
  dsimp only
  generalize client.counted.sendOnce request attempt channel = exchange at sent foreign ⊢
  obtain ⟨reply, later⟩ := exchange
  change later.requests = _ at sent
  cases reply with
  | response response =>
      dsimp only
      split
      · cases asked : pauseAfter attempt (wantedPause response.headers) with
        | error failure =>
            -- The call was counted, but neither as repeated nor as ended.
            have endless : failure = .endlessPause := by
              unfold pauseAfter at asked
              dsimp only at asked
              split at asked <;> cases asked
              rfl
            apply Counts.of_sent sent <;> simp [endless, isSettled]
        | ok seconds => exact client.pausing_counts request attempt channel sent _ seconds
      · apply Counts.of_sent sent <;> simp [answered]
  | failure failure =>
      cases failure with
      | transport kind message =>
          dsimp only
          cases pauseAfter attempt none with
          | error failure => apply Counts.of_sent sent <;> simp
          | ok seconds => exact client.pausing_counts request attempt channel sent _ seconds
      | outside kind message | json fault => apply Counts.of_sent sent <;> simp [isSettled]
      | _ =>
          apply Counts.of_sent sent
          · rfl
          · simp
          · exact fun given => (foreign given.1).elim

theorem attempts_counts (left : Nat) :
    let tried := client.attempts request attempt channel left
    Counts client channel tried.2.1 tried.2.2 (channel.IsForeign ∧ isSettled tried.1 = true) := by
  induction left generalizing client attempt channel with
  | zero => exact client.lastAttempt_counts request attempt channel
  | succ left ih =>
      have once := client.earlierAttempt_counts request attempt channel
      have foreign (given : channel.IsForeign) :=
        (client.earlierAttempt_isPlain request attempt given).2
      unfold attempts
      generalize client.earlierAttempt request attempt channel = trial at once foreign ⊢
      obtain ⟨ended, after, later⟩ := trial
      cases ended with
      | some answer =>
          apply once.imp
          rintro ⟨given, settled⟩
          refine ⟨given, ?_⟩
          intro other same
          cases same
          exact settled
      | none =>
          apply (once.trans (ih after (attempt + 1) later)).imp
          rintro ⟨given, settled⟩
          refine ⟨⟨given, ?_⟩, foreign given, settled⟩
          intro answer same
          cases same

theorem get_counts (path : String) (params : List (String × Json)) :
    let tried := client.get path params channel
    Counts client channel tried.2.1 tried.2.2 (channel.IsForeign ∧ isSettled tried.1 = true) := by
  unfold get
  split
  · exact .refl client channel
  · exact client.attempts_counts _ 0 channel _

theorem get_of_closed (closed : client.closed = true) (path : String)
    (params : List (String × Json)) :
    client.get path params channel = (.error .clientClosed, client, channel) := if_pos closed

theorem get_sends (isOpen : client.closed = false) (path : String)
    (params : List (String × Json)) :
    channel.requests.size < (client.get path params channel).2.2.requests.size := by
  obtain ⟨count, positive, sent⟩ := client.get_requests channel path params
  have more := positive isOpen
  have sizes := congrArg List.length sent
  simp only [Array.length_toList, List.length_append, List.length_replicate] at sizes
  omega

theorem create_begins {maxRetries : Int} (retries : 1 ≤ maxRetries) (endpoint : Endpoint)
    (credential : Option Credential) (insecure : Bool) (timeout : Int) (sink : Log.Sink)
    (journal : Log.Journal) :
    ∃ client, (create endpoint credential insecure timeout maxRetries sink journal).1 = .ok client ∧
      client.closed = false ∧ client.connection.closings = 0 ∧ client.tally = ⟨0, 0, 0, 0⟩ := by
  unfold create
  rw [if_neg (Int.not_lt.mpr retries)]
  exact ⟨_, rfl, rfl, rfl, rfl⟩

/-- What is done with a client: a request, its closing, and the begin and the end of a block of its
use. -/
inductive Call where
  | get (path : String) (params : List (String × Json))
  | close
  | enter
  | leave

def Call.closes : Call → Bool
  | .close | .leave => true
  | .get _ _ | .enter => false

end Client

structure Usage where
  client : Client
  channel : Channel

namespace Usage

open Client

def perform (usage : Usage) : Call → Usage
  | .get path params =>
      let (_, client, channel) := usage.client.get path params usage.channel
      ⟨client, channel⟩
  | .enter => usage
  | .close | .leave => { usage with client := usage.client.close }

def run (usage : Usage) (calls : List Call) : Usage := calls.foldl perform usage

/-- A request that is made while the client is open is answered, or fails in a way that the client
reports of itself. -/
def settles (usage : Usage) : Call → Bool
  | .get path params =>
      usage.client.closed || isSettled (usage.client.get path params usage.channel).1
  | _ => true

def settlesAll (usage : Usage) : List Call → Bool
  | [] => true
  | call :: rest => usage.settles call && (usage.perform call).settlesAll rest

/-- The connection was closed once if the client is closed, else never. -/
def ClosedOnce (usage : Usage) : Prop :=
  usage.client.connection.closings = usage.client.closed.toNat

variable (usage : Usage) (call : Call) (calls : List Call)

theorem perform_closed :
    (usage.perform call).client.closed = (usage.client.closed || call.closes) := by
  cases call with
  | get path params =>
      rw [Call.closes, Bool.or_false]
      exact (usage.client.get_recounts usage.channel path params).closed
  | enter => exact (Bool.or_false _).symm
  | close | leave =>
      rw [Call.closes, Bool.or_true]
      exact usage.client.closed_close

theorem perform_closedOnce (once : usage.ClosedOnce) : (usage.perform call).ClosedOnce := by
  unfold ClosedOnce at *
  cases call with
  | get path params =>
      have same := usage.client.get_recounts usage.channel path params
      have kept : (usage.client.get path params usage.channel).2.1.connection =
          usage.client.connection := by rw [same]
      change (usage.client.get path params usage.channel).2.1.connection.closings =
        (usage.client.get path params usage.channel).2.1.closed.toNat
      rw [kept, same.closed]
      exact once
  | enter => exact once
  | close | leave =>
      change usage.client.close.connection.closings = usage.client.close.closed.toNat
      rw [closings_close, once, closed_close]
      cases usage.client.closed <;> rfl

theorem perform_foreign (foreign : usage.channel.IsForeign) :
    (usage.perform call).channel.IsForeign := by
  cases call with
  | get path params => exact (usage.client.get_isPlain foreign path params).2
  | _ => exact foreign

theorem perform_counts :
    Counts usage.client usage.channel (usage.perform call).client (usage.perform call).channel
      (usage.channel.IsForeign ∧ usage.settles call = true) := by
  cases call with
  | get path params =>
      apply (usage.client.get_counts usage.channel path params).imp
      rintro ⟨foreign, settled⟩
      refine ⟨foreign, ?_⟩
      rcases Bool.or_eq_true_iff.mp settled with closed | settled
      · rw [usage.client.get_of_closed usage.channel closed]
        rfl
      · exact settled
  | enter => exact .refl _ _
  | close | leave => refine ⟨?_, ?_, fun _ => ?_⟩ <;> simp [perform]

theorem run_closed :
    (usage.run calls).client.closed = (usage.client.closed || calls.any Call.closes) := by
  induction calls generalizing usage with
  | nil => exact (Bool.or_false _).symm
  | cons call rest ih =>
      change ((usage.perform call).run rest).client.closed = _
      rw [ih, perform_closed, List.any_cons, Bool.or_assoc]

theorem run_closedOnce (once : usage.ClosedOnce) : (usage.run calls).ClosedOnce := by
  induction calls generalizing usage with
  | nil => exact once
  | cons call rest ih => exact ih (usage.perform call) (usage.perform_closedOnce call once)

theorem run_counts :
    Counts usage.client usage.channel (usage.run calls).client (usage.run calls).channel
      (usage.channel.IsForeign ∧ usage.settlesAll calls = true) := by
  induction calls generalizing usage with
  | nil => exact .refl _ _
  | cons call rest ih =>
      apply ((usage.perform_counts call).trans (ih (usage.perform call))).imp
      rintro ⟨foreign, settled⟩
      obtain ⟨first, others⟩ := Bool.and_eq_true_iff.mp settled
      exact ⟨⟨foreign, first⟩, usage.perform_foreign call foreign, others⟩

/-- The connection of a client is closed once, when the client is closed or a block of its use is
left for the first time. Until then a request is sent; after that it is refused and changes nothing.
The calls counted are the requests sent, and what became of a call is counted at most once, and
always if every request is answered or fails in a way that the client reports of itself. -/
theorem run_lifecycle {maxRetries : Int} (retries : 1 ≤ maxRetries) (endpoint : Endpoint)
    (credential : Option Credential) (insecure : Bool) (timeout : Int) (sink : Log.Sink)
    (journal : Log.Journal) :
    ∃ client,
      (Client.create endpoint credential insecure timeout maxRetries sink journal).1 = .ok client ∧
      ∀ (channel : Channel) (calls : List Call),
        let now := (Usage.mk client channel).run calls
        let closed := calls.any Call.closes
        now.client.connection.closings = closed.toNat ∧
        (closed = false → ∀ path params,
          now.channel.requests.size <
            (now.client.get path params now.channel).2.2.requests.size) ∧
        (closed = true → ∀ path params, now.client.get path params now.channel =
          (.error .clientClosed, now.client, now.channel)) ∧
        now.channel.requests.size = channel.requests.size + now.client.tally.total ∧
        now.client.tally.settled ≤ now.client.tally.total ∧
        (channel.IsForeign → (Usage.mk client channel).settlesAll calls = true →
          now.client.tally.settled = now.client.tally.total) := by
  obtain ⟨client, made, isOpen, unclosed, fresh⟩ :=
    create_begins retries endpoint credential insecure timeout sink journal
  refine ⟨client, made, ?_⟩
  intro channel calls
  have ended := (Usage.mk client channel).run_closed calls
  have counts := (Usage.mk client channel).run_counts calls
  have once : (Usage.mk client channel).ClosedOnce := by
    change client.connection.closings = client.closed.toNat
    rw [unclosed, isOpen]
    rfl
  have closings := (Usage.mk client channel).run_closedOnce calls once
  rw [isOpen, Bool.false_or] at ended
  unfold ClosedOnce at closings
  rw [ended] at closings
  obtain ⟨requests, atMost, exactly⟩ := counts
  rw [fresh] at requests atMost exactly
  refine ⟨closings, ?_, ?_, requests, ?_, ?_⟩
  · exact fun goesOn path params => get_sends _ _ (ended.trans goesOn) path params
  · exact fun closed path params => get_of_closed _ _ (ended.trans closed) path params
  · simpa [Tally.settled] using atMost
  · intro foreign settled
    simpa [Tally.settled] using exactly ⟨foreign, settled⟩

-- A failure that is not the client's own leaves its call without an outcome.
example :
    let broken : Reply := .failure (.outside .run "broken")
    let tally := (run ⟨Pager.plain.client, .fresh [] broken (.empty 0)⟩ [.get "/" []]).client.tally
    tally.total = 1 ∧ tally.settled = 0 := by
  decide

theorem run_lifecycle_twoPages :
    let calls : List Call := [.enter, .get "/projects/" [], .leave, .get "/projects/" []]
    let start : Usage := ⟨Pager.plain.client, .twoPages⟩
    let now := start.run calls
    start.settlesAll calls = true ∧ now.client.connection.closings = 1 ∧
      now.channel.requests.size = now.client.tally.total ∧
      now.client.tally.settled = now.client.tally.total := by
  intro calls start now
  have settled : start.settlesAll calls = true := by decide +kernel
  have three : (1 : Int) ≤ 3 := by decide
  obtain ⟨client, made, lives⟩ := run_lifecycle three Pager.plain.client.endpoint none false 30
    Client.ownSink (.empty 0)
  cases made
  obtain ⟨closings, _, _, requests, _, exactly⟩ := lives .twoPages calls
  refine ⟨settled, closings, ?_, exactly Channel.twoPages_isForeign settled⟩
  exact requests.trans (Nat.zero_add _)

end Usage

end ProjectScan
