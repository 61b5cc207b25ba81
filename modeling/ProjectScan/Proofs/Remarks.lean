import ProjectScan.Proofs.Exchange
import ProjectScan.Session
import ProjectScan.Store

/-!
What is noted in the course of a scan. Every remark of a client or a pager goes to the client's sink,
which keeps the fields that are given with it and adds its tags.
-/

namespace ProjectScan

namespace Json

theorem field?_eq_none_of_not_mem {fields : List (String × Json)} {key : String}
    (absent : key ∉ fields.map (·.1)) : field? fields key = none := by
  rw [← Option.not_isSome_iff_eq_none, isSome_field?_iff]
  exact absent

theorem field?_setFields {more : List (String × Json)} (distinct : (more.map (·.1)).Nodup)
    (fields : List (String × Json)) (name : String) :
    field? (setFields fields more) name = (field? more name).or (field? fields name) := by
  induction more generalizing fields with
  | nil => rfl
  | cons head rest ih =>
      obtain ⟨key, value⟩ := head
      obtain ⟨absent, distinct⟩ := List.nodup_cons.mp distinct
      refine (ih distinct (setField fields key value)).trans ?_
      by_cases here : key = name
      · subst here
        rw [field?_eq_none_of_not_mem absent, field?_setField_self, field?, if_pos rfl]
        rfl
      · rw [field?_setField_of_ne (Ne.symm here), field?, if_neg here]

end Json

namespace Log.Sink

variable (sink : Sink) (identity : String) {fields : List (String × Json)} (level : Int)
  (message : String) (arguments : List Json)

theorem identity_of_forScan :
    Json.field? (sink.forScan identity).tags identityField = some (.text identity) :=
  Json.field?_setField_self _ _ _

variable (distinct : (fields.map (·.1)).Nodup)
include distinct

theorem record_keeps {name : String} {value : Json} (given : Json.field? fields name = some value) :
    Json.field? (sink.record level message arguments fields).fields name = some value := by
  rw [record, Json.field?_setFields distinct, given]
  rfl

theorem record_identified (unmarked : identityField ∉ fields.map (·.1)) :
    Json.field? ((sink.forScan identity).record level message arguments fields).fields
      identityField = some (.text identity) := by
  rw [record, Json.field?_setFields distinct, Json.field?_eq_none_of_not_mem unmarked,
    identity_of_forScan]
  rfl

end Log.Sink

/-! ### Remarks -/

/-- What a scan notes of itself, one kind for each place in which it notes something. -/
inductive Event where
  | unresolved (fault : Address.SiteFault)
  | credential (username lastFour : Json)
  | noCredential (id : String)
  | unverified (baseUrl : String)
  | begun (baseUrl : String)
  | opened
  | request (request : Request) (attempt : Nat)
  | call (url : String) (status : Int) (duration : Number.Binary64)
  | retry (client : Client) (reason : String) (attempt : Nat) (seconds : Number.Binary64)
  | exhausted (attempts : Nat) (message : String)
  | page (number : Nat) (page : Page)
  | stopped (project : String)
  | cancelled (projectsSeen : Nat)
  | broken (failure : Failure) (projectsSeen : Nat)
  | closed (projectsSeen : Nat) (failure : Option String)
  | finished (projectsSeen pagesFetched : Nat)

def Event.level : Event → Int
  | .credential _ _ | .opened | .request _ _ | .page _ _ | .closed _ _ => Log.Level.debug
  | .begun _ | .stopped _ | .finished _ _ => Log.Level.info
  | .noCredential _ | .unverified _ | .retry _ _ _ _ | .cancelled _ => Log.Level.warning
  | .unresolved _ | .exhausted _ _ | .broken _ _ => Log.Level.error
  | .call _ status _ => callLevel status

def Event.message : Event → String
  | .unresolved fault => "Cannot resolve Gerrit server URL: " ++ fault.reason
  | .credential username lastFour =>
      "Authenticating as " ++ username.shown ++ " (password ending " ++ lastFour.shown ++ ")"
  | .noCredential id => "Credential " ++ Text.quoted id ++ " not found, scanning anonymously"
  | .unverified baseUrl => "TLS certificate verification disabled for " ++ baseUrl
  | .begun baseUrl => "Discovering projects at " ++ baseUrl
  | .opened => "Discovery session opened"
  | .request sent attempt =>
      "GET " ++ sent.url ++ " params=" ++ (Json.object sent.params).displayed ++
        " (attempt " ++ Number.naturalText (attempt + 1) ++ ")"
  | .call url status duration => callMessage "GET" url status duration
  | .retry client reason attempt seconds => reason ++ client.retryText attempt seconds
  | .exhausted attempts message =>
      "Request failed after " ++ Number.naturalText attempts ++ " attempts: " ++ message
  | .page number fetched =>
      "Fetched project page " ++ Number.naturalText number ++ ": " ++
        Number.naturalText fetched.projects.length ++ " projects, more=" ++
        Pager.truthText fetched.more
  | .stopped project => "Observer stopped discovery after " ++ project
  | .cancelled projectsSeen => (Failure.cancelled projectsSeen).message
  | .broken failure projectsSeen =>
      failure.message ++ " after " ++ Number.naturalText projectsSeen ++ " projects"
  | .closed projectsSeen failure =>
      "Discovery session closed after " ++ Number.naturalText projectsSeen ++ " projects" ++
        Session.failureText failure
  | .finished projectsSeen pagesFetched =>
      "Discovery finished: " ++ Number.naturalText projectsSeen ++ " projects in " ++
        Number.naturalText pagesFetched ++ " pages"

def Event.fields : Event → List (String × Json)
  | .call url status duration =>
      [("api_endpoint", .text url), ("status_code", .whole status), ("duration_ms", .float duration)]
  | .page number _ => [("page", .whole number)]
  | .stopped project => [("project", .text project)]
  | _ => []

namespace Event

def record (event : Event) (sink : Log.Sink) : Log.Record :=
  sink.record event.level event.message [] event.fields

theorem fields_distinct (event : Event) : (event.fields.map (·.1)).Nodup := by
  cases event <;> simp [fields]

theorem fields_unmarked (event : Event) : Log.Sink.identityField ∉ event.fields.map (·.1) := by
  cases event <;> simp [fields, Log.Sink.identityField]

end Event

/-- What is noted during a scan: an event of the scan itself, a record of its observer, or what is
noted of credentials. -/
inductive Remark where
  | own (event : Event)
  | observed (record : Log.Record)
  | stored (level : Int) (message : String)

namespace Remark

def record (sink : Log.Sink) : Remark → Log.Record
  | .own event => event.record sink
  | .observed record => record
  | .stored level message => Store.sink.record level message [] []

def observed? : Remark → Option Log.Record
  | .observed record => some record
  | _ => none

end Remark

namespace Log.Journal

def extended (journal : Journal) (sink : Sink) (remarks : List Remark) : Journal :=
  remarks.foldl (fun journal remark => journal.keep (remark.record sink)) journal

/-- Between the two there were only remarks, and those of the observer are the records `heard`. -/
def Grows (sink : Sink) (before : Journal) (heard : List Record) (after : Journal) : Prop :=
  ∃ remarks : List Remark,
    after = before.extended sink remarks ∧ remarks.filterMap Remark.observed? = heard

theorem threshold_keep (journal : Journal) (record : Record) :
    (journal.keep record).threshold = journal.threshold := by
  unfold keep
  split <;> rfl

theorem threshold_extended (journal : Journal) (sink : Sink) (remarks : List Remark) :
    (journal.extended sink remarks).threshold = journal.threshold := by
  induction remarks generalizing journal with
  | nil => rfl
  | cons remark rest ih => exact (ih _).trans (journal.threshold_keep _)

namespace Grows

variable {sink : Sink} {first second third : Journal} {heard others : List Record}

theorem threshold (grows : Grows sink first heard second) :
    second.threshold = first.threshold := by
  obtain ⟨remarks, rfl, _⟩ := grows
  exact first.threshold_extended sink remarks

theorem refl (sink : Sink) (journal : Journal) : Grows sink journal [] journal := ⟨[], rfl, rfl⟩

theorem trans (start : Grows sink first heard second) (onwards : Grows sink second others third) :
    Grows sink first (heard ++ others) third := by
  obtain ⟨remarks, rfl, rfl⟩ := start
  obtain ⟨more, rfl, rfl⟩ := onwards
  exact ⟨remarks ++ more, List.foldl_append.symm, List.filterMap_append⟩

theorem quiet (start : Grows sink first heard second) (onwards : Grows sink second [] third) :
    Grows sink first heard third := by
  have both := start.trans onwards
  rw [List.append_nil] at both
  exact both

theorem event (grows : Grows sink first heard second) (event : Event) :
    Grows sink first heard (second.write sink event.level event.message event.fields) :=
  grows.quiet ⟨[.own event], rfl, rfl⟩

theorem stored (sink : Sink) (journal : Journal) (level : Int) (message : String) :
    Grows sink journal [] (journal.note Store.sink level message) :=
  ⟨[.stored level message], rfl, rfl⟩

theorem observed (sink : Sink) (journal : Journal) (records : List Record) :
    Grows sink journal records (records.foldl keep journal) := by
  refine ⟨records.map .observed, ?_, ?_⟩
  · unfold extended
    rw [List.foldl_map]
    rfl
  · rw [List.filterMap_map]
    exact List.filterMap_some

end Grows

end Log.Journal

namespace Channel

theorem send_journal (channel : Channel) (request : Request) :
    (channel.send request).2.journal = channel.journal := by
  unfold send
  dsimp only
  split <;> rfl

theorem pause_journal (channel : Channel) (seconds : Number.Binary64) :
    (channel.pause seconds).2.journal = channel.journal := by
  unfold pause
  split <;> rfl

end Channel

theorem Client.Recounts.sink {before after : Client} (same : before.Recounts after) :
    after.sink = before.sink := by
  rw [same]

namespace Client

variable (client : Client) (request : Request) (attempt : Nat) (channel : Channel)

theorem create_grows (endpoint : Endpoint) (credential : Option Credential) (insecure : Bool)
    (timeout maxRetries : Int) (sink : Log.Sink) (journal : Log.Journal) :
    let created := create endpoint credential insecure timeout maxRetries sink journal
    Log.Journal.Grows sink journal [] created.2 ∧
      ∀ client, created.1 = .ok client → client.sink = sink := by
  unfold create
  split
  · exact ⟨.refl _ _, nofun⟩
  · refine ⟨?_, fun client made => ?_⟩
    · dsimp only
      split
      · exact (Log.Journal.Grows.refl _ _).event (.unverified _)
      · exact .refl _ _
    · cases made
      rfl

theorem sendOnce_grows : Log.Journal.Grows client.sink channel.journal []
    (client.sendOnce request attempt channel).2.journal := by
  unfold sendOnce
  have tried := (Log.Journal.Grows.refl client.sink channel.journal).event (.request request attempt)
  have noted : Log.Journal.Grows client.sink channel.journal []
      ((channel.note client.sink Log.Level.debug (Event.request request attempt).message).send
        request).2.journal := by
    rw [Channel.send_journal]
    exact tried
  unfold Event.message at noted
  dsimp only at noted
  generalize Channel.send _ request = sent at noted ⊢
  obtain ⟨reply, later⟩ := sent
  dsimp only
  cases reply.met with
  | response response => exact noted.event (.call _ _ _)
  | failure failure => exact noted

theorem pauseFor_grows (reason : String) (seconds : Number.Binary64) :
    Log.Journal.Grows client.sink channel.journal []
      (client.pauseFor reason attempt seconds channel).2.journal := by
  unfold pauseFor
  rw [Channel.pause_journal]
  exact (Log.Journal.Grows.refl _ _).event (.retry client reason attempt seconds)

theorem lastAttempt_grows : Log.Journal.Grows client.sink channel.journal []
    (client.lastAttempt request attempt channel).2.2.journal := by
  have sent := client.counted.sendOnce_grows request attempt channel
  unfold lastAttempt
  dsimp only
  generalize client.counted.sendOnce request attempt channel = exchange at sent ⊢
  obtain ⟨reply, after⟩ := exchange
  cases reply with
  | response response => exact sent
  | failure failure =>
      cases failure with
      | transport kind message => exact sent.event (.exhausted client.maxRetries message)
      | _ => exact sent

theorem earlierAttempt_grows : Log.Journal.Grows client.sink channel.journal []
    (client.earlierAttempt request attempt channel).2.2.journal := by
  have sent := client.counted.sendOnce_grows request attempt channel
  unfold earlierAttempt
  dsimp only
  generalize client.counted.sendOnce request attempt channel = exchange at sent ⊢
  obtain ⟨reply, after⟩ := exchange
  have paused (reason : String) (seconds : Number.Binary64) :
      Log.Journal.Grows client.sink channel.journal []
        (client.counted.pauseFor reason attempt seconds after).2.journal :=
    sent.trans (client.counted.pauseFor_grows attempt after reason seconds)
  cases reply with
  | response response =>
      dsimp only
      split
      · cases pauseAfter attempt (wantedPause response.headers) with
        | error failure => exact sent
        | ok seconds =>
            have later := paused ("Request failed with " ++ Number.wholeText response.status) seconds
            dsimp only
            split <;> simp_all
      · exact sent
  | failure failure =>
      cases failure with
      | transport kind message =>
          dsimp only
          cases pauseAfter attempt none with
          | error failure => exact sent
          | ok seconds =>
              have later := paused ("Request error: " ++ message) seconds
              dsimp only
              split <;> simp_all
      | _ => exact sent

theorem attempts_grows (left : Nat) : Log.Journal.Grows client.sink channel.journal []
    (client.attempts request attempt channel left).2.2.journal := by
  induction left generalizing client attempt channel with
  | zero => exact client.lastAttempt_grows request attempt channel
  | succ left ih =>
      have once := client.earlierAttempt_grows request attempt channel
      have same := client.earlierAttempt_recounts request attempt channel
      unfold attempts
      generalize client.earlierAttempt request attempt channel = tried at once same ⊢
      obtain ⟨ended, after, later⟩ := tried
      cases ended with
      | some answer => exact once
      | none =>
          have onwards := ih after (attempt + 1) later
          rw [same.sink] at onwards
          exact once.trans onwards

theorem get_grows (path : String) (params : List (String × Json)) :
    Log.Journal.Grows client.sink channel.journal []
      (client.get path params channel).2.2.journal := by
  unfold get
  split
  · exact .refl _ _
  · exact client.attempts_grows _ 0 channel _

end Client

namespace Pager

variable (pager : Pager) (channel : Channel)

theorem fetchPage_grows (page skip : Int) : Log.Journal.Grows pager.client.sink channel.journal []
    (pager.fetchPage page skip channel).2.2.journal := by
  have got := pager.client.get_grows channel listingPath (pager.pageParams skip)
  unfold fetchPage
  generalize pager.client.get listingPath (pager.pageParams skip) channel = fetched at got ⊢
  obtain ⟨answer, after, later⟩ := fetched
  cases answer <;> exact got

theorem fetchPage_recounts (page skip : Int) :
    pager.client.Recounts (pager.fetchPage page skip channel).2.1 := by
  have got := pager.client.get_recounts channel listingPath (pager.pageParams skip)
  unfold fetchPage
  generalize pager.client.get listingPath (pager.pageParams skip) channel = fetched at got ⊢
  obtain ⟨answer, after, later⟩ := fetched
  cases answer <;> exact got

theorem turnPage_grows (taken : Nat) : Log.Journal.Grows pager.client.sink channel.journal []
    (pager.turnPage taken channel).2.2.journal := by
  have got := pager.fetchPage_grows channel ((pager.pagesFetched + 1 : Nat) : Int) taken
  have same := pager.fetchPage_recounts channel ((pager.pagesFetched + 1 : Nat) : Int) taken
  unfold turnPage
  split
  · exact .refl _ _
  · dsimp only
    generalize pager.fetchPage _ _ channel = fetched at got same ⊢
    obtain ⟨result, after, later⟩ := fetched
    cases result with
    | error failure => exact got
    | ok page =>
        have sink : after.sink = pager.client.sink := same.sink
        dsimp only
        rw [sink]
        exact got.event (.page (pager.pagesFetched + 1) page)

end Pager

end ProjectScan
