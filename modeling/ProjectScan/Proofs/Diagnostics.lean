import ProjectScan.Proofs.Observation
import ProjectScan.Proofs.Remarks

/-!
The diagnostics of a scan. Its journal grows by its own remarks, by what its observer notes when it
is told of a project, and by what is noted of credentials. The scan's own remarks all bear its
identity, whatever tags the sink of the observer has.
-/

namespace ProjectScan

variable {σ : Type}

namespace Observer

variable (observer : Observer σ)

def answered (state : σ) (call : Call) : Observation σ :=
  observer.observe state call.name call.candidate call.isOpen

def replayed (state : σ) (calls : List Call) : σ :=
  calls.foldl (fun state call => (observer.answered state call).state) state

def heard (state : σ) : List Call → List Log.Record
  | [] => []
  | call :: rest =>
      (observer.answered state call).records ++ heard (observer.answered state call).state rest

theorem replayed_concat (state : σ) (calls : List Call) (call : Call) :
    observer.replayed state (calls ++ [call]) =
      (observer.answered (observer.replayed state calls) call).state :=
  List.foldl_concat _ _ _ _

theorem heard_concat (state : σ) (calls : List Call) (call : Call) :
    observer.heard state (calls ++ [call]) =
      observer.heard state calls ++
        (observer.answered (observer.replayed state calls) call).records := by
  induction calls generalizing state with
  | nil => exact List.append_nil _
  | cons first rest ih =>
      rw [List.cons_append, heard, ih, heard, List.append_assoc]
      rfl

end Observer

namespace Navigator

section Recorded

variable (navigator : Navigator) (observer : Observer σ) (sink : Log.Sink) (watched : Bool)
  (state : σ) (pager : Pager) (channel : Channel)

/-- A visit calls the observer once and adds what the observer notes, unless the session is closed. -/
theorem visit_grows (blueprint : Blueprint) (now : Visit (σ × List Call)) (project : Project) :
    let visited := visit blueprint observer.recorded sink watched now project channel
    (visited.2.1.state = now.state ∧ visited.2.2 = channel) ∨
      ∃ call, let answered := observer.answered now.state.1 call
        visited.2.1.state = (answered.state, now.state.2 ++ [call]) ∧
          Log.Journal.Grows sink channel.journal answered.records visited.2.2.journal := by
  obtain ⟨⟨isOpen, seen, early⟩, before, calls⟩ := now
  cases isOpen with
  | false => exact .inl ⟨rfl, rfl⟩
  | true =>
      right
      refine ⟨⟨project.name, blueprint.candidate project.name, true⟩, ?_⟩
      unfold visit Session.process Observer.answered
      dsimp only [Observer.recorded]
      rw [if_neg (by decide)]
      generalize observer.observe before project.name _ true = observation
      obtain ⟨verdict, after, records, cancels⟩ := observation
      have heard := Log.Journal.Grows.observed sink channel.journal records
      cases verdict with
      | error failure => exact ⟨rfl, heard⟩
      | ok stop =>
          cases stop with
          | true => exact ⟨rfl, heard.event (.stopped project.name)⟩
          | false =>
              dsimp only
              split
              · exact ⟨rfl, heard.event (.cancelled _)⟩
              · exact ⟨rfl, heard⟩

/-- The journal has grown by remarks and by what the observer noted in the calls up to now, which the
recorded state holds. -/
structure Accounts (before : Log.Journal) (now : Visit (σ × List Call)) (pager : Pager)
    (channel : Channel) : Prop where
  ownSink : pager.client.sink = sink
  replays : now.state.1 = observer.replayed state now.state.2
  grows : Log.Journal.Grows sink before (observer.heard state now.state.2) channel.journal

theorem accounts_maintained (blueprint : Blueprint) (before : Log.Journal) :
    Pager.Maintains (visit blueprint observer.recorded sink watched)
      (Accounts observer sink state before) where
  turn := by
    intro now pager channel accounts taken
    have turned := pager.turnPage_grows channel taken
    rw [accounts.ownSink] at turned
    exact ⟨(pager.turnPage_recounts taken channel).sink.trans accounts.ownSink, accounts.replays,
      accounts.grows.quiet turned⟩
  visit := by
    intro now pager channel accounts project
    rcases visit_grows observer sink watched channel blueprint now project with
      ⟨sameState, sameChannel⟩ | ⟨call, answered, grows⟩
    · refine ⟨accounts.ownSink, ?_, ?_⟩
      · rw [sameState]
        exact accounts.replays
      · rw [sameState, sameChannel]
        exact accounts.grows
    · -- The observer answers in the state to which its calls so far have brought it.
      refine ⟨accounts.ownSink, ?_, ?_⟩
      · rw [answered, observer.replayed_concat, ← accounts.replays]
      · rw [answered, observer.heard_concat, ← accounts.replays]
        exact accounts.grows.trans grows

theorem reported_grows (baseUrl : String) (seen : Nat) (failure : Failure) {before : Log.Journal}
    {heard : List Log.Record} (grows : Log.Journal.Grows sink before heard channel.journal) :
    Log.Journal.Grows sink before heard
      (reported baseUrl seen sink failure channel).2.journal := by
  unfold reported
  split
  · exact grows
  · split
    · exact grows
    · exact grows.event (.broken failure seen)

theorem runSession_grows (own : pager.client.sink = sink) :
    let scan := navigator.runSession observer.recorded sink watched pager (state, []) channel
    Log.Journal.Grows sink channel.journal (observer.heard state scan.state.2)
      scan.channel.journal := by
  let opened : Channel :=
    { channel with journal := (Session.fresh.enter sink channel.journal).2 }
  let session := (Session.fresh.enter sink channel.journal).1
  have begins : Accounts observer sink state channel.journal ⟨session, (state, [])⟩ pager.restarted
      opened := ⟨own, rfl, (Log.Journal.Grows.refl _ _).event .opened⟩
  have ends := (accounts_maintained observer sink watched state
    (navigator.blueprint pager.client.endpoint pager.client.authenticated)
    channel.journal).walk_fresh begins
  unfold runSession
  dsimp only
  generalize Pager.walk (visit _ observer.recorded sink watched) pager .fresh _ _ = walk at ends ⊢
  obtain ⟨ended, ⟨last, after⟩, turned, later⟩ := walk
  obtain ⟨_, _, grown⟩ := ends
  cases ended with
  | failed failure =>
      exact (reported_grows sink later turned.client.baseUrl last.projectsSeen failure grown).event
        (.closed _ _)
  | exhausted => exact (grown.event (.closed _ none)).event (.finished _ _)
  | stopped => exact (grown.event (.closed _ none)).event (.finished _ _)

theorem lookupCredential_grows (journal : Log.Journal) :
    Log.Journal.Grows sink journal [] (navigator.lookupCredential journal).2 := by
  unfold lookupCredential Store.lookup
  split
  · exact .refl _ _
  · split
    · exact .refl _ _
    · split
      · exact .refl _ _
      · exact .refl _ _
      · exact .stored _ _ _ _

theorem noteCredential_grows (credential : Option Credential) {before journal noted : Log.Journal}
    (grows : Log.Journal.Grows sink before [] journal)
    (notes : navigator.noteCredential credential sink journal = .ok noted) :
    Log.Journal.Grows sink before [] noted := by
  unfold noteCredential at notes
  split at notes
  · rename_i credential
    cases shown : credential.lastFour with
    | error failure =>
        rw [shown] at notes
        cases notes
    | ok lastFour =>
        rw [shown] at notes
        cases notes
        exact grows.event (.credential _ _)
  · split at notes
    · cases notes
      exact grows
    · cases notes
      exact grows.event (.noCredential _)

theorem scanEndpoint_grows (endpoint : Endpoint) (credential : Option Credential) :
    let scan := navigator.scanEndpoint observer.recorded sink watched endpoint credential (state, [])
      channel
    Log.Journal.Grows sink channel.journal (observer.heard state scan.state.2)
      scan.channel.journal := by
  obtain ⟨created, own⟩ := Client.create_grows endpoint credential navigator.insecure
    navigator.timeout navigator.maxRetries sink channel.journal
  unfold scanEndpoint
  generalize Client.create _ _ _ _ _ sink channel.journal = made at created own ⊢
  obtain ⟨result, journal⟩ := made
  cases result with
  | error failure => exact created
  | ok client =>
      dsimp only
      cases checked : Pager.create client navigator.pageSize navigator.maxPages (some "CODE") with
      | error failure => exact created
      | ok pager =>
          have sameSink : pager.client.sink = sink := by
            unfold Pager.create at checked
            split at checked
            · cases checked
            · split at checked
              · cases checked
              · cases checked
                exact own client rfl
          have begun := created.event (.begun client.baseUrl)
          exact begun.trans (navigator.runSession_grows observer sink watched state pager _ sameSink)

theorem discover_grows :
    let sink := (observer.sink.getD ownSink).forScan navigator.id
    Log.Journal.Grows sink channel.journal
      (observer.heard state (navigator.calls observer watched state channel))
      (navigator.discover observer watched state channel).channel.journal := by
  have sameSink : observer.recorded.sink.getD ownSink = observer.sink.getD ownSink := rfl
  rw [discover_unrecorded navigator observer watched state channel []]
  unfold calls discover
  rw [sameSink]
  generalize (observer.sink.getD ownSink).forScan navigator.id = sink
  cases Endpoint.resolve navigator.serverUrl with
  | error fault => exact (Log.Journal.Grows.refl _ _).event (.unresolved fault)
  | ok endpoint =>
      have looked := navigator.lookupCredential_grows sink channel.journal
      dsimp only
      generalize navigator.lookupCredential channel.journal = found at looked ⊢
      obtain ⟨credential, journal⟩ := found
      cases credential with
      | error failure => exact looked
      | ok credential =>
          dsimp only
          cases notes : navigator.noteCredential credential sink journal with
          | error failure => exact looked
          | ok noted =>
              have begun := navigator.noteCredential_grows sink credential looked notes
              exact begun.trans (navigator.scanEndpoint_grows observer sink watched state
                { channel with journal := noted } endpoint credential)

end Recorded

/-- The journal of a scan grows by its own events, by what its observer notes when it is called, and by
what is noted of credentials. Whatever tags the observer's sink carries, every event of the scan bears
the scan's identity and keeps the fields that are given with it, and so does whatever else is given
to the scan's sink, unless it comes with an identity of its own. -/
theorem discover_identified (navigator : Navigator) (observer : Observer σ) (watched : Bool)
    (state : σ) (channel : Channel) :
    let base := observer.sink.getD ownSink
    let sink := base.forScan navigator.id
    let scan := navigator.discover observer watched state channel
    (∃ remarks : List Remark,
      scan.channel.journal = channel.journal.extended sink remarks ∧
      remarks.filterMap Remark.observed? =
        observer.heard state (navigator.calls observer watched state channel)) ∧
      (∀ event : Event,
        Json.field? (event.record sink).fields Log.Sink.identityField = some (.text navigator.id) ∧
        ∀ name value, Json.field? event.fields name = some value →
          Json.field? (event.record sink).fields name = some value) ∧
      ∀ level message arguments fields, (fields.map (·.1)).Nodup →
        let record := sink.record level message arguments fields
        record.logger = base.logger ∧
        (Log.Sink.identityField ∉ fields.map (·.1) →
          Json.field? record.fields Log.Sink.identityField = some (.text navigator.id)) ∧
        ∀ name value, Json.field? fields name = some value →
          Json.field? record.fields name = some value := by
  dsimp only
  refine ⟨navigator.discover_grows observer watched state channel, fun event => ?_, ?_⟩
  · exact ⟨Log.Sink.record_identified _ _ _ _ _ event.fields_distinct event.fields_unmarked,
      fun name value => Log.Sink.record_keeps _ _ _ _ event.fields_distinct⟩
  · intro level message arguments fields distinct
    exact ⟨rfl, Log.Sink.record_identified _ _ _ _ _ distinct,
      fun name value => Log.Sink.record_keeps _ _ _ _ distinct⟩

end Navigator

end ProjectScan
