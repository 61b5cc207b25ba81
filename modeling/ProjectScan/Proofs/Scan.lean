import ProjectScan.Navigator
import ProjectScan.Proofs.Entries
import ProjectScan.Proofs.Traffic
import ProjectScan.Proofs.Traversal

/-!
What a scan is before its first request, and at its end. It fails without a request, in a way that
does not depend on the channel, or it walks over the listing of one pager inside a session and
concludes as its walk ends. With texts in its store, an address that resolves and numbers that are at
least one, it does the latter.
-/

namespace ProjectScan

def StoredCredential.IsTextual (entry : StoredCredential) : Prop :=
  (∃ id, entry.id = .text id) ∧ (∃ username, entry.credential.username = .text username) ∧
    (∃ password, entry.credential.password = .text password) ∧
    ∀ scope, entry.scope = some scope → ∃ text, scope = .text text

def Store.IsTextual (store : Store) : Prop := ∀ entry ∈ store.entries, entry.IsTextual

theorem Store.findIn?_of_isTextual {entries : List StoredCredential}
    (textual : ∀ entry ∈ entries, entry.IsTextual) (serverUrl id : String) :
    ∃ found, findIn? serverUrl id entries = .ok found ∧
      ∀ credential, found = some credential → ∃ password, credential.password = .text password := by
  have scopes : ∀ entry ∈ entries, entry.HasTextScope :=
    fun entry member => (textual entry member).2.2.2
  rcases findIn?_of_hasTextScope scopes serverUrl id with looks | ⟨entry, member, looks⟩
  · exact ⟨none, looks, nofun⟩
  · refine ⟨some entry.credential, looks, ?_⟩
    intro credential chosen
    cases chosen
    exact (textual entry member).2.2.1

theorem Credential.lastFour_of_text {credential : Credential} {password : String}
    (text : credential.password = .text password) : ∃ shown, credential.lastFour = .ok shown := by
  unfold lastFour
  rw [text]
  dsimp only
  split <;> exact ⟨_, rfl⟩

namespace Navigator

variable {σ : Type} (navigator : Navigator)

def credential? : Except Failure (Option Credential) :=
  match navigator.serverUrl, navigator.credentialsId with
  | some serverUrl, some id => navigator.store.find? serverUrl id
  | _, _ => .ok none

def credential : Option Credential := navigator.credential?.toOption.getD none

def scanSink (observer : Observer σ) : Log.Sink := (observer.sink.getD ownSink).forScan navigator.id

def pagerFor (endpoint : Endpoint) (credential : Option Credential) (sink : Log.Sink) : Pager where
  client :=
    { endpoint, sink
      timeout := navigator.timeout
      maxRetries := navigator.maxRetries.toNat
      connection := ⟨Client.requestHeaders, credential, !navigator.insecure, 0⟩
      tally := ⟨0, 0, 0, 0⟩
      closed := false }
  pageSize := navigator.pageSize
  maxPages := navigator.maxPages.toNat
  projectType := some "CODE"
  pagesFetched := 0

theorem blueprint_pagerFor (endpoint : Endpoint) (credential : Option Credential)
    (sink : Log.Sink) :
    let client := (navigator.pagerFor endpoint credential sink).client
    navigator.blueprint client.endpoint client.authenticated =
      navigator.blueprint endpoint credential.isSome := rfl

theorem lookupCredential_eq (journal : Log.Journal) :
    ∃ noted, navigator.lookupCredential journal = (navigator.credential?, noted) := by
  unfold lookupCredential credential?
  cases navigator.serverUrl with
  | none => exact ⟨journal, rfl⟩
  | some serverUrl =>
      cases navigator.credentialsId with
      | none => exact ⟨journal, rfl⟩
      | some id =>
          dsimp only [Store.lookup]
          cases navigator.store.find? serverUrl id with
          | error failure => exact ⟨journal, rfl⟩
          | ok found => cases found <;> exact ⟨_, rfl⟩

theorem credential?_of_isTextual (textual : navigator.store.IsTextual) :
    ∃ found, navigator.credential? = .ok found ∧
      ∀ credential, found = some credential → ∃ password, credential.password = .text password := by
  unfold credential?
  cases navigator.serverUrl with
  | none => exact ⟨none, rfl, nofun⟩
  | some serverUrl =>
      cases navigator.credentialsId with
      | none => exact ⟨none, rfl, nofun⟩
      | some id => exact Store.findIn?_of_isTextual textual serverUrl id

/-- The pager of a scan with numbers of at least one; or the failure of a scan that never gets to a
request, with the client if one was made. -/
def checked (endpoint : Endpoint) (credential : Option Credential) (sink : Log.Sink) :
    Except (Failure × Option Client) Pager :=
  let pager := navigator.pagerFor endpoint credential sink
  if navigator.maxRetries < 1 then
    .error (.noClient endpoint.apiUri (.tooSmall .maxRetries), none)
  else if navigator.pageSize < 1 then .error (.tooSmall .pageSize, some pager.client)
  else if navigator.maxPages < 1 then .error (.tooSmall .maxPages, some pager.client)
  else .ok pager

/-- The pager of a scan, once its address is resolved and its credential is looked up. -/
def prepared (sink : Log.Sink) : Except (Failure × Option Client) Pager :=
  match Endpoint.resolve navigator.serverUrl with
  | .error fault => .error (.resolution (.address navigator.serverUrl fault), none)
  | .ok endpoint =>
      match navigator.credential? with
      | .error failure => .error (failure, none)
      | .ok credential =>
          match credential.map Credential.lastFour with
          | some (.error failure) => .error (failure, none)
          | _ => navigator.checked endpoint credential sink

def started (observer : Observer σ) (watched : Bool) (state : σ)
    (pager? : Except (Failure × Option Client) Pager) (channel : Channel) : Scan σ :=
  match pager? with
  | .error (failure, client) => ⟨.error failure, state, client, channel⟩
  | .ok pager =>
      navigator.runSession observer (navigator.scanSink observer) watched pager state channel

theorem noteCredential_cases (credential : Option Credential) (sink : Log.Sink)
    (journal : Log.Journal) :
    (∃ failure, credential.map Credential.lastFour = some (.error failure) ∧
      navigator.noteCredential credential sink journal = .error failure) ∨
    ((∀ failure, credential.map Credential.lastFour ≠ some (.error failure)) ∧
      ∃ noted, navigator.noteCredential credential sink journal = .ok noted) := by
  unfold noteCredential
  cases credential with
  | none =>
      right
      refine ⟨nofun, ?_⟩
      cases navigator.credentialsId <;> exact ⟨_, rfl⟩
  | some credential =>
      dsimp only [Option.map_some]
      cases credential.lastFour with
      | error failure => exact .inl ⟨failure, rfl, rfl⟩
      | ok shown => exact .inr ⟨nofun, _, rfl⟩

variable (observer : Observer σ) (watched : Bool) (state : σ) (channel : Channel)

theorem scanEndpoint_eq (endpoint : Endpoint) (credential : Option Credential)
    (journal : Log.Journal) : ∃ noted, ∀ channel : Channel, channel.journal = journal →
    navigator.scanEndpoint observer (navigator.scanSink observer) watched endpoint credential state
        channel =
      navigator.started observer watched state
        (navigator.checked endpoint credential (navigator.scanSink observer))
        (channel.overlaid noted false) := by
  unfold scanEndpoint Client.create Pager.create checked
  by_cases retries : navigator.maxRetries < 1
  · simp only [if_pos retries]
    exact ⟨_, fun channel noted => by rw [noted, ← Channel.journal_eq_overlaid]; rfl⟩
  · simp only [if_neg retries]
    by_cases size : navigator.pageSize < 1
    · simp only [if_pos size]
      exact ⟨_, fun channel noted => by rw [noted, ← Channel.journal_eq_overlaid]; rfl⟩
    · simp only [if_neg size]
      by_cases pages : navigator.maxPages < 1
      · simp only [if_pos pages]
        exact ⟨_, fun channel noted => by rw [noted, ← Channel.journal_eq_overlaid]; rfl⟩
      · simp only [if_neg pages, Channel.note]
        exact ⟨_, fun channel noted => by rw [noted, ← Channel.journal_eq_overlaid]; rfl⟩

theorem discover_of_journal (journal : Log.Journal) :
    ∃ noted, ∀ channel : Channel, channel.journal = journal →
      navigator.discover observer watched state channel =
        navigator.started observer watched state
          (navigator.prepared (navigator.scanSink observer)) (channel.overlaid noted false) := by
  unfold discover prepared
  cases Endpoint.resolve navigator.serverUrl with
  | error fault =>
      simp only [Channel.note]
      exact ⟨_, fun channel noted => by rw [noted, ← Channel.journal_eq_overlaid]; rfl⟩
  | ok endpoint =>
      obtain ⟨found, same⟩ := navigator.lookupCredential_eq journal
      cases looked : navigator.credential? with
      | error failure =>
          rw [looked] at same
          refine ⟨found, fun channel noted => ?_⟩
          simp only [noted, same]
          rw [← Channel.journal_eq_overlaid]
          rfl
      | ok credential =>
          rw [looked] at same
          have sink : (observer.sink.getD ownSink).forScan navigator.id =
              navigator.scanSink observer := rfl
          dsimp only
          rw [sink]
          rcases navigator.noteCredential_cases credential (navigator.scanSink observer) found with
            ⟨failure, fails, notes⟩ | ⟨shown, noted, notes⟩
          · refine ⟨found, fun channel kept => ?_⟩
            simp only [kept, same, notes, fails]
            rw [← Channel.journal_eq_overlaid]
            rfl
          · obtain ⟨later, starts⟩ :=
              navigator.scanEndpoint_eq observer watched state endpoint credential noted
            refine ⟨later, fun channel kept => ?_⟩
            simp only [kept, same, notes]
            have onwards := starts (channel.overlaid noted false) rfl
            rw [Channel.overlaid_overlaid, Bool.or_false] at onwards
            rw [Channel.journal_eq_overlaid]
            exact onwards

/-- A scan either fails without a request or walks over the listing of its pager. Which of them it
does is settled by the navigator alone. -/
theorem discover_eq :
    ∃ noted, navigator.discover observer watched state channel =
      navigator.started observer watched state (navigator.prepared (navigator.scanSink observer))
        (channel.overlaid noted false) := by
  obtain ⟨noted, starts⟩ := navigator.discover_of_journal observer watched state channel.journal
  exact ⟨noted, starts channel rfl⟩

theorem eq_pagerFor_of_prepared {sink : Log.Sink} {pager : Pager}
    (ready : navigator.prepared sink = .ok pager) :
    1 ≤ navigator.maxRetries ∧
      ∃ endpoint credential, pager = navigator.pagerFor endpoint credential sink := by
  unfold prepared checked at ready
  split at ready
  · cases ready
  · split at ready
    · cases ready
    · split at ready
      · cases ready
      · dsimp only at ready
        split at ready
        · cases ready
        · rename_i retries
          split at ready
          · cases ready
          · split at ready
            · cases ready
            · cases ready
              exact ⟨Int.not_lt.mp retries, _, _, rfl⟩

theorem checked_eq_ok (endpoint : Endpoint) (credential : Option Credential) (sink : Log.Sink)
    (retries : 1 ≤ navigator.maxRetries) (size : 1 ≤ navigator.pageSize)
    (pages : 1 ≤ navigator.maxPages) :
    navigator.checked endpoint credential sink =
      .ok (navigator.pagerFor endpoint credential sink) := by
  unfold checked
  dsimp only
  rw [if_neg (Int.not_lt.mpr retries), if_neg (Int.not_lt.mpr size),
    if_neg (Int.not_lt.mpr pages)]

/-- With an address that resolves and texts in the store, it is left to the numbers whether a scan
gets to its listing. -/
theorem prepared_of_isTextual {endpoint : Endpoint} (sink : Log.Sink)
    (resolves : Endpoint.resolve navigator.serverUrl = .ok endpoint)
    (textual : navigator.store.IsTextual) :
    navigator.prepared sink = navigator.checked endpoint navigator.credential sink := by
  obtain ⟨found, looked, text⟩ := navigator.credential?_of_isTextual textual
  have same : navigator.credential = found := by
    unfold credential
    rw [looked]
    rfl
  unfold prepared
  rw [resolves, looked, same]
  cases found with
  | none => rfl
  | some credential =>
      obtain ⟨password, isText⟩ := text credential rfl
      obtain ⟨shown, shows⟩ := Credential.lastFour_of_text isText
      dsimp only [Option.map_some]
      rw [shows]

theorem prepared_eq_ok {endpoint : Endpoint} (sink : Log.Sink)
    (resolves : Endpoint.resolve navigator.serverUrl = .ok endpoint)
    (textual : navigator.store.IsTextual) (retries : 1 ≤ navigator.maxRetries)
    (size : 1 ≤ navigator.pageSize) (pages : 1 ≤ navigator.maxPages) :
    navigator.prepared sink = .ok (navigator.pagerFor endpoint navigator.credential sink) := by
  rw [navigator.prepared_of_isTextual sink resolves textual]
  exact navigator.checked_eq_ok endpoint navigator.credential sink retries size pages

/-! ### The end of a scan -/

/-- The failure of a scan: that of the first page means that there is no listing. -/
def failureOf (baseUrl : String) (failure : Failure) : Failure :=
  if failure.page? = some 1 then .noListing baseUrl failure else failure

theorem failureOf_of_page?_eq_none {failure : Failure} (plain : failure.page? = none)
    (baseUrl : String) : failureOf baseUrl failure = failure := by
  unfold failureOf
  rw [plain, if_neg nofun]

def concluded (navigator : Navigator) (walk : Pager.Walk (Visit σ)) : Except Failure Summary :=
  match walk.ending with
  | .failed failure => .error (failureOf walk.pager.client.baseUrl failure)
  | _ =>
      .ok { navigatorId := navigator.id
            endpoint := walk.pager.client.endpoint
            projectsSeen := walk.state.session.projectsSeen
            pagesFetched := walk.pager.pagesFetched
            stoppedEarly := walk.state.session.stoppedEarly
            apiCalls := walk.pager.client.tally.total }

theorem reported_eq (baseUrl : String) (seen : Nat) (sink : Log.Sink) (failure : Failure) :
    ∃ noted, reported baseUrl seen sink failure channel =
      (failureOf baseUrl failure, channel.overlaid noted false) := by
  unfold reported failureOf
  cases failure.page? with
  | none => exact ⟨channel.journal, by rw [Channel.overlaid_self]; rfl⟩
  | some page =>
      by_cases first : page = 1
      · subst first
        exact ⟨channel.journal, by rw [Channel.overlaid_self]; rfl⟩
      · dsimp only
        rw [if_neg first, if_neg fun same => first (Option.some.inj same)]
        exact ⟨_, by rw [← Channel.journal_eq_overlaid]; rfl⟩

theorem runSession_eq (sink : Log.Sink) (pager : Pager) :
    let blueprint := navigator.blueprint pager.client.endpoint pager.client.authenticated
    let scan := navigator.runSession observer sink watched pager state channel
    let opened := (Session.fresh.enter sink channel.journal).2
    ∃ closed,
      let walk := pager.walk (visit blueprint observer sink watched) .fresh
        ⟨⟨true, 0, false⟩, state⟩ (channel.overlaid opened false)
      scan.outcome = navigator.concluded walk ∧ scan.state = walk.state.state ∧
        scan.channel = walk.channel.overlaid closed false := by
  unfold runSession
  simp only [Session.enter, Session.fresh, Channel.journal_eq_overlaid]
  generalize Pager.walk (visit _ observer sink watched) pager .fresh _ _ = walk
  obtain ⟨ended, ⟨session, after⟩, turned, later⟩ := walk
  cases ended with
  | exhausted => exact ⟨_, rfl, rfl, rfl⟩
  | stopped => exact ⟨_, rfl, rfl, rfl⟩
  | failed failure =>
      obtain ⟨noted, reports⟩ :=
        reported_eq later turned.client.baseUrl session.projectsSeen sink failure
      dsimp only
      rw [reports]
      dsimp only
      rw [Channel.overlaid_overlaid]
      exact ⟨_, rfl, rfl, rfl⟩

theorem discover_of_error {failure : Failure} {client : Option Client}
    (failed : navigator.prepared (navigator.scanSink observer) = .error (failure, client)) :
    ∃ noted, navigator.discover observer watched state channel =
      ⟨.error failure, state, client, channel.overlaid noted false⟩ := by
  obtain ⟨noted, same⟩ := navigator.discover_eq observer watched state channel
  rw [failed] at same
  exact ⟨noted, same⟩

theorem discover_of_pager {pager : Pager}
    (ready : navigator.prepared (navigator.scanSink observer) = .ok pager) :
    let blueprint := navigator.blueprint pager.client.endpoint pager.client.authenticated
    let scan := navigator.discover observer watched state channel
    ∃ opened closed,
      let walk := pager.walk (visit blueprint observer (navigator.scanSink observer) watched) .fresh
        ⟨⟨true, 0, false⟩, state⟩ (channel.overlaid opened false)
      scan.outcome = navigator.concluded walk ∧ scan.state = walk.state.state ∧
        scan.channel = walk.channel.overlaid closed false := by
  dsimp only
  obtain ⟨noted, same⟩ := navigator.discover_eq observer watched state channel
  rw [ready] at same
  rw [same]
  obtain ⟨closed, outcome, after, later⟩ := navigator.runSession_eq observer watched state
    (channel.overlaid noted false) (navigator.scanSink observer) pager
  rw [Channel.overlaid_overlaid] at outcome after later
  exact ⟨_, closed, outcome, after, later⟩

theorem concluded_of_recounts {τ : Type} {walk : Pager.Walk (Visit σ)}
    {other : Pager.Walk (Visit τ)} {extra : Nat} (ending : walk.ending = other.ending)
    (session : walk.state.session = other.state.session)
    (pager : other.pager = { walk.pager with client := other.pager.client })
    (client : walk.pager.client.Recounts other.pager.client)
    (total : other.pager.client.tally.total = walk.pager.client.tally.total + extra) :
    navigator.concluded other = (navigator.concluded walk).map fun summary =>
      { summary with apiCalls := summary.apiCalls + extra } := by
  have pages : other.pager.pagesFetched = walk.pager.pagesFetched := by rw [pager]
  unfold concluded
  rw [← ending, ← session, client.baseUrl, client.endpoint, total, pages]
  cases walk.ending <;> rfl

end Navigator

end ProjectScan
