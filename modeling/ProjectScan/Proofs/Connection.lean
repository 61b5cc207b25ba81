import ProjectScan.Proofs.Lookup
import ProjectScan.Proofs.Observation

/-!
The connection of a scan: who it belongs to, what is sent over it, and that it is closed. A scan
makes one client at most and sends nothing but requests for the listing of this client. Requests,
candidates and the connection itself go by one and the same credential.
-/

namespace ProjectScan

namespace Pager

/-- Since the channel was `earlier`, one client has sent nothing but requests for its listing. -/
structure OnlyLists (client : Client) (earlier : Channel) (pager : Pager) (channel : Channel) :
    Prop where
  recounts : client.Recounts pager.client
  sent : ∃ sent, channel.requests.toList = earlier.requests.toList ++ sent ∧
    ∀ request ∈ sent, request.url = client.address listingPath

namespace OnlyLists

variable {client : Client} {earlier channel : Channel} {pager : Pager}

theorem refl (pager : Pager) (channel : Channel) :
    OnlyLists pager.client channel pager channel where
  recounts := .refl pager.client
  sent := ⟨[], (List.append_nil _).symm, nofun⟩

theorem turnPage (lists : OnlyLists client earlier pager channel) (taken : Nat) :
    OnlyLists client earlier (pager.turnPage taken channel).2.1
      (pager.turnPage taken channel).2.2 where
  recounts := lists.recounts.trans (pager.turnPage_recounts taken channel)
  sent := by
    obtain ⟨before, sofar, listing⟩ := lists.sent
    obtain ⟨count, _, asked⟩ := pager.turnPage_requests taken channel
    refine ⟨before ++ List.replicate count
      (pager.client.requestFor listingPath (pager.pageParams taken)), ?_, ?_⟩
    · rw [asked, sofar, List.append_assoc]
    · intro request member
      rcases List.mem_append.mp member with among | new
      · exact listing request among
      · rw [List.eq_of_mem_replicate new]
        exact lists.recounts.address listingPath

end OnlyLists

theorem walk_onlyLists {σ : Type} {visit : σ → Project → Channel → Flow × σ × Channel}
    (quiet : ∀ state project channel,
      (visit state project channel).2.2.requests = channel.requests)
    (pager : Pager) (state : σ) (channel : Channel) :
    let walk := pager.walk visit .fresh state channel
    OnlyLists pager.client channel walk.pager walk.channel := by
  have keeps : Keeps visit (fun _ => True) (OnlyLists pager.client channel) :=
    { turn := fun lists taken => lists.turnPage taken
      visit := by
        intro pager channel state lists _ project
        refine ⟨trivial, lists.recounts, ?_⟩
        rw [quiet]
        exact lists.sent }
  exact (keeps.walk_fresh pager channel state (.refl pager.restarted channel) trivial).2

end Pager

namespace Navigator

variable {σ : Type} (navigator : Navigator) (observer : Observer σ) (watched : Bool) (state : σ)
  (channel : Channel)

section Create

variable (url : Option String) (insecure : Bool) (credentialsId : Option String)
  (traits : List Json) (store : Store) (pageSize maxPages timeout maxRetries : Int)

theorem serverUrl_create :
    (create url insecure credentialsId traits store pageSize maxPages timeout
      maxRetries).serverUrl = stripped? url := by
  simp only [create]

theorem credentialsId_create :
    (create url insecure credentialsId traits store pageSize maxPages timeout
      maxRetries).credentialsId = stripped? credentialsId := by
  simp only [create]

end Create

/-- Before its walk a scan has failed without a client, or has refused a number after it made one, or
has its pager. -/
theorem prepared_cases (sink : Log.Sink) :
    (∃ failure, navigator.prepared sink = .error (failure, none)) ∨
    ∃ endpoint credential, Endpoint.resolve navigator.serverUrl = .ok endpoint ∧
      navigator.credential? = .ok credential ∧
      let pager := navigator.pagerFor endpoint credential sink
      ((navigator.pageSize < 1 ∨ navigator.maxPages < 1) ∧
        ∃ bound, navigator.prepared sink = .error (.tooSmall bound, some pager.client)) ∨
      (1 ≤ navigator.pageSize ∧ 1 ≤ navigator.maxPages ∧ navigator.prepared sink = .ok pager) := by
  unfold prepared
  cases resolved : Endpoint.resolve navigator.serverUrl with
  | error fault => exact .inl ⟨_, rfl⟩
  | ok endpoint =>
      cases looked : navigator.credential? with
      | error failure => exact .inl ⟨failure, rfl⟩
      | ok credential =>
          dsimp only
          split
          · exact .inl ⟨_, rfl⟩
          · unfold checked
            dsimp only
            by_cases retries : navigator.maxRetries < 1
            · rw [if_pos retries]
              exact .inl ⟨_, rfl⟩
            · right
              refine ⟨endpoint, credential, rfl, rfl, ?_⟩
              rw [if_neg retries]
              by_cases size : navigator.pageSize < 1
              · rw [if_pos size]
                exact .inl ⟨.inl size, _, rfl⟩
              · rw [if_neg size]
                by_cases pages : navigator.maxPages < 1
                · rw [if_pos pages]
                  exact .inl ⟨.inr pages, _, rfl⟩
                · rw [if_neg pages]
                  exact .inr ⟨Int.not_lt.mp size, Int.not_lt.mp pages, rfl⟩

theorem runSession_client (sink : Log.Sink) (pager : Pager) :
    ∃ after, pager.client.Recounts after ∧
      (navigator.runSession observer sink watched pager state channel).client =
        some after.close := by
  have quiet (now : Visit σ) (project : Project) (channel : Channel) :
      (visit (navigator.blueprint pager.client.endpoint pager.client.authenticated) observer sink
        watched now project channel).2.2.requests = channel.requests :=
    visit_requests _ observer sink project channel watched now
  have lists := pager.walk_onlyLists quiet
    ⟨(Session.fresh.enter sink channel.journal).1, state⟩
    { channel with journal := (Session.fresh.enter sink channel.journal).2 }
  unfold runSession
  dsimp only at lists ⊢
  generalize Pager.walk (visit _ observer sink watched) pager .fresh _ _ = walk at lists ⊢
  refine ⟨walk.pager.client, lists.recounts, ?_⟩
  cases walk.ending <;> rfl

theorem discover_client_of_pager {pager : Pager}
    (ready : navigator.prepared (navigator.scanSink observer) = .ok pager) :
    ∃ after, pager.client.Recounts after ∧
      (navigator.discover observer watched state channel).client = some after.close := by
  obtain ⟨noted, same⟩ := navigator.discover_eq observer watched state channel
  rw [ready] at same
  rw [same]
  exact navigator.runSession_client observer watched state (channel.overlaid noted false)
    (navigator.scanSink observer) pager

theorem discover_requests_of_pager {pager : Pager}
    (ready : navigator.prepared (navigator.scanSink observer) = .ok pager) :
    ∃ sent, (navigator.discover observer watched state channel).channel.requests.toList =
        channel.requests.toList ++ sent ∧
      ∀ request ∈ sent, request.url = pager.client.address Pager.listingPath := by
  obtain ⟨opened, closed, _, _, later⟩ :=
    navigator.discover_of_pager observer watched state channel ready
  rw [later]
  exact (pager.walk_onlyLists
    (fun now project channel => visit_requests _ observer _ project channel watched now) _ _).sent

theorem discover_client_isSome {endpoint : Endpoint}
    (resolves : Endpoint.resolve navigator.serverUrl = .ok endpoint)
    (textual : navigator.store.IsTextual) (retries : 1 ≤ navigator.maxRetries) :
    (navigator.discover observer watched state channel).client.isSome = true := by
  have ready := navigator.prepared_of_isTextual (navigator.scanSink observer) resolves textual
  rcases navigator.prepared_cases (navigator.scanSink observer) with
    ⟨failure, failed⟩ | ⟨_, _, _, _, ⟨_, bound, failed⟩ | ⟨_, _, walks⟩⟩
  · rw [ready] at failed
    unfold checked at failed
    dsimp only at failed
    rw [if_neg (Int.not_lt.mpr retries)] at failed
    split at failed
    · cases failed
    · split at failed <;> cases failed
  · obtain ⟨noted, scan⟩ := navigator.discover_of_error observer watched state channel failed
    rw [scan]
    rfl
  · obtain ⟨after, _, made⟩ :=
      navigator.discover_client_of_pager observer watched state channel walks
    rw [made]
    rfl

/-- The client of a scan is closed once, when the scan ends; only when the scan refuses the number of
projects a page or of pages is the client that it has made left open. -/
theorem discover_closes :
    let scan := navigator.discover observer watched state channel
    (scan.client = none → scan.channel.requests = channel.requests) ∧
    ∀ client, scan.client = some client →
      (1 ≤ navigator.pageSize ∧ 1 ≤ navigator.maxPages →
        client.closed = true ∧ client.connection.closings = 1) ∧
      (navigator.pageSize < 1 ∨ navigator.maxPages < 1 →
        client.closed = false ∧ client.connection.closings = 0 ∧
          scan.channel.requests = channel.requests ∧
          ∃ bound, scan.outcome = .error (.tooSmall bound)) := by
  dsimp only
  rcases navigator.prepared_cases (navigator.scanSink observer) with
    ⟨failure, failed⟩ |
      ⟨endpoint, credential, _, _, ⟨small, bound, failed⟩ | ⟨size, pages, ready⟩⟩
  · obtain ⟨noted, scan⟩ := navigator.discover_of_error observer watched state channel failed
    rw [scan]
    exact ⟨fun _ => rfl, nofun⟩
  · obtain ⟨noted, scan⟩ := navigator.discover_of_error observer watched state channel failed
    rw [scan]
    refine ⟨nofun, ?_⟩
    -- The client was made before its numbers were refused, and no session closes it.
    intro client made
    cases made
    refine ⟨?_, fun _ => ⟨rfl, rfl, rfl, bound, rfl⟩⟩
    rintro ⟨size, pages⟩
    omega
  · obtain ⟨after, recounts, made⟩ :=
      navigator.discover_client_of_pager observer watched state channel ready
    rw [made]
    refine ⟨nofun, ?_⟩
    intro client same
    cases same
    refine ⟨fun _ => ?_, fun small => ?_⟩
    · have isOpen : after.closed = false := recounts.closed
      have unclosed : after.connection.closings = 0 := by
        rw [recounts]
        rfl
      unfold Client.close
      rw [isOpen, unclosed]
      exact ⟨rfl, rfl⟩
    · omega

theorem discover_closes_plain :
    ∃ client, (plain.discover untilSecond true 0 Channel.twoPages).client = some client ∧
      client.closed = true ∧ client.connection.closings = 1 := by
  have resolves : Endpoint.resolve plain.serverUrl =
      .ok ⟨"http://h", "http://h", "http://h/a"⟩ := by decide +kernel
  have made := plain.discover_client_isSome untilSecond true 0 Channel.twoPages resolves nofun
    (by decide)
  obtain ⟨client, same⟩ := Option.isSome_iff_exists.mp made
  have closes := (plain.discover_closes untilSecond true 0 Channel.twoPages).2 client same
  exact ⟨client, same, closes.1 ⟨by decide, by decide⟩⟩

/-- A scan that refuses its number of projects a page leaves its client open. -/
theorem leftOpen_of_emptyPages :
    ∃ client, ({ plain with pageSize := 0 }.discover untilSecond true 0 Channel.twoPages).client =
        some client ∧
      client.closed = false ∧ client.connection.closings = 0 :=
  ⟨_, rfl, rfl, rfl⟩

/-! ### Requests and candidates -/

theorem calls_of_pager {pager : Pager}
    (ready : navigator.prepared (navigator.scanSink observer) = .ok pager) :
    ∀ call ∈ navigator.calls observer watched state channel, ∃ project,
      call = (navigator.blueprint pager.client.endpoint pager.client.authenticated).call
        project := by
  generalize same : navigator.blueprint pager.client.endpoint pager.client.authenticated = blueprint
  have keeps : Pager.Keeps
      (visit blueprint observer.recorded (navigator.scanSink observer) watched)
      (fun now => now.session.isOpen = true ∧
        ∀ call ∈ now.state.2, ∃ project, call = blueprint.call project)
      (fun _ _ => True) :=
    { turn := fun _ _ => trivial
      visit := by
        rintro pager channel ⟨⟨isOpen, seen, early⟩, before, calls⟩ _ ⟨opened, sofar⟩ project
        change isOpen = true at opened
        subst opened
        obtain ⟨noted, told⟩ := visit_overlaid blueprint observer.recorded
          (navigator.scanSink observer) seen early (before, calls) project channel channel.journal
          false watched
        rw [Channel.overlaid_self] at told
        rw [told]
        refine ⟨⟨rfl, ?_⟩, trivial⟩
        intro call member
        rcases List.mem_append.mp member with among | new
        · exact sofar call among
        · exact ⟨project, List.mem_singleton.mp new⟩ }
  obtain ⟨opened, closed, _, after, _⟩ :=
    navigator.discover_of_pager observer.recorded watched (state, []) channel ready
  intro call member
  unfold calls at member
  rw [after, same] at member
  have untold : ∀ call ∈ ([] : List Call), ∃ project, call = blueprint.call project :=
    fun _ told => absurd told List.not_mem_nil
  have known := keeps.walk_fresh pager (channel.overlaid opened false)
    ⟨⟨true, 0, false⟩, state, []⟩ trivial ⟨rfl, untold⟩
  exact known.1.2 call member

theorem calls_of_error {failure : Failure} {client : Option Client}
    (failed : navigator.prepared (navigator.scanSink observer) = .error (failure, client)) :
    navigator.calls observer watched state channel = [] := by
  obtain ⟨noted, scan⟩ :=
    navigator.discover_of_error observer.recorded watched (state, []) channel failed
  unfold calls
  rw [scan]

theorem address_listingPath (client : Client) :
    client.address Pager.listingPath = client.baseUrl ++ "/projects/" := rfl

/-- Connection, requests and candidates of a scan go by one credential and one base. -/
structure Agrees (credential : Option Credential) (base : String) : Prop where
  connection : ∀ client, (navigator.discover observer watched state channel).client = some client →
    client.connection.credential = credential ∧ client.connection.verifies = !navigator.insecure
  requests : ∃ sent, (navigator.discover observer watched state channel).channel.requests.toList =
      channel.requests.toList ++ sent ∧ ∀ request ∈ sent, request.url = base ++ "/projects/"
  candidates : ∀ call ∈ navigator.calls observer watched state channel,
    call.candidate.project = call.name ∧
      call.candidate.remoteUrl = base ++ "/" ++ call.name ∧
      call.candidate.insecure = navigator.insecure ∧
      call.candidate.credentialsId = navigator.credentialsId ∧
      call.candidate.traits = navigator.traits ∧
      call.candidate.id = navigator.id ++ "::" ++ call.name

theorem agrees_of_error {failure : Failure} {client : Option Client}
    (failed : navigator.prepared (navigator.scanSink observer) = .error (failure, client))
    {credential : Option Credential}
    (connection : ∀ made, client = some made → made.connection.credential = credential ∧
      made.connection.verifies = !navigator.insecure) (base : String) :
    navigator.Agrees observer watched state channel credential base := by
  obtain ⟨noted, ended⟩ := navigator.discover_of_error observer watched state channel failed
  refine ⟨?_, ⟨[], ?_, ?_⟩, ?_⟩
  · rw [ended]
    exact connection
  · rw [ended, List.append_nil]
    rfl
  · intro request sent
    exact absurd sent List.not_mem_nil
  · rw [navigator.calls_of_error observer watched state channel failed]
    intro call told
    exact absurd told List.not_mem_nil

theorem agrees_of_pager {endpoint : Endpoint} {credential : Option Credential}
    (ready : navigator.prepared (navigator.scanSink observer) =
      .ok (navigator.pagerFor endpoint credential (navigator.scanSink observer))) :
    navigator.Agrees observer watched state channel credential
      (endpoint.restUri credential.isSome) := by
  obtain ⟨after, recounts, made⟩ :=
    navigator.discover_client_of_pager observer watched state channel ready
  obtain ⟨sent, all, listing⟩ :=
    navigator.discover_requests_of_pager observer watched state channel ready
  refine ⟨?_, ⟨sent, all, ?_⟩, ?_⟩
  · intro client same
    rw [made] at same
    cases same
    rw [Client.credential_close, Client.verifies_close, recounts]
    exact ⟨rfl, rfl⟩
  · intro request member
    rw [listing request member, address_listingPath]
    rfl
  · intro call told
    obtain ⟨project, rfl⟩ := navigator.calls_of_pager observer watched state channel ready call told
    exact ⟨rfl, rfl, rfl, rfl, rfl, rfl⟩

theorem agrees_of_resolve {serverUrl : String} {endpoint : Endpoint}
    (address : navigator.serverUrl = some serverUrl)
    (resolves : Endpoint.resolve navigator.serverUrl = .ok endpoint) :
    let selected? := navigator.credentialsId.bind (navigator.store.selected? serverUrl)
    navigator.Agrees observer watched state channel (selected?.map (·.credential))
      (endpoint.restUri selected?.isSome) := by
  intro selected?
  rcases navigator.prepared_cases (navigator.scanSink observer) with
    ⟨failure, failed⟩ | ⟨target, credential, resolved, looked, numbers⟩
  · exact navigator.agrees_of_error observer watched state channel failed nofun _
  · have here : endpoint = target := Except.ok.inj (resolves.symm.trans resolved)
    subst here
    have owner : credential = selected?.map (·.credential) :=
      navigator.eq_selected?_of_credential? address looked
    have known : credential.isSome = selected?.isSome := by rw [owner, Option.isSome_map]
    rw [← owner, ← known]
    rcases numbers with ⟨_, bound, failed⟩ | ⟨_, _, ready⟩
    · apply navigator.agrees_of_error observer watched state channel failed
      intro made same
      cases same
      exact ⟨rfl, rfl⟩
    · exact navigator.agrees_of_pager observer watched state channel ready

/-- Connection, requests and candidates of a scan agree. They belong to the first entry of the store
that has the wanted id and applies to the server, and to authenticated access; or, without such an
entry, to nobody and to anonymous access. -/
theorem discover_agrees {url : Option String} {endpoint : Endpoint}
    (resolves : Endpoint.resolve url = .ok endpoint) (insecure : Bool)
    (credentialsId : Option String) (traits : List Json) (store : Store)
    (pageSize maxPages timeout maxRetries : Int) :
    let navigator := create url insecure credentialsId traits store pageSize maxPages timeout
      maxRetries
    let selected? := (stripped? credentialsId).bind (store.selected? (Text.trimmed (url.getD "")))
    let base := if selected?.isSome then endpoint.apiUri else endpoint.webUri
    navigator.Agrees observer watched state channel (selected?.map (·.credential)) base ∧
      (store.IsTextual → 1 ≤ maxRetries →
        (navigator.discover observer watched state channel).client.isSome = true) := by
  obtain ⟨kept, again⟩ := stripped?_of_resolve resolves
  intro navigator
  have address := serverUrl_create url insecure credentialsId traits store pageSize maxPages timeout
    maxRetries
  have wanted := credentialsId_create url insecure credentialsId traits store pageSize maxPages
    timeout maxRetries
  rw [← address] at again kept
  constructor
  · rw [← wanted]
    exact navigator.agrees_of_resolve observer watched state channel kept again
  · intro textual retries
    exact navigator.discover_client_isSome observer watched state channel again textual retries

/-- Two entries with one id: the first is for a path of the server, the second for all of it. -/
def keyed : Store :=
  ⟨[⟨.text "ci", .ofTexts "other" "word", some (.text "http://h/x")⟩,
    ⟨.text "ci", .ofTexts "bot" "secret", some (.text "http://h")⟩]⟩

theorem discover_agrees_keyed :
    Endpoint.resolve (some " http://h ") = .ok ⟨"http://h", "http://h", "http://h/a"⟩ ∧
      let navigator := create (some " http://h ") true (some "ci ") [] keyed 1 2 30 3
      navigator.Agrees untilSecond true 0 Channel.twoPages (some (.ofTexts "bot" "secret"))
          "http://h/a" ∧
        (navigator.calls untilSecond true 0 Channel.twoPages).map (·.name) = ["a", "b"] := by
  have resolves : Endpoint.resolve (some " http://h ") =
      .ok ⟨"http://h", "http://h", "http://h/a"⟩ := by decide +kernel
  have entry : (stripped? (some "ci ")).bind
      (keyed.selected? (Text.trimmed ((some " http://h ").getD ""))) =
        some ⟨.text "ci", .ofTexts "bot" "secret", some (.text "http://h")⟩ := by
    have wanted : stripped? (some "ci ") = some "ci" := by decide +kernel
    have address : Text.trimmed ((some " http://h ").getD "") = "http://h" := by decide +kernel
    rw [wanted, address, Option.bind_some]
    unfold Store.selected? keyed
    rw [List.find?_cons_of_neg (by decide +kernel), List.find?_cons_of_pos (by decide +kernel)]
  have agrees := (discover_agrees untilSecond true 0 Channel.twoPages resolves true (some "ci ") []
    keyed 1 2 30 3).1
  rw [entry] at agrees
  exact ⟨resolves, agrees, by decide +kernel⟩

end Navigator

end ProjectScan
