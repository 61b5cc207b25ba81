import ProjectScan.Proofs.Observation

/-!
What a scan keeps secret of its passwords. Two scans whose stores show the same last four characters
of every password, and are alike otherwise, do the same and note the same; they leave connections
that differ in nothing but the password itself.
-/

namespace ProjectScan

def Credential.withPassword (credential : Credential) (password : Json) : Credential :=
  { credential with password }

def Client.withPassword (client : Client) (password : Json) : Client :=
  { client with connection :=
    { client.connection with
      credential := client.connection.credential.map (·.withPassword password) } }

def Pager.withPassword (pager : Pager) (password : Json) : Pager :=
  { pager with client := pager.client.withPassword password }

def Scan.withPassword {σ : Type} (scan : Scan σ) (password : Json) : Scan σ :=
  { scan with client := scan.client.map (·.withPassword password) }

/-- The two have one user name and show the same of their passwords. -/
structure Credential.Alike (left right : Credential) : Prop where
  username : left.username = right.username
  lastFour : left.lastFour = right.lastFour

structure StoredCredential.Alike (left right : StoredCredential) : Prop where
  id : left.id = right.id
  credential : left.credential.Alike right.credential
  scope : left.scope = right.scope

def Store.Alike (left right : Store) : Prop :=
  List.Forall₂ StoredCredential.Alike left.entries right.entries

theorem Credential.Alike.eq_withPassword {left right : Credential} (alike : left.Alike right) :
    right = left.withPassword right.password := by
  unfold Credential.withPassword
  rw [alike.username]

namespace Client

variable (client : Client) (password : Json) (request : Request) (attempt : Nat)
  (channel : Channel)

theorem baseUrl_withPassword : (client.withPassword password).baseUrl = client.baseUrl := by
  unfold baseUrl authenticated withPassword
  rw [Option.isSome_map]

theorem withPassword_withPassword (last : Json) :
    (client.withPassword password).withPassword last = client.withPassword last := by
  unfold withPassword
  dsimp only
  rw [Option.map_map]
  rfl

theorem create_withPassword (endpoint : Endpoint) (found : Option Credential) (insecure : Bool)
    (timeout maxRetries : Int) (sink : Log.Sink) (journal : Log.Journal) :
    create endpoint (found.map fun credential : Credential => credential.withPassword password)
        insecure timeout maxRetries sink journal =
      ((create endpoint found insecure timeout maxRetries sink journal).1.map
          (·.withPassword password),
        (create endpoint found insecure timeout maxRetries sink journal).2) := by
  unfold create
  by_cases few : maxRetries < 1
  · rw [if_pos few, if_pos few]
    rfl
  · rw [if_neg few, if_neg few]
    refine Prod.ext rfl ?_
    dsimp only [baseUrl, authenticated]
    rw [Option.isSome_map]

theorem lastAttempt_withPassword :
    (client.withPassword password).lastAttempt request attempt channel =
      ((client.lastAttempt request attempt channel).1,
        (client.lastAttempt request attempt channel).2.1.withPassword password,
        (client.lastAttempt request attempt channel).2.2) := by
  have sent : (client.withPassword password).counted.sendOnce request attempt channel =
      client.counted.sendOnce request attempt channel := rfl
  unfold lastAttempt
  dsimp only
  rw [sent]
  obtain ⟨reply, after⟩ := client.counted.sendOnce request attempt channel
  cases reply with
  | response response =>
      unfold answered countedEnd
      dsimp only
      split <;> rfl
  | failure failure => cases failure <;> rfl

theorem earlierAttempt_withPassword :
    (client.withPassword password).earlierAttempt request attempt channel =
      ((client.earlierAttempt request attempt channel).1,
        (client.earlierAttempt request attempt channel).2.1.withPassword password,
        (client.earlierAttempt request attempt channel).2.2) := by
  have sent : (client.withPassword password).counted.sendOnce request attempt channel =
      client.counted.sendOnce request attempt channel := rfl
  have paused (reason : String) (seconds : Number.Binary64) (channel : Channel) :
      (client.withPassword password).counted.pauseFor reason attempt seconds channel =
        client.counted.pauseFor reason attempt seconds channel := rfl
  unfold earlierAttempt
  dsimp only
  rw [sent]
  obtain ⟨reply, after⟩ := client.counted.sendOnce request attempt channel
  cases reply with
  | response response =>
      dsimp only
      by_cases transient : isTransient response.status = true
      · rw [if_pos transient, if_pos transient]
        cases pauseAfter attempt (wantedPause response.headers) with
        | error failure => rfl
        | ok seconds =>
            simp only [paused]
            obtain ⟨verdict, later⟩ := client.counted.pauseFor _ attempt seconds after
            cases verdict <;> rfl
      · rw [if_neg transient, if_neg transient]
        unfold answered countedEnd
        dsimp only
        split <;> rfl
  | failure failure =>
      cases failure with
      | transport kind message =>
          dsimp only
          cases pauseAfter attempt none with
          | error failure => rfl
          | ok seconds =>
              simp only [paused]
              obtain ⟨verdict, later⟩ := client.counted.pauseFor _ attempt seconds after
              cases verdict <;> rfl
      | _ => rfl

theorem attempts_withPassword (left : Nat) :
    (client.withPassword password).attempts request attempt channel left =
      ((client.attempts request attempt channel left).1,
        (client.attempts request attempt channel left).2.1.withPassword password,
        (client.attempts request attempt channel left).2.2) := by
  induction left generalizing client attempt channel with
  | zero => exact client.lastAttempt_withPassword password request attempt channel
  | succ left ih =>
      unfold attempts
      rw [earlierAttempt_withPassword]
      obtain ⟨ended, after, later⟩ := client.earlierAttempt request attempt channel
      cases ended with
      | none => exact ih after (attempt + 1) later
      | some answer => rfl

theorem get_withPassword (path : String) (params : List (String × Json)) :
    (client.withPassword password).get path params channel =
      ((client.get path params channel).1,
        (client.get path params channel).2.1.withPassword password,
        (client.get path params channel).2.2) := by
  have address : (client.withPassword password).address path = client.address path := by
    unfold Client.address
    rw [baseUrl_withPassword]
  have isClosed : (client.withPassword password).closed = client.closed := rfl
  unfold get
  rw [address, isClosed]
  by_cases closed : client.closed = true
  · rw [if_pos closed, if_pos closed]
  · rw [if_neg closed, if_neg closed]
    exact client.attempts_withPassword password _ 0 channel _

theorem close_withPassword :
    (client.withPassword password).close = client.close.withPassword password := by
  have isClosed : (client.withPassword password).closed = client.closed := rfl
  unfold close
  rw [isClosed]
  split <;> rfl

end Client

namespace Pager

variable (pager : Pager) (password : Json) (channel : Channel)

theorem create_withPassword (client : Client) (pageSize maxPages : Int)
    (projectType : Option String) :
    create (client.withPassword password) pageSize maxPages projectType =
      (create client pageSize maxPages projectType).map (·.withPassword password) := by
  unfold create
  split
  · rfl
  · split <;> rfl

theorem fetchPage_withPassword (page skip : Int) :
    (pager.withPassword password).fetchPage page skip channel =
      ((pager.fetchPage page skip channel).1,
        (pager.fetchPage page skip channel).2.1.withPassword password,
        (pager.fetchPage page skip channel).2.2) := by
  have got := pager.client.get_withPassword password channel listingPath (pager.pageParams skip)
  change (pager.withPassword password).client.get listingPath
    ((pager.withPassword password).pageParams skip) channel = _ at got
  unfold fetchPage
  rw [got]
  obtain ⟨answer, client, later⟩ := pager.client.get listingPath (pager.pageParams skip) channel
  cases answer <;> rfl

theorem turnPage_withPassword (taken : Nat) :
    (pager.withPassword password).turnPage taken channel =
      ((pager.turnPage taken channel).1, (pager.turnPage taken channel).2.1.withPassword password,
        (pager.turnPage taken channel).2.2) := by
  have limit : (pager.withPassword password).maxPages = pager.maxPages := rfl
  have count : (pager.withPassword password).pagesFetched = pager.pagesFetched := rfl
  unfold turnPage
  rw [limit, count]
  by_cases reached : pager.maxPages ≤ pager.pagesFetched
  · rw [if_pos reached, if_pos reached]
  · rw [if_neg reached, if_neg reached]
    dsimp only
    rw [fetchPage_withPassword]
    obtain ⟨result, client, later⟩ := pager.fetchPage ↑(pager.pagesFetched + 1) ↑taken channel
    cases result <;> rfl

theorem walk_withPassword {σ : Type} (visit : σ → Project → Channel → Flow × σ × Channel)
    (state : σ) :
    let walk := pager.walk visit .fresh state channel
    (pager.withPassword password).walk visit .fresh state channel =
      { walk with pager := walk.pager.withPassword password } := by
  -- The two walks go side by side: the clients differ in the password, the channels not at all.
  have simulation : Simulation visit visit Eq
      (fun first channel second other => second = first.withPassword password ∧ other = channel)
      (fun _ => False) :=
    { limit := by
        rintro first second channel other ⟨rfl, _⟩
        rfl
      turn := by
        rintro first second channel other ⟨rfl, rfl⟩ taken
        rw [turnPage_withPassword]
        exact .inr ⟨rfl, rfl, rfl⟩
      visit := by
        rintro first second channel other state mirror ⟨rfl, rfl⟩ rfl project
        exact ⟨rfl, rfl, rfl, rfl⟩
      turnEscaped := fun escaped => escaped.elim
      visitEscaped := fun escaped => escaped.elim }
  have begins : (pager.withPassword password).restarted =
      pager.restarted.withPassword password := rfl
  rcases simulation.walk_fresh ⟨begins, rfl⟩ (rfl : state = state) with
    impossible | ⟨ending, after, last, later⟩
  · exact impossible.elim
  · dsimp only
    rw [ending, after, ← last, ← later]

end Pager

/-! ### Scans -/

namespace Store

variable {left right : Store}

theorem find?_alike (alike : left.Alike right) (serverUrl id : String) :
    (∃ failure, left.find? serverUrl id = .error failure ∧
      right.find? serverUrl id = .error failure) ∨
    ∃ found image, left.find? serverUrl id = .ok found ∧ right.find? serverUrl id = .ok image ∧
      Option.Rel Credential.Alike found image := by
  obtain ⟨entries⟩ := left
  obtain ⟨others⟩ := right
  change List.Forall₂ StoredCredential.Alike entries others at alike
  change (∃ failure, findIn? serverUrl id entries = .error failure ∧
      findIn? serverUrl id others = .error failure) ∨
    ∃ found image, findIn? serverUrl id entries = .ok found ∧
      findIn? serverUrl id others = .ok image ∧ Option.Rel Credential.Alike found image
  induction alike with
  | nil => exact .inr ⟨none, none, rfl, rfl, .none⟩
  | @cons entry other entries others same _ ih =>
      have applies : other.appliesTo serverUrl = entry.appliesTo serverUrl := by
        unfold StoredCredential.appliesTo
        rw [same.scope]
      unfold findIn?
      rw [← same.id, applies]
      by_cases wanted : entry.id.same (.text id) = true
      · rw [if_pos wanted, if_pos wanted]
        cases entry.appliesTo serverUrl with
        | error failure => exact .inl ⟨failure, rfl, rfl⟩
        | ok verdict =>
            cases verdict with
            | false => exact ih
            | true => exact .inr ⟨_, _, rfl, rfl, .some same.credential⟩
      · rw [if_neg wanted, if_neg wanted]
        exact ih

end Store

namespace Navigator

variable {σ : Type} (navigator : Navigator) (observer : Observer σ) (sink : Log.Sink)
  (watched : Bool) (state : σ) (channel : Channel)

theorem runSession_withPassword (pager : Pager) (password : Json) :
    navigator.runSession observer sink watched (pager.withPassword password) state channel =
      (navigator.runSession observer sink watched pager state channel).withPassword password := by
  have endpoint : (pager.withPassword password).client.endpoint = pager.client.endpoint := rfl
  have known : (pager.withPassword password).client.authenticated =
      pager.client.authenticated := Option.isSome_map
  unfold runSession
  rw [endpoint, known]
  dsimp only
  rw [Pager.walk_withPassword]
  dsimp only
  generalize Pager.walk (visit _ observer sink watched) pager .fresh _ _ = walk
  obtain ⟨ended, now, turned, later⟩ := walk
  have base : (turned.withPassword password).client.baseUrl = turned.client.baseUrl :=
    turned.client.baseUrl_withPassword password
  have closes : (turned.withPassword password).client.close =
      turned.client.close.withPassword password := turned.client.close_withPassword password
  cases ended with
  | failed failure =>
      dsimp only [Session.exit]
      rw [base, closes]
      rfl
  | _ =>
      dsimp only [Session.exit]
      rw [closes]
      rfl

variable {other : Store} (alike : navigator.store.Alike other)
include alike

theorem lookupCredential_alike (journal : Log.Journal) :
    (∃ failure noted, navigator.lookupCredential journal = (.error failure, noted) ∧
      { navigator with store := other }.lookupCredential journal = (.error failure, noted)) ∨
    ∃ found image noted, navigator.lookupCredential journal = (.ok found, noted) ∧
      { navigator with store := other }.lookupCredential journal = (.ok image, noted) ∧
      Option.Rel Credential.Alike found image := by
  unfold lookupCredential Store.lookup
  dsimp only
  cases navigator.serverUrl with
  | none => exact .inr ⟨none, none, journal, rfl, rfl, .none⟩
  | some serverUrl =>
      cases navigator.credentialsId with
      | none => exact .inr ⟨none, none, journal, rfl, rfl, .none⟩
      | some id =>
          rcases Store.find?_alike alike serverUrl id with
            ⟨failure, fails, failsToo⟩ | ⟨found, image, finds, findsToo, same⟩
          · dsimp only
            rw [fails, failsToo]
            exact .inl ⟨failure, journal, rfl, rfl⟩
          · dsimp only
            rw [finds, findsToo]
            cases same with
            | none => exact .inr ⟨none, none, _, rfl, rfl, .none⟩
            | some same => exact .inr ⟨_, _, journal, rfl, rfl, .some same⟩

omit alike in
theorem noteCredential_alike {found image : Option Credential}
    (same : Option.Rel Credential.Alike found image) (journal : Log.Journal) :
    { navigator with store := other }.noteCredential image sink journal =
      navigator.noteCredential found sink journal := by
  cases same with
  | none => rfl
  | some same =>
      unfold noteCredential
      dsimp only
      rw [same.lastFour, same.username]

omit alike in
theorem scanEndpoint_withPassword (endpoint : Endpoint) (found : Option Credential)
    (password : Json) :
    { navigator with store := other }.scanEndpoint observer sink watched endpoint
        (found.map fun credential : Credential => credential.withPassword password) state channel =
      (navigator.scanEndpoint observer sink watched endpoint found state channel).withPassword
        password := by
  unfold scanEndpoint
  rw [Client.create_withPassword]
  dsimp only
  generalize Client.create endpoint found navigator.insecure navigator.timeout
    navigator.maxRetries sink channel.journal = made
  obtain ⟨result, journal⟩ := made
  cases result with
  | error failure => rfl
  | ok client =>
      dsimp only [Except.map]
      rw [Pager.create_withPassword, client.baseUrl_withPassword]
      cases Pager.create client navigator.pageSize navigator.maxPages (some "CODE") with
      | error failure => rfl
      | ok pager =>
          exact navigator.runSession_withPassword observer sink watched state _ pager password

/-- Scans with stores that show the same of their passwords differ in nothing but the password of
the connection. -/
theorem discover_withPassword :
    ∃ password, { navigator with store := other }.discover observer watched state channel =
      (navigator.discover observer watched state channel).withPassword password := by
  have sameId : { navigator with store := other }.id = navigator.id := rfl
  unfold discover
  rw [sameId]
  dsimp only
  cases Endpoint.resolve navigator.serverUrl with
  | error fault => exact ⟨.null, rfl⟩
  | ok endpoint =>
      dsimp only
      rcases navigator.lookupCredential_alike alike channel.journal with
        ⟨failure, noted, fails, failsToo⟩ | ⟨found, image, noted, finds, findsToo, same⟩
      · rw [fails, failsToo]
        exact ⟨.null, rfl⟩
      · rw [finds, findsToo]
        dsimp only
        rw [navigator.noteCredential_alike _ same]
        cases navigator.noteCredential found _ noted with
        | error failure => exact ⟨.null, rfl⟩
        | ok journal =>
            cases same with
            | none =>
                -- Without a credential any password will do.
                exact ⟨.null, navigator.scanEndpoint_withPassword observer _ watched state _ endpoint
                  none .null⟩
            | @some found image same =>
                rw [same.eq_withPassword]
                exact ⟨image.password, navigator.scanEndpoint_withPassword observer _ watched state _
                  endpoint (some found) image.password⟩

omit alike

/-- What a scan says, does and notes, and what its observer is told, tells nothing of a password but
its last four characters; only the connection holds the rest. -/
theorem discover_keeps_secret (alike : navigator.store.Alike other) :
    let first := navigator.discover observer watched state channel
    let mirror := { navigator with store := other }
    let second := mirror.discover observer watched state channel
    second.outcome = first.outcome ∧ second.state = first.state ∧ second.channel = first.channel ∧
      mirror.calls observer watched state channel = navigator.calls observer watched state channel ∧
      second.client.map (·.withPassword .null) = first.client.map (·.withPassword .null) := by
  obtain ⟨password, same⟩ := navigator.discover_withPassword observer watched state channel alike
  obtain ⟨_, recorded⟩ :=
    navigator.discover_withPassword observer.recorded watched (state, []) channel alike
  dsimp only [calls]
  rw [same, recorded]
  refine ⟨rfl, rfl, rfl, rfl, ?_⟩
  dsimp only [Scan.withPassword]
  rw [Option.map_map]
  congr 1
  funext client
  exact client.withPassword_withPassword password .null

def oneBot (password : String) : Store :=
  ⟨[⟨.text "ci", .ofTexts "bot" password, some (.text "http://h")⟩]⟩

theorem discover_keeps_secret_oneBot :
    let first := { plain with credentialsId := some "ci", store := oneBot "left-1234" }
    let second := { first with store := oneBot "right-1234" }
    first.store.Alike second.store ∧
      (first.discover untilSecond true 0 Channel.twoPages).client.map (·.authenticated) =
        some true ∧
      (second.discover untilSecond true 0 Channel.twoPages).channel =
        (first.discover untilSecond true 0 Channel.twoPages).channel := by
  have alike : (oneBot "left-1234").Alike (oneBot "right-1234") :=
    .cons ⟨rfl, ⟨rfl, rfl⟩, rfl⟩ .nil
  let first : Navigator := { plain with credentialsId := some "ci", store := oneBot "left-1234" }
  obtain ⟨_, _, channel, _⟩ :=
    first.discover_keeps_secret untilSecond true 0 Channel.twoPages alike
  exact ⟨alike, by decide +kernel, channel⟩

end Navigator

end ProjectScan
