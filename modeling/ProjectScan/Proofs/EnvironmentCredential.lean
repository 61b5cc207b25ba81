import ProjectScan.Proofs.Accounting
import ProjectScan.Proofs.Connection
import ProjectScan.Proofs.Spelling

/-!
The credential of the environment. It is registered under its id as this is written in the
environment, while a navigator looks for the id without the blanks around it. A run that takes its
settings from the environment therefore finds the credential exactly if its id has no blanks around
it, and scans anonymously if it has.
-/

namespace ProjectScan

theorem Text.trimmed_ne_empty {text : String} (visible : ∃ c ∈ text.toList, isBlank c = false) :
    trimmed text ≠ "" := by
  intro blank
  obtain ⟨c, member, solid⟩ := visible
  obtain ⟨before, after, whole, front, ending⟩ := exists_blanks text.toList
  have nothing : trim text.toList = [] := by
    simpa [trimmed] using blank
  rw [whole, nothing, List.append_nil, List.mem_append] at member
  rcases member with inFront | atEnd
  · simp [front c inFront] at solid
  · simp [ending c atEnd] at solid

namespace Settings

structure Sound (room : Nat) (environment : Environment) : Prop where
  address : ∃ endpoint,
    Endpoint.resolve (some (environment.value "GERRIT_SERVER_URL")) = .ok endpoint
  traits : ∃ traits, readTraits room (environment.value "GERRIT_TRAITS") = .ok traits
  pageSize : ∃ number, readNumber environment "PAGE_SIZE" 100 = .ok number ∧ 1 ≤ number
  maxPages : ∃ number, readNumber environment "MAX_PAGES" 10000 = .ok number ∧ 1 ≤ number
  timeout : ∃ number, readNumber environment "TIMEOUT" 30 = .ok number ∧ 1 ≤ number
  maxRetries : ∃ number, readNumber environment "MAX_RETRIES" 3 = .ok number ∧ 1 ≤ number
  logLevel : ∃ level, checkLogLevel ((environment.find? "LOG_LEVEL").getD "INFO") = .ok level

theorem checkServerUrl_of_resolve {url : String} {endpoint : Endpoint}
    (resolves : Endpoint.resolve (some url) = .ok endpoint) :
    checkServerUrl url = .ok (Text.trimmed url) ∧
      Endpoint.resolve (some (Text.trimmed url)) = .ok endpoint := by
  obtain ⟨kept, again⟩ := Navigator.stripped?_of_resolve resolves
  rw [kept] at again
  refine ⟨?_, again⟩
  unfold checkServerUrl
  split
  · rename_i blank
    simp [Navigator.stripped?, blank] at kept
  · have fine := (Endpoint.problem?_eq_none_iff (some (Text.trimmed url))).mpr ⟨endpoint, again⟩
    rw [fine]

theorem tooSmall?_eq_none_iff (settings : Settings) :
    settings.tooSmall? = none ↔ 1 ≤ settings.pageSize ∧ 1 ≤ settings.maxPages ∧
      1 ≤ settings.timeout ∧ 1 ≤ settings.maxRetries := by
  unfold tooSmall?
  constructor
  · intro fits
    split at fits
    · cases fits
    · split at fits
      · cases fits
      · split at fits
        · cases fits
        · split at fits
          · cases fits
          · omega
  · rintro ⟨size, pages, time, retries⟩
    rw [if_neg (by omega), if_neg (by omega), if_neg (by omega), if_neg (by omega)]

theorem overridden_empty (settings : Settings) : settings.overridden {} = settings := rfl

theorem unlessBlank_eq_some {text : String} (visible : Text.trimmed text ≠ "") :
    unlessBlank text = some text := if_neg visible

theorem load_of_sound {room : Nat} {environment : Environment} (homes : Homes)
    (sound : Sound room environment) :
    ∃ settings, load homes environment {} room = .ok settings ∧
      settings.serverUrl = Text.trimmed (environment.value "GERRIT_SERVER_URL") ∧
      settings.credentialsId =
        (environment.nonempty? "GERRIT_CREDENTIALS_ID").bind unlessBlank ∧
      settings.credentialsFile =
        (environment.nonempty? "GERRIT_CREDENTIALS_FILE").filter (· ≠ "") ∧
      1 ≤ settings.pageSize ∧ 1 ≤ settings.maxPages ∧ 1 ≤ settings.maxRetries := by
  obtain ⟨endpoint, resolves⟩ := sound.address
  obtain ⟨traits, readsTraits⟩ := sound.traits
  obtain ⟨pageSize, readsSize, size⟩ := sound.pageSize
  obtain ⟨maxPages, readsPages, pages⟩ := sound.maxPages
  obtain ⟨timeout, readsTime, time⟩ := sound.timeout
  obtain ⟨maxRetries, readsRetries, retries⟩ := sound.maxRetries
  obtain ⟨level, known⟩ := sound.logLevel
  let read : Settings :=
    { serverUrl := environment.value "GERRIT_SERVER_URL"
      insecure := readFlag environment "GERRIT_INSECURE_HTTPS"
      credentialsId := environment.nonempty? "GERRIT_CREDENTIALS_ID"
      credentialsFile := environment.nonempty? "GERRIT_CREDENTIALS_FILE"
      traits, pageSize, maxPages, timeout, maxRetries
      outputDirectory := (environment.find? "OUTPUT_DIR").getD "./output"
      logLevel := (environment.find? "LOG_LEVEL").getD "INFO" }
  have reads : ofEnvironment room environment = .ok read := by
    simp [ofEnvironment, defaults, readsTraits, readsSize, readsPages, readsTime, readsRetries,
      read, bind, Except.bind, pure, Except.pure]
  have fits : read.tooSmall? = none :=
    (tooSmall?_eq_none_iff read).mpr ⟨size, pages, time, retries⟩
  unfold load
  rw [reads]
  dsimp only
  rw [overridden_empty, checked, (checkServerUrl_of_resolve resolves).1, fits, known]
  exact ⟨_, rfl, rfl, rfl, rfl, size, pages, retries⟩

theorem readNumber_of_absent {environment : Environment} {name : String}
    (absent : environment.find? name = none) (other : Int) :
    readNumber environment name other = .ok other := by
  have blank : Text.trimmed (environment.value name) = "" := by
    rw [Environment.value, absent]
    rfl
  rw [readNumber, blank]
  rfl

end Settings

structure Environment.Names (environment : Environment) (user password id : String) : Prop where
  username : environment.nonempty? "GERRIT_USERNAME" = some user
  secret : environment.nonempty? "GERRIT_PASSWORD" = some password
  named : environment.nonempty? "GERRIT_CREDENTIALS_ID" = some id
  visible : ∃ c ∈ id.toList, Text.isBlank c = false

namespace Store

variable {environment : Environment} {user password id : String}

theorem ofEnvironment_of_names (names : environment.Names user password id) :
    ofEnvironment environment = ⟨[⟨.text id, .ofTexts user password, none⟩]⟩ := by
  simp [ofEnvironment, names.username, names.secret, names.named]

theorem isTextual_ofEnvironment (names : environment.Names user password id) :
    (ofEnvironment environment).IsTextual := by
  intro entry member
  rw [ofEnvironment_of_names names] at member
  rw [List.mem_singleton.mp member]
  exact ⟨⟨id, rfl⟩, ⟨user, rfl⟩, ⟨password, rfl⟩, nofun⟩

theorem find?_ofEnvironment (names : environment.Names user password id)
    (serverUrl wanted : String) :
    (ofEnvironment environment).find? serverUrl wanted =
      .ok (if wanted = id then some (.ofTexts user password) else none) := by
  rw [ofEnvironment_of_names names]
  by_cases same : wanted = id
  · simp [find?, findIn?, Json.same, StoredCredential.appliesTo, same]
  · simp [find?, findIn?, Json.same, same, Ne.symm same]

end Store

/-! ### The navigator of a run -/

namespace Command

/-- The credential of a run that takes its settings from the environment: that of the environment,
if its id has no blanks around it. -/
def ownCredential (user password id : String) : Option Credential :=
  if Text.trimmed id = id then some (.ofTexts user password) else none

variable {machine : Machine} {arguments : Arguments} {user password id : String} {choice : Choice}

theorem credential?_of_names {navigator : Navigator} {endpoint : Endpoint}
    (names : machine.environment.Names user password id)
    (resolves : Endpoint.resolve navigator.serverUrl = .ok endpoint)
    (wanted : navigator.credentialsId = some (Text.trimmed id))
    (holds : navigator.store = Store.ofEnvironment machine.environment) :
    navigator.credential? = .ok (ownCredential user password id) := by
  unfold Navigator.credential?
  rw [wanted, holds]
  cases address : navigator.serverUrl with
  | none =>
      rw [address] at resolves
      cases resolves
  | some serverUrl => exact Store.find?_ofEnvironment names serverUrl (Text.trimmed id)

section Prepared

variable (sound : Settings.Sound machine.room machine.environment)
  (names : machine.environment.Names user password id)
  (fileless : machine.environment.nonempty? "GERRIT_CREDENTIALS_FILE" = none)
  (leaves : arguments.overrides = {})
  (numbers : arguments.pageSize ≠ .blank ∧ arguments.maxPages ≠ .blank)
  (chooses : Choice.create arguments = .ok choice) (disk : Disk) (journal : Log.Journal)
include sound names fileless leaves numbers chooses

theorem prepare_of_names :
    ∃ plan, prepare machine arguments disk journal = (.ok plan, journal) ∧
      (∃ endpoint,
        Endpoint.resolve (some (machine.environment.value "GERRIT_SERVER_URL")) = .ok endpoint ∧
        Endpoint.resolve plan.navigator.serverUrl = .ok endpoint) ∧
      plan.navigator.credentialsId = some (Text.trimmed id) ∧
      plan.navigator.store = Store.ofEnvironment machine.environment ∧
      1 ≤ plan.navigator.pageSize ∧ 1 ≤ plan.navigator.maxPages ∧
      1 ≤ plan.navigator.maxRetries := by
  obtain ⟨settings, loads, address, wanted, file, size, pages, retries⟩ :=
    Settings.load_of_sound machine.homes sound
  obtain ⟨endpoint, resolves⟩ := sound.address
  have solid := Text.trimmed_ne_empty names.visible
  have identity : settings.credentialsId = some id := by
    rw [wanted, names.named, Option.bind_some, Settings.unlessBlank_eq_some solid]
  have noFile : settings.credentialsFile = none := by
    rw [file, fileless]
    rfl
  have loaded : loadSettings machine arguments = .ok settings := by
    unfold loadSettings
    rw [if_neg (by simp [numbers]), leaves, loads]
  refine ⟨⟨settings, Store.ofEnvironment machine.environment, choice⟩, ?_, ?_⟩
  · simp [prepare, loaded, loadStore, noFile, chooses, Except.map]
  simp only [Plan.navigator, Navigator.create]
  refine ⟨⟨endpoint, resolves, ?_⟩, ?_, trivial, size, pages, retries⟩
  · have kept := (Settings.checkServerUrl_of_resolve resolves).2
    rw [← address] at kept
    exact (Navigator.stripped?_of_resolve kept).2
  · rw [identity]
    exact Navigator.stripped?_eq_some solid

/-- A run that takes its settings from the environment finds the credential of the environment and
scans with it if its id has no blanks around it; with blanks around it the run finds no credential
and scans anonymously. -/
theorem navigator_of_environment :
    ∃ plan endpoint, prepare machine arguments disk journal = (.ok plan, journal) ∧
      Endpoint.resolve (some (machine.environment.value "GERRIT_SERVER_URL")) = .ok endpoint ∧
      let own := ownCredential user password id
      (∀ journal, (plan.navigator.lookupCredential journal).1 = .ok own) ∧
      ∀ {σ : Type} (observer : Observer σ) (watched : Bool) (state : σ) (channel : Channel),
        (plan.navigator.discover observer watched state channel).client.isSome = true ∧
        plan.navigator.Agrees observer watched state channel own
          (endpoint.restUri own.isSome) := by
  obtain ⟨plan, prepares, ⟨endpoint, resolves, reaches⟩, wanted, holds, size, pages, retries⟩ :=
    prepare_of_names sound names fileless leaves numbers chooses disk journal
  have looked : plan.navigator.credential? = .ok (ownCredential user password id) :=
    credential?_of_names names reaches wanted holds
  have found : plan.navigator.credential = ownCredential user password id := by
    rw [Navigator.credential, looked, Except.toOption, Option.getD_some]
  have textual : plan.navigator.store.IsTextual := by
    rw [holds]
    exact Store.isTextual_ofEnvironment names
  refine ⟨plan, endpoint, prepares, resolves, ?_, ?_⟩
  · intro journal
    obtain ⟨noted, same⟩ := plan.navigator.lookupCredential_eq journal
    rw [same, looked]
  · intro σ observer watched state channel
    have ready := plan.navigator.prepared_eq_ok (plan.navigator.scanSink observer) reaches textual
      retries size pages
    rw [found] at ready
    exact ⟨plan.navigator.discover_client_isSome observer watched state channel reaches textual
      retries, plan.navigator.agrees_of_pager observer watched state channel ready⟩

end Prepared

def namingMachine (id : String) : Machine :=
  { Navigator.bareMachine [] with
    environment := ⟨[("GERRIT_SERVER_URL", "https://h"), ("GERRIT_CREDENTIALS_ID", id),
      ("GERRIT_USERNAME", "bot"), ("GERRIT_PASSWORD", "secret")]⟩ }

theorem resolve_namingMachine (id : String) :
    Endpoint.resolve (some ((namingMachine id).environment.value "GERRIT_SERVER_URL")) =
      .ok ⟨"https://h", "https://h", "https://h/a"⟩ := by
  change Endpoint.resolve (some "https://h") = _
  decide

theorem sound_namingMachine (id : String) :
    Settings.Sound (namingMachine id).room (namingMachine id).environment where
  address := ⟨_, resolve_namingMachine id⟩
  traits := ⟨[], rfl⟩
  pageSize := ⟨100, Settings.readNumber_of_absent rfl 100, by decide⟩
  maxPages := ⟨10000, Settings.readNumber_of_absent rfl 10000, by decide⟩
  timeout := ⟨30, Settings.readNumber_of_absent rfl 30, by decide⟩
  maxRetries := ⟨3, Settings.readNumber_of_absent rfl 3, by decide⟩
  logLevel := by
    have known : Settings.checkLogLevel "INFO" = .ok "INFO" := by decide
    exact ⟨"INFO", known⟩

theorem names_namingMachine {id : String} (visible : ∃ c ∈ id.toList, Text.isBlank c = false) :
    (namingMachine id).environment.Names "bot" "secret" id where
  username := rfl
  secret := rfl
  named := by
    have solid : id ≠ "" := by
      rintro rfl
      simp at visible
    simp [namingMachine, Environment.nonempty?, Environment.find?, solid]
  visible := visible

theorem navigator_of_environment_ci :
    ∃ plan, prepare (namingMachine "ci") .empty ⟨[], []⟩ (.empty 0) = (.ok plan, .empty 0) ∧
      (plan.navigator.lookupCredential (.empty 0)).1 = .ok (some (.ofTexts "bot" "secret")) ∧
      plan.navigator.Agrees plan.choice.observer true .empty Channel.twoPages
        (some (.ofTexts "bot" "secret")) "https://h/a" := by
  have given : Arguments.empty.pageSize ≠ .blank ∧ Arguments.empty.maxPages ≠ .blank := by decide
  obtain ⟨plan, endpoint, prepares, resolves, looks, scans⟩ :=
    navigator_of_environment (sound_namingMachine "ci")
      (names_namingMachine ⟨'c', by decide, by decide⟩) rfl rfl given rfl ⟨[], []⟩ (.empty 0)
  have here := Except.ok.inj (resolves.symm.trans (resolve_namingMachine "ci"))
  rw [ownCredential, if_pos (by decide)] at looks scans
  have agrees := (scans plan.choice.observer true .empty Channel.twoPages).2
  rw [here] at agrees
  exact ⟨plan, prepares, looks (.empty 0), agrees⟩

/-- With blanks around its id, the credential of the environment is not found. -/
theorem paddedId_finds_nothing :
    Settings.Sound (namingMachine " ci ").room (namingMachine " ci ").environment ∧
      (namingMachine " ci ").environment.Names "bot" "secret" " ci " ∧
      ∃ plan, prepare (namingMachine " ci ") .empty ⟨[], []⟩ (.empty 0) = (.ok plan, .empty 0) ∧
        (plan.navigator.lookupCredential (.empty 0)).1 = .ok none := by
  have sound := sound_namingMachine " ci "
  have names : (namingMachine " ci ").environment.Names "bot" "secret" " ci " :=
    names_namingMachine ⟨'c', by decide, by decide⟩
  have given : Arguments.empty.pageSize ≠ .blank ∧ Arguments.empty.maxPages ≠ .blank := by decide
  obtain ⟨plan, prepares, ⟨_, _, reaches⟩, wanted, holds, _⟩ :=
    prepare_of_names sound names rfl rfl given rfl ⟨[], []⟩ (.empty 0)
  obtain ⟨_, same⟩ := plan.navigator.lookupCredential_eq (.empty 0)
  refine ⟨sound, names, plan, prepares, ?_⟩
  rw [same, credential?_of_names names reaches wanted holds, ownCredential, if_neg (by decide)]

end Command

end ProjectScan
