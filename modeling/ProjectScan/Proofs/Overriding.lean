import Mathlib.Data.List.Nodup
import ProjectScan.Settings

/-!
Given settings and the environment. A setting that is given takes the place of what its variable
holds, but the variable is read all the same. The variable of a given setting therefore has no
influence on what is loaded as long as it can be read, and the first variable that cannot be read
ends the loading whatever is given.
-/

namespace ProjectScan

inductive Setting where
  | serverUrl
  | insecure
  | credentialsId
  | credentialsFile
  | traits
  | pageSize
  | maxPages
  | timeout
  | maxRetries
  | outputDirectory
  | logLevel
  deriving DecidableEq, Repr

/-- A fault that a variable has by itself, before the given settings are in place. -/
def SettingFault.isUnreadable : SettingFault → Bool
  | .notWhole _ _ | .traitsText _ | .traitsNoList => true
  | .noServerUrl | .serverUrl _ _ | .logLevel _ => false

def SettingFault.isTooDeep : SettingFault → Bool
  | .traitsText (.tooDeep _) => true
  | _ => false

theorem SettingFault.name_setting (fault : SettingFault) :
    (Failure.setting fault).name = if fault.isTooDeep then "RecursionError" else "ValueError" := by
  cases fault with
  | traitsText fault => cases fault <;> rfl
  | _ => rfl

namespace Setting

def all : List Setting :=
  [serverUrl, insecure, credentialsId, credentialsFile, traits, pageSize, maxPages, timeout,
    maxRetries, outputDirectory, logLevel]

def name : Setting → String
  | serverUrl => "GERRIT_SERVER_URL"
  | insecure => "GERRIT_INSECURE_HTTPS"
  | credentialsId => "GERRIT_CREDENTIALS_ID"
  | credentialsFile => "GERRIT_CREDENTIALS_FILE"
  | traits => "GERRIT_TRAITS"
  | pageSize => "PAGE_SIZE"
  | maxPages => "MAX_PAGES"
  | timeout => "TIMEOUT"
  | maxRetries => "MAX_RETRIES"
  | outputDirectory => "OUTPUT_DIR"
  | logLevel => "LOG_LEVEL"

theorem mem_all (setting : Setting) : setting ∈ all := by
  cases setting <;> simp [all]

theorem name_injective : Function.Injective name := by
  intro setting other same
  have distinct : (all.map name).Nodup := by decide
  exact List.inj_on_of_nodup_map distinct (mem_all setting) (mem_all other) same

def faultOf {α : Type} : Except SettingFault α → Option SettingFault
  | .error fault => some fault
  | .ok _ => none

theorem faultOf_eq_some {α : Type} {outcome : Except SettingFault α} {fault : SettingFault}
    (fails : faultOf outcome = some fault) : outcome = .error fault := by
  cases outcome with
  | error other =>
      cases fails
      rfl
  | ok value => cases fails

/-- Why the variable cannot be read, if it cannot. Variables that hold a flag or a text can always
be read; addresses and log levels are checked only after the given settings are in place. -/
def fault? (room : Nat) (environment : Environment) : Setting → Option SettingFault
  | traits => faultOf (Settings.readTraits room (environment.value "GERRIT_TRAITS"))
  | pageSize => faultOf (Settings.readNumber environment "PAGE_SIZE" 100)
  | maxPages => faultOf (Settings.readNumber environment "MAX_PAGES" 10000)
  | timeout => faultOf (Settings.readNumber environment "TIMEOUT" 30)
  | maxRetries => faultOf (Settings.readNumber environment "MAX_RETRIES" 3)
  | serverUrl | insecure | credentialsId | credentialsFile | outputDirectory | logLevel => none

end Setting

def Overrides.gives (overrides : Overrides) : Setting → Bool
  | .serverUrl => overrides.serverUrl.isSome
  | .insecure => overrides.insecure.isSome
  | .credentialsId => overrides.credentialsId.isSome
  | .credentialsFile => overrides.credentialsFile.isSome
  | .traits => overrides.traits.isSome
  | .pageSize => overrides.pageSize.isSome
  | .maxPages => overrides.maxPages.isSome
  | .timeout => overrides.timeout.isSome
  | .maxRetries => overrides.maxRetries.isSome
  | .outputDirectory => overrides.outputDirectory.isSome
  | .logLevel => overrides.logLevel.isSome

def Environment.AgreesBut (name : String) (left right : Environment) : Prop :=
  ∀ other, other ≠ name → left.find? other = right.find? other

namespace Settings

variable {room : Nat} {environment left right : Environment} {overrides : Overrides} {setting : Setting}

def firstFault? (room : Nat) (environment : Environment) : Option SettingFault :=
  Setting.all.findSome? (Setting.fault? room environment)

structure ReadFrom (room : Nat) (environment : Environment) (settings : Settings) : Prop where
  serverUrl : settings.serverUrl = environment.value "GERRIT_SERVER_URL"
  insecure : settings.insecure = readFlag environment "GERRIT_INSECURE_HTTPS"
  credentialsId : settings.credentialsId = environment.nonempty? "GERRIT_CREDENTIALS_ID"
  credentialsFile : settings.credentialsFile = environment.nonempty? "GERRIT_CREDENTIALS_FILE"
  traits : readTraits room (environment.value "GERRIT_TRAITS") = .ok settings.traits
  pageSize : readNumber environment "PAGE_SIZE" 100 = .ok settings.pageSize
  maxPages : readNumber environment "MAX_PAGES" 10000 = .ok settings.maxPages
  timeout : readNumber environment "TIMEOUT" 30 = .ok settings.timeout
  maxRetries : readNumber environment "MAX_RETRIES" 3 = .ok settings.maxRetries
  outputDirectory : settings.outputDirectory = (environment.find? "OUTPUT_DIR").getD "./output"
  logLevel : settings.logLevel = (environment.find? "LOG_LEVEL").getD "INFO"

theorem ofEnvironment_cases (room : Nat) (environment : Environment) :
    (∃ fault, firstFault? room environment = some fault ∧ ofEnvironment room environment = .error fault) ∨
      (firstFault? room environment = none ∧
        ∃ settings, ofEnvironment room environment = .ok settings ∧ ReadFrom room environment settings) := by
  simp only [firstFault?, ofEnvironment, Setting.all, List.findSome?_cons, List.findSome?_nil,
    Setting.fault?, defaults]
  cases readsTraits : readTraits room (environment.value "GERRIT_TRAITS") with
  | error fault => simp [Setting.faultOf, bind, Except.bind]
  | ok traits =>
  cases readsSize : readNumber environment "PAGE_SIZE" 100 with
  | error fault => simp [Setting.faultOf, bind, Except.bind]
  | ok pageSize =>
  cases readsPages : readNumber environment "MAX_PAGES" 10000 with
  | error fault => simp [Setting.faultOf, bind, Except.bind]
  | ok maxPages =>
  cases readsTime : readNumber environment "TIMEOUT" 30 with
  | error fault => simp [Setting.faultOf, bind, Except.bind]
  | ok timeout =>
  cases readsRetries : readNumber environment "MAX_RETRIES" 3 with
  | error fault => simp [Setting.faultOf, bind, Except.bind]
  | ok maxRetries =>
  right
  simp only [Setting.faultOf, bind, Except.bind, pure, Except.pure, Except.ok.injEq, true_and,
    exists_eq_left']
  constructor
  case traits => exact readsTraits
  case pageSize => exact readsSize
  case maxPages => exact readsPages
  case timeout => exact readsTime
  case maxRetries => exact readsRetries
  all_goals with_reducible rfl

theorem unreadable_of_readTraits {text : String} {fault : SettingFault}
    (fails : readTraits room text = .error fault) : fault.isUnreadable = true := by
  unfold readTraits at fails
  split at fails
  · cases fails
  · split at fails
    · cases fails
      rfl
    · cases fails
    · cases fails
      rfl

theorem unreadable_of_readNumber {name : String} {other : Int} {fault : SettingFault}
    (fails : readNumber environment name other = .error fault) : fault.isUnreadable = true := by
  unfold readNumber at fails
  split at fails
  · cases fails
  · split at fails
    · cases fails
    · cases fails
      rfl

theorem unreadable_of_fault? {fault : SettingFault}
    (fails : setting.fault? room environment = some fault) : fault.isUnreadable = true := by
  cases setting
  all_goals simp only [Setting.fault?] at fails
  case traits => exact unreadable_of_readTraits (Setting.faultOf_eq_some fails)
  case pageSize | maxPages | timeout | maxRetries =>
    exact unreadable_of_readNumber (Setting.faultOf_eq_some fails)
  all_goals cases fails

theorem unreadable_of_firstFault? {fault : SettingFault}
    (first : firstFault? room environment = some fault) : fault.isUnreadable = true := by
  obtain ⟨setting, _, fails⟩ := List.exists_of_findSome?_eq_some first
  exact unreadable_of_fault? fails

theorem readable_of_checkServerUrl {url : String} {fault : SettingFault}
    (fails : checkServerUrl url = .error fault) : fault.isUnreadable = false := by
  unfold checkServerUrl at fails
  split at fails
  · cases fails
    rfl
  · split at fails
    · cases fails
    · cases fails
      rfl

theorem readable_of_checkLogLevel {name : String} {fault : SettingFault}
    (fails : checkLogLevel name = .error fault) : fault.isUnreadable = false := by
  unfold checkLogLevel at fails
  dsimp only at fails
  split at fails
  · cases fails
  · cases fails
    rfl

theorem readable_of_checked {homes : Homes} {settings : Settings} {fault : SettingFault}
    (fails : settings.checked homes = .error (.setting fault)) : fault.isUnreadable = false := by
  unfold checked at fails
  split at fails
  · rename_i other refused
    cases fails
    exact readable_of_checkServerUrl refused
  · split at fails
    · cases fails
    · split at fails
      · rename_i other refused
        cases fails
        exact readable_of_checkLogLevel refused
      · cases fails

/-- Loading fails on a variable exactly if this is the first that cannot be read, whatever is
given. -/
theorem load_eq_unreadable_iff {homes : Homes} {fault : SettingFault}
    (unreadable : fault.isUnreadable = true) :
    load homes environment overrides room = .error (.setting fault) ↔
      firstFault? room environment = some fault := by
  unfold load
  rcases ofEnvironment_cases room environment with
    ⟨found, first, fails⟩ | ⟨fine, settings, succeeds, _⟩
  · rw [first, fails]
    simp
  · rw [fine, succeeds]
    constructor
    · intro refused
      rw [readable_of_checked refused] at unreadable
      cases unreadable
    · intro impossible
      cases impossible

/-! ### Settings that are given -/

section Given

variable {α : Type} {given : Option α} {value other : α} {known unknown : Option α}

theorem getD_eq (settled : given.isSome = true ∨ value = other) :
    given.getD value = given.getD other := by
  cases given with
  | none => simpa using settled
  | some own => rfl

theorem or_eq (settled : given.isSome = true ∨ known = unknown) :
    given.or known = given.or unknown := by
  cases given with
  | none => simpa using settled
  | some own => rfl

end Given

section Same

variable {name : String} (same : left.find? name = right.find? name)
include same

theorem value_eq : left.value name = right.value name := by
  simp only [Environment.value, same]

theorem nonempty?_eq : left.nonempty? name = right.nonempty? name := by
  simp only [Environment.nonempty?, same]

theorem readFlag_eq : readFlag left name = readFlag right name := by
  simp only [readFlag, value_eq same]

theorem readNumber_eq (other : Int) : readNumber left name other = readNumber right name other := by
  simp only [readNumber, value_eq same]

end Same

theorem fault?_eq (same : left.find? setting.name = right.find? setting.name) :
    setting.fault? room left = setting.fault? room right := by
  cases setting
  all_goals simp only [Setting.name] at same
  case traits => simp only [Setting.fault?, value_eq same]
  case pageSize | maxPages | timeout | maxRetries => simp only [Setting.fault?, readNumber_eq same]
  all_goals rfl

theorem overridden_eq {settings others : Settings}
    (agree : ∀ setting : Setting,
      overrides.gives setting = true ∨ left.find? setting.name = right.find? setting.name)
    (reads : ReadFrom room left settings) (rereads : ReadFrom room right others) :
    settings.overridden overrides = others.overridden overrides := by
  unfold overridden
  rw [Settings.mk.injEq]
  refine ⟨getD_eq ((agree .serverUrl).imp_right ?_), getD_eq ((agree .insecure).imp_right ?_),
    or_eq ((agree .credentialsId).imp_right ?_), or_eq ((agree .credentialsFile).imp_right ?_),
    getD_eq ((agree .traits).imp_right ?_), getD_eq ((agree .pageSize).imp_right ?_),
    getD_eq ((agree .maxPages).imp_right ?_), getD_eq ((agree .timeout).imp_right ?_),
    getD_eq ((agree .maxRetries).imp_right ?_), getD_eq ((agree .outputDirectory).imp_right ?_),
    getD_eq ((agree .logLevel).imp_right ?_)⟩
  all_goals
    intro same
    simp only [Setting.name] at same
  · rw [reads.serverUrl, rereads.serverUrl, value_eq same]
  · rw [reads.insecure, rereads.insecure, readFlag_eq same]
  · rw [reads.credentialsId, rereads.credentialsId, nonempty?_eq same]
  · rw [reads.credentialsFile, rereads.credentialsFile, nonempty?_eq same]
  · apply Except.ok.inj
    rw [← reads.traits, ← rereads.traits, value_eq same]
  · apply Except.ok.inj
    rw [← reads.pageSize, ← rereads.pageSize, readNumber_eq same]
  · apply Except.ok.inj
    rw [← reads.maxPages, ← rereads.maxPages, readNumber_eq same]
  · apply Except.ok.inj
    rw [← reads.timeout, ← rereads.timeout, readNumber_eq same]
  · apply Except.ok.inj
    rw [← reads.maxRetries, ← rereads.maxRetries, readNumber_eq same]
  · rw [reads.outputDirectory, rereads.outputDirectory, same]
  · rw [reads.logLevel, rereads.logLevel, same]

theorem agree_or_given (given : overrides.gives setting = true)
    (agree : left.AgreesBut setting.name right) (other : Setting) :
    overrides.gives other = true ∨ left.find? other.name = right.find? other.name := by
  by_cases same : other = setting
  · rw [same]
    exact .inl given
  · exact .inr (agree other.name (Setting.name_injective.ne same))

theorem firstFault?_eq (agree : left.AgreesBut setting.name right)
    (same : setting.fault? room left = setting.fault? room right) :
    firstFault? room left = firstFault? room right := by
  have each : Setting.fault? room left = Setting.fault? room right := by
    funext other
    by_cases equal : other = setting
    · rw [equal, same]
    · exact fault?_eq (agree other.name (Setting.name_injective.ne equal))
  rw [firstFault?, firstFault?, each]

theorem firstFault?_of_load {homes : Homes} {fault : SettingFault}
    (equal : load homes left overrides room = load homes right overrides room)
    (first : firstFault? room left = some fault) : firstFault? room right = some fault := by
  have unreadable := unreadable_of_firstFault? first
  apply (load_eq_unreadable_iff unreadable).mp
  rw [← equal]
  exact (load_eq_unreadable_iff unreadable).mpr first

theorem load_of_readable (homes : Homes) (given : overrides.gives setting = true)
    (agree : left.AgreesBut setting.name right) (fine : firstFault? room left = none)
    (refined : firstFault? room right = none) :
    load homes left overrides room = load homes right overrides room := by
  rcases ofEnvironment_cases room left with ⟨_, first, _⟩ | ⟨_, settings, read, reads⟩
  · rw [fine] at first
    cases first
  rcases ofEnvironment_cases room right with ⟨_, first, _⟩ | ⟨_, others, reread, rereads⟩
  · rw [refined] at first
    cases first
  have equal := overridden_eq (agree_or_given given agree) reads rereads
  simp only [load, read, reread, equal]

/-- Loading goes the same way in two environments that differ in the variable of a given setting
exactly if the same variable, if any, is the first that cannot be read. -/
theorem load_eq_iff (homes : Homes) (given : overrides.gives setting = true)
    (agree : left.AgreesBut setting.name right) :
    load homes left overrides room = load homes right overrides room ↔
      firstFault? room left = firstFault? room right := by
  constructor
  · intro equal
    apply Option.ext
    intro fault
    constructor
    · exact firstFault?_of_load equal
    · exact firstFault?_of_load equal.symm
  · intro same
    cases first : firstFault? room left with
    | none => exact load_of_readable homes given agree first (same.symm.trans first)
    | some fault =>
        have unreadable := unreadable_of_firstFault? first
        rw [(load_eq_unreadable_iff unreadable).mpr first,
          (load_eq_unreadable_iff unreadable).mpr (same.symm.trans first)]

/-- The variable of a given setting has no influence on what is loaded if it can be read. It has one
exactly if it changes what the first variable that cannot be read is or why, since this ends the
loading whatever is given. -/
theorem load_overridden (homes : Homes) (given : overrides.gives setting = true)
    (agree : left.AgreesBut setting.name right) :
    (setting.fault? room left = none → setting.fault? room right = none →
      load homes left overrides room = load homes right overrides room) ∧
    (load homes left overrides room = load homes right overrides room ↔
      firstFault? room left = firstFault? room right) ∧
    ∀ fault, firstFault? room left = some fault →
      load homes left overrides room = .error (.setting fault) ∧
        (Failure.setting fault).name =
          if fault.isTooDeep then "RecursionError" else "ValueError" := by
  refine ⟨?_, load_eq_iff homes given agree, ?_⟩
  · intro fine refined
    apply (load_eq_iff homes given agree).mpr
    exact firstFault?_eq agree (fine.trans refined.symm)
  · intro fault first
    exact ⟨(load_eq_unreadable_iff (unreadable_of_firstFault? first)).mpr first, fault.name_setting⟩

def sizedEnvironment (pageSize : String) : Environment :=
  ⟨[("GERRIT_SERVER_URL", "https://h"), ("PAGE_SIZE", pageSize)]⟩

theorem agreesBut_sizedEnvironment (size other : String) :
    (sizedEnvironment size).AgreesBut Setting.pageSize.name (sizedEnvironment other) := by
  intro name different
  have unequal : ("PAGE_SIZE" : String) ≠ name := different.symm
  by_cases address : "GERRIT_SERVER_URL" = name
  · simp [sizedEnvironment, Environment.find?, address]
  · simp [sizedEnvironment, Environment.find?, address, unequal]

theorem load_overridden_pageSize :
    load ⟨"/root", []⟩ (sizedEnvironment "7") { pageSize := some 5 } =
      load ⟨"/root", []⟩ (sizedEnvironment "8") { pageSize := some 5 } := by
  have agree := agreesBut_sizedEnvironment "7" "8"
  have first : Setting.pageSize.fault? Json.usualRoom (sizedEnvironment "7") = none := by decide
  have second : Setting.pageSize.fault? Json.usualRoom (sizedEnvironment "8") = none := by decide
  exact (load_overridden ⟨"/root", []⟩ rfl agree).1 first second

/-- A given page size does not do away with the complaint about its variable. -/
theorem given_pageSize_refused :
    Overrides.gives { pageSize := some 5 } .pageSize = true ∧
      (sizedEnvironment "7").AgreesBut Setting.pageSize.name (sizedEnvironment "abc") ∧
      (load ⟨"/root", []⟩ (sizedEnvironment "7") { pageSize := some 5 }).isOk = true ∧
      load ⟨"/root", []⟩ (sizedEnvironment "abc") { pageSize := some 5 } =
        .error (.setting (.notWhole "PAGE_SIZE" "abc")) := by
  have first : firstFault? Json.usualRoom (sizedEnvironment "abc") = some (.notWhole "PAGE_SIZE" "abc") := by
    decide
  refine ⟨rfl, agreesBut_sizedEnvironment "7" "abc", ?_, ?_⟩
  · decide
  · exact (load_eq_unreadable_iff rfl).mpr first

end Settings

end ProjectScan
