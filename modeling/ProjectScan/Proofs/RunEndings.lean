import Mathlib.Logic.Relation
import ProjectScan.Command.Program
import ProjectScan.Proofs.Accounting
import ProjectScan.Proofs.Diagnostics
import ProjectScan.Proofs.FileWrites
import ProjectScan.Proofs.Undisturbed

/-!
How discovery runs end. As long as what comes into a report can be written, a run writes its report
exactly when it ends with the code 0, and the report lists what was kept of the projects, in their
order. Short of that, nothing happens to the disk but that lines are added to the log file and, after a
scan that came to its end, directories are made for the report. Only a scan that was cancelled or
interrupted makes a run end with 130; a wish to end the program that is uttered while a page is fetched
makes this page the last.
-/

namespace ProjectScan

namespace Json

open Text (backslash doubleQuote)

/-- A text in quotes, up to its closing quote, has the escape of half of a pair without the other half.
The escapes that belong to a pair are passed over, which `skip` counts. -/
def quotedHalf (skip : Nat) : List Char → Bool
  | [] => false
  | c :: rest =>
      if 0 < skip then quotedHalf (skip - 1) rest
      else if c = doubleQuote then false
      else if c = backslash then
        match rest with
        | [] => false
        | 'u' :: rest' =>
            match leadingUnit? (c :: rest) with
            | none => false
            | some unit =>
                match (leadingUnit? (rest'.drop 4)).bind (pairedUnits? unit) with
                | some _ => quotedHalf 10 rest'
                | none => (0xD800 ≤ unit && unit ≤ 0xDFFF) || quotedHalf 4 rest'
        | _ :: rest' => quotedHalf 0 rest'
      else quotedHalf 0 rest

def hasHalf (source : List Char) : Bool :=
  (lexemes source).any fun next => match next.lexeme, next.place with
    | .text _, _ :: rest => quotedHalf 0 rest
    | _, _ => false

-- Both halves of a pair, and the first of them alone.
example : hasHalf "[\"\\ud83d\\ude00\"]".toList = false ∧ hasHalf "[\"\\ud83d\"]".toList = true := by
  decide +kernel

end Json

namespace Command

variable {machine : Machine} {arguments : Arguments} {plan : Plan} {console : Console}
  {file : Option String} {disk : Disk}

def Logs (file : Option String) (before after : Disk) : Prop :=
  ∃ path text, file = some path ∧ before.append path text = .ok after

/-- All that was done to the disk is that texts were added to the log file, if there is one. -/
def OnlyLogs (file : Option String) : Disk → Disk → Prop := Relation.ReflTransGen (Logs file)

/-- A text was added to the log file, or a directory was made on the way to that of the report. -/
def Traces (file : Option String) (output : Option Path) (before after : Disk) : Prop :=
  Logs file before after ∨ ∃ directory, output = some directory ∧ before.Makes directory after

/-- All that was done to the disk is that texts were added to the log file and directories were made
for a report, if there are such. -/
def OnlyTraces (file : Option String) (output : Option Path) : Disk → Disk → Prop :=
  Relation.ReflTransGen (Traces file output)

theorem OnlyLogs.onlyTraces {after : Disk} (only : OnlyLogs file disk after)
    (output : Option Path) : OnlyTraces file output disk after :=
  Relation.ReflTransGen.mono (fun _ _ => Or.inl) _ _ only

theorem onlyTraces_of_onlyMakes {after : Disk} {directory : Path}
    (only : Disk.OnlyMakes directory disk after) (file : Option String) :
    OnlyTraces file (some directory) disk after :=
  Relation.ReflTransGen.mono (fun _ _ makes => Or.inr ⟨directory, rfl, makes⟩) _ _ only

/-- The console writes to this log file, and has only done this since the disk was as given. -/
structure Console.Follows (console : Console) (file : Option String) (disk : Disk) : Prop where
  logFile : console.logFile = file
  only : OnlyLogs file disk console.disk

theorem Console.log_onlyLogs (console : Console) (text : String) :
    OnlyLogs console.logFile console.disk (console.log text) := by
  unfold log
  cases named : console.logFile with
  | none => exact .refl
  | some path =>
      dsimp only
      cases added : console.disk.append path text with
      | error fault => exact .refl
      | ok after => exact .single ⟨path, text, rfl, added⟩

theorem Console.Follows.emit (follows : console.Follows file disk) (journal : Log.Journal) :
    (console.emit journal).Follows file disk := by
  refine ⟨follows.logFile, follows.only.trans ?_⟩
  rw [← follows.logFile]
  exact console.log_onlyLogs _

theorem Console.follows_of_start {layout : Layout} {origin : Log.Origin}
    (starts : start layout origin file disk = .ok console) :
    console.Follows (file.map disk.absolute) disk := by
  unfold start at starts
  cases file with
  | none =>
      cases starts
      exact ⟨rfl, .refl⟩
  | some path =>
      dsimp only at starts
      cases added : disk.append (disk.absolute path) "" with
      | error fault =>
          rw [added] at starts
          cases starts
      | ok after =>
          rw [added] at starts
          cases starts
          exact ⟨rfl, .single ⟨_, _, rfl, added⟩⟩

def Arguments.logPath (arguments : Arguments) (machine : Machine) : Option String :=
  arguments.logFile?.map machine.disk.absolute

/-! ### Before the scan -/

/-- A run that wrote no report, though it may have made directories for it. -/
structure Outcome.Unwritten (outcome : Outcome) (file : Option String) (output : Option Path)
    (disk : Disk) : Prop where
  report : outcome.report = none
  ending : outcome.ending ≠ .ok 0
  only : OnlyTraces file output disk outcome.disk

/-- With what a run begins its scan, if it comes so far. -/
def begun? (machine : Machine) (arguments : Arguments) : Option (Plan × Console) :=
  match Console.start (arguments.layout machine.terminal) machine.origin arguments.logFile?
      machine.disk with
  | .error _ => none
  | .ok console =>
      let journal := Log.Journal.empty arguments.threshold
      let console := console.emit (journal.note sink Log.Level.debug (opening arguments))
      match prepare machine arguments console.disk journal with
      | (.error _, _) => none
      | (.ok plan, journal) => some (plan, console.emit journal)

theorem discover_of_begun (begins : begun? machine arguments = some (plan, console)) :
    console.Follows (arguments.logPath machine) machine.disk ∧
      discover machine arguments =
        scan machine plan console (.empty (plan.threshold arguments)) := by
  unfold begun? at begins
  unfold discover
  cases starts : Console.start (arguments.layout machine.terminal) machine.origin
      arguments.logFile? machine.disk with
  | error failure =>
      rw [starts] at begins
      cases begins
  | ok started =>
      have follows := Console.follows_of_start starts
      rw [starts] at begins
      dsimp only at begins ⊢
      generalize prepare machine arguments _ _ = prepared at begins ⊢
      obtain ⟨prepared, journal⟩ := prepared
      cases prepared with
      | error failure => cases begins
      | ok ready =>
          cases begins
          exact ⟨(follows.emit _).emit _, rfl⟩

theorem discover_of_not_begun (refused : begun? machine arguments = none) :
    (discover machine arguments).Unwritten (arguments.logPath machine) none machine.disk ∧
      (discover machine arguments).ending ≠ .ok 130 := by
  unfold begun? at refused
  unfold discover
  cases starts : Console.start (arguments.layout machine.terminal) machine.origin
      arguments.logFile? machine.disk with
  | error failure => exact ⟨⟨rfl, nofun, .refl⟩, nofun⟩
  | ok started =>
      have follows := Console.follows_of_start starts
      rw [starts] at refused
      dsimp only at refused ⊢
      generalize prepare machine arguments _ _ = prepared at refused ⊢
      obtain ⟨prepared, journal⟩ := prepared
      cases prepared with
      | ok ready => cases refused
      | error failure =>
          dsimp only
          cases failure.isRefusal with
          | true => exact ⟨⟨rfl, nofun, ((follows.emit _).emit _).only.onlyTraces none⟩, nofun⟩
          | false => exact ⟨⟨rfl, nofun, ((follows.emit _).emit _).only.onlyTraces none⟩, nofun⟩

def Plan.channel (plan : Plan) (machine : Machine) (arguments : Arguments) : Channel :=
  .fresh machine.script machine.afterwards (.empty (plan.threshold arguments))

theorem Plan.size_channel (plan : Plan) (machine : Machine) (arguments : Arguments) :
    (plan.channel machine arguments).requests.size = 0 := rfl

def Plan.scanned (plan : Plan) (machine : Machine) (arguments : Arguments) : Scan Collection :=
  plan.navigator.discover plan.choice.observer true .empty (plan.channel machine arguments)

def Plan.reportPath (plan : Plan) : String :=
  ((Path.ofText plan.settings.outputDirectory).child reportName).text

def endingOf (failure : Failure) : Except Failure Nat :=
  if failure.isInterruption then .ok 130
  else if failure.isDiscovery then .ok 1
  else .error failure

theorem endingOf_ne_zero (failure : Failure) : endingOf failure ≠ .ok 0 := by
  unfold endingOf
  split
  · nofun
  · split <;> nofun

theorem isInterruption_of_endingOf {failure : Failure} (ends : endingOf failure = .ok 130) :
    failure.isInterruption = true := by
  unfold endingOf at ends
  split at ends
  · assumption
  · split at ends <;> cases ends

theorem giveUp_eq (console : Console) (failure : Failure) (journal : Log.Journal) :
    ∃ told, giveUp failure console journal = (endingOf failure, console.emit told) := by
  unfold giveUp endingOf
  split
  · exact ⟨_, rfl⟩
  · split <;> exact ⟨_, rfl⟩

/-- The report stands where this path leads, and nothing behind it, unless the path leads to the log
file: then these lines stand behind it. -/
structure Stands (report : Report) (disk : Disk) (path : String) (file : Option String)
    (lines : String) : Prop where
  apart : (∀ log, file = some log → disk.locate log ≠ disk.locate path) →
    disk.read path = .ok (Disk.bytes report.toJson.indented)
  behind : ∀ log, file = some log → disk.locate log = disk.locate path →
    disk.read path = .ok (Disk.bytes report.toJson.indented ++ Disk.bytes lines)

/-- What is noted of a report that was written. -/
def farewell (threshold : Int) (report : Report) (path : String) : List Log.Record :=
  ((Log.Journal.empty threshold).note sink Log.Level.info (completion report path)).records.toList

theorem writeReport_eq_ok {directory path : String} {report : Report} {after : Disk}
    (writes : writeReport disk directory report = (.ok path, after)) :
    path = ((Path.ofText directory).child reportName).text ∧
      ∃ place, after.Holds path place (Disk.bytes report.toJson.indented) := by
  unfold writeReport at writes
  dsimp only at writes
  split at writes
  · cases writes
  · split at writes
    · cases writes
    · rename_i written
      cases writes
      exact ⟨rfl, Disk.holds_of_write written⟩

theorem writeReport_onlyMakes {directory : String} {report : Report} {after : Disk}
    {failure : Failure} (fails : writeReport disk directory report = (.error failure, after)) :
    Disk.OnlyMakes (Path.ofText directory) disk after := by
  have made := disk.ensureDirectories_onlyMakes (Path.ofText directory)
  unfold writeReport at fails
  dsimp only at fails
  generalize disk.ensureDirectories (Path.ofText directory) = ensured at made fails
  obtain ⟨result, between⟩ := ensured
  cases result with
  | error failure =>
      cases fails
      exact made
  | ok done =>
      dsimp only at fails
      split at fails
      · cases fails
        exact made
      · cases fails

theorem Console.stands_emit (console : Console) {path : String} {place : Location} {report : Report}
    (holds : console.disk.Holds path place (Disk.bytes report.toJson.indented))
    (journal : Log.Journal) :
    Stands report (console.emit journal).disk path console.logFile
      (console.lines journal.records.toList) := by
  unfold emit log
  dsimp only
  cases named : console.logFile with
  | none => exact ⟨fun _ => holds.read, nofun⟩
  | some log =>
      dsimp only
      cases added : console.disk.append log (console.lines journal.records.toList) with
      | error fault =>
          refine ⟨fun _ => holds.read, ?_⟩
          rintro _ ⟨⟩ same
          exact absurd same (holds.locate_ne added)
      | ok after =>
          rcases holds.append added with ⟨same, still⟩ | ⟨apart, still⟩
          · refine ⟨fun apart => absurd same (apart log rfl), ?_⟩
            rintro _ ⟨⟩ _
            exact still.read
          · refine ⟨fun _ => still.read, ?_⟩
            rintro _ ⟨⟩ same
            exact absurd same apart

/-- A scan that came to its end leaves a report, or the run fails in another way than by an
interruption. -/
theorem conclude_cases (follows : console.Follows file disk) (directory : String) (report : Report)
    (journal : Log.Journal) :
    let ended := conclude directory report console journal
    let path := ((Path.ofText directory).child reportName).text
    (ended.2.2 = none ∧ ended.1 ≠ .ok 0 ∧ ended.1 ≠ .ok 130 ∧
        OnlyTraces file (some (Path.ofText directory)) disk ended.2.1.disk) ∨
      (ended.2.2 = some report ∧ ended.1 = .ok 0 ∧
        Stands report ended.2.1.disk path file
          (console.lines (farewell journal.threshold report path))) := by
  unfold conclude
  split
  · dsimp only
    cases writes : writeReport (console.emit journal).disk directory report with
    | mk result after =>
    cases result with
    | error failure =>
        have logs := (follows.emit journal).only.onlyTraces (some (Path.ofText directory))
        exact .inl ⟨rfl, nofun, nofun,
          logs.trans (onlyTraces_of_onlyMakes (writeReport_onlyMakes writes) file)⟩
    | ok path =>
        obtain ⟨rfl, place, holds⟩ := writeReport_eq_ok writes
        right
        refine ⟨rfl, rfl, ?_⟩
        rw [← follows.logFile]
        exact Console.stands_emit { console.emit journal with disk := after } holds _
  · exact .inl ⟨rfl, nofun, nofun, (follows.emit _).only.onlyTraces _⟩

/-- A run that wrote this report: it lists the candidates of the projects that the choice keeps, in the
order in which the observer was told of them. -/
structure Plan.Writes (plan : Plan) (console : Console) (machine : Machine) (arguments : Arguments)
    (report : Report) (disk : Disk) : Prop where
  candidates : report.candidates =
    ((plan.navigator.calls plan.choice.observer true .empty (plan.channel machine arguments)).filter
      fun call => plan.choice.keeps call.name).map (·.candidate)
  listed : report.toJson.member? "sources" = some (.list (report.candidates.map Candidate.toJson))
  stands : Stands report disk plan.reportPath (arguments.logPath machine)
    (console.lines (farewell (plan.threshold arguments) report plan.reportPath))

theorem Plan.accepted_of_finished {summary : Summary}
    (finished : (plan.scanned machine arguments).outcome = .ok summary) :
    (plan.scanned machine arguments).state.accepted =
      ((plan.navigator.calls plan.choice.observer true .empty (plan.channel machine arguments)).filter
        fun call => plan.choice.keeps call.name).map (·.candidate) := by
  unfold scanned at finished ⊢
  obtain ⟨pager, prepares⟩ := Navigator.prepared_of_finished _ _ _ _ _ finished
  obtain ⟨fetches, told, _, calls, state⟩ :=
    Navigator.finishes_of_pager _ _ _ _ _ prepares finished
  rw [calls, state, Choice.accepted_after, List.filter_map, List.map_map]
  rfl

@[simp] theorem candidates_reportOf (machine : Machine) (summary : Summary)
    (candidates : List Candidate) : (reportOf machine summary candidates).candidates = candidates :=
  rfl

theorem scan_of_error (console : Console) {failure : Failure}
    (fails : (plan.scanned machine arguments).outcome = .error failure) :
    let scanned := plan.scanned machine arguments
    let gave := giveUp failure console scanned.channel.journal
    scan machine plan console (.empty (plan.threshold arguments)) =
      ⟨gave.1, gave.2.shown, "", gave.2.disk, scanned.channel, scanned.client, none⟩ := by
  unfold Plan.scanned Plan.channel at fails ⊢
  unfold scan
  dsimp only
  rw [fails]

theorem scan_of_ok (console : Console) {summary : Summary}
    (finished : (plan.scanned machine arguments).outcome = .ok summary) :
    let scanned := plan.scanned machine arguments
    let ended := conclude plan.settings.outputDirectory
      (reportOf machine summary scanned.state.accepted) console scanned.channel.journal
    scan machine plan console (.empty (plan.threshold arguments)) =
      ⟨ended.1, ended.2.1.shown, "", ended.2.1.disk, scanned.channel, scanned.client, ended.2.2⟩ := by
  unfold Plan.scanned Plan.channel at finished ⊢
  unfold scan
  dsimp only
  rw [finished]

theorem Plan.threshold_scanned (plan : Plan) (machine : Machine) (arguments : Arguments) :
    (plan.scanned machine arguments).channel.journal.threshold = plan.threshold arguments := by
  unfold Plan.scanned
  exact Log.Journal.Grows.threshold (plan.navigator.discover_grows plan.choice.observer true .empty
    (plan.channel machine arguments))

section Runs

variable (begins : begun? machine arguments = some (plan, console))
include begins

theorem discover_of_failure {failure : Failure}
    (fails : (plan.scanned machine arguments).outcome = .error failure) :
    (discover machine arguments).Unwritten (arguments.logPath machine) none machine.disk ∧
      (discover machine arguments).ending = endingOf failure := by
  obtain ⟨follows, same⟩ := discover_of_begun begins
  obtain ⟨told, gives⟩ := giveUp_eq console failure
    (plan.scanned machine arguments).channel.journal
  rw [same, scan_of_error console fails, gives]
  exact ⟨⟨rfl, endingOf_ne_zero failure, (follows.emit told).only.onlyTraces none⟩, rfl⟩

theorem discover_of_summary {summary : Summary}
    (finished : (plan.scanned machine arguments).outcome = .ok summary) :
    let outcome := discover machine arguments
    (outcome.Unwritten (arguments.logPath machine)
        (some (Path.ofText plan.settings.outputDirectory)) machine.disk ∧
        outcome.ending ≠ .ok 130) ∨
      ∃ report, outcome.report = some report ∧ outcome.ending = .ok 0 ∧
        plan.Writes console machine arguments report outcome.disk := by
  obtain ⟨follows, same⟩ := discover_of_begun begins
  have kept := plan.accepted_of_finished finished
  rw [same, scan_of_ok console finished]
  rcases conclude_cases follows plan.settings.outputDirectory
      (reportOf machine summary (plan.scanned machine arguments).state.accepted)
      (plan.scanned machine arguments).channel.journal with
    ⟨none, failed, other, only⟩ | ⟨written, success, stands⟩
  · exact .inl ⟨⟨none, failed, only⟩, other⟩
  · rw [plan.threshold_scanned] at stands
    refine .inr ⟨_, written, success, ?_, rfl, stands⟩
    rw [candidates_reportOf]
    exact kept

theorem writes_of_report {report : Report}
    (written : (discover machine arguments).report = some report) :
    plan.Writes console machine arguments report (discover machine arguments).disk := by
  cases ended : (plan.scanned machine arguments).outcome with
  | error failure =>
      rw [(discover_of_failure begins ended).1.report] at written
      cases written
  | ok summary =>
      rcases discover_of_summary begins ended with ⟨unwritten, _⟩ | ⟨_, same, _, writes⟩
      · rw [unwritten.report] at written
        cases written
      · rw [same] at written
        cases written
        exact writes

end Runs

/-! ### Runs that are told to end -/

theorem Choice.observer_isQuiet (choice : Choice) : choice.observer.IsQuiet := by
  intro collection name candidate isOpen
  unfold observer collecting
  dsimp only
  split
  · rfl
  · split <;> rfl

/-- The machine on which a wish to end the program does not reach the scan. -/
def Machine.deaf (machine : Machine) : Machine := { machine with heedsSignals := false }

theorem Plan.channel_deaf (plan : Plan) (machine : Machine) (arguments : Arguments) :
    plan.channel machine.deaf arguments = (plan.channel machine arguments).undisturbed := by
  have silent : machine.deaf.script = machine.script.map Turn.undisturbed := by
    unfold Machine.deaf Machine.script
    dsimp only
    rw [if_neg (by decide)]
    split
    · rfl
    · rw [List.map_map]
      rfl
  unfold channel Channel.undisturbed Channel.fresh
  rw [silent]
  rfl

/-- Two runs that come to the same for whoever started them. -/
structure Outcome.SameEnd (outcome other : Outcome) : Prop where
  ending : outcome.ending = other.ending
  shown : outcome.shown = other.shown
  complaint : outcome.complaint = other.complaint
  disk : outcome.disk = other.disk
  report : outcome.report = other.report

theorem sameEnd_of_alike (begins : begun? machine arguments = some (plan, console))
    (alike : Navigator.Alike (plan.scanned machine arguments) (plan.scanned machine.deaf arguments)) :
    (discover machine arguments).SameEnd (discover machine.deaf arguments) := by
  have deaf : begun? machine.deaf arguments = some (plan, console) := begins
  rw [(discover_of_begun begins).2, (discover_of_begun deaf).2]
  cases ends : (plan.scanned machine arguments).outcome with
  | error failure =>
      rw [scan_of_error console ends, scan_of_error console (alike.outcome.symm.trans ends),
        alike.journal]
      exact ⟨rfl, rfl, rfl, rfl, rfl⟩
  | ok summary =>
      have reports (candidates : List Candidate) :
          reportOf machine.deaf summary candidates = reportOf machine summary candidates := rfl
      rw [scan_of_ok console ends, scan_of_ok console (alike.outcome.symm.trans ends), reports,
        alike.state, alike.journal]
      exact ⟨rfl, rfl, rfl, rfl, rfl⟩

/-- What a run does if the wish to end the program is uttered during the request with this index. The
request belongs to the last page that is fetched. If this page fails, the run ends with 1, or without
a code; if the failure is an interruption, with 130. -/
structure Plan.Heeds (plan : Plan) (machine : Machine) (arguments : Arguments) (index : Nat)
    (pager : Pager) (before : List Fetch) (fetch : Fetch) : Prop where
  ready : plan.navigator.prepared (plan.navigator.scanSink plan.choice.observer) = .ok pager
  obeys : Navigator.Obeys plan.navigator plan.choice.observer .empty (plan.channel machine arguments)
    pager index before fetch
  failed : ∀ failure, fetch.result = .error failure → failure.page?.isSome →
    (discover machine arguments).ending = .ok 1
  ruined : ∀ failure, fetch.result = .error failure → failure.isInterruption = false →
    ∀ code, (discover machine arguments).ending = .ok code → code = 1
  broken : ∀ failure, fetch.result = .error failure → failure.isInterruption = true →
    (discover machine arguments).ending = .ok 130
  interrupted : Navigator.Interrupts plan.choice.observer
      (plan.navigator.blueprint pager.client.endpoint pager.client.authenticated)
      (plan.choice.observer.after
        (plan.navigator.blueprint pager.client.endpoint pager.client.authenticated) .empty
        (Fetch.listed before)) fetch →
    (discover machine arguments).ending = .ok 130
  otherwise : ¬Navigator.Interrupts plan.choice.observer
      (plan.navigator.blueprint pager.client.endpoint pager.client.authenticated)
      (plan.choice.observer.after
        (plan.navigator.blueprint pager.client.endpoint pager.client.authenticated) .empty
        (Fetch.listed before)) fetch →
    (discover machine arguments).SameEnd (discover machine.deaf arguments)

theorem prepared_of_sent {index : Nat}
    (sent : index < (plan.scanned machine arguments).channel.requests.size) :
    ∃ pager, plan.navigator.prepared (plan.navigator.scanSink plan.choice.observer) = .ok pager := by
  unfold Plan.scanned at sent
  cases prepares : plan.navigator.prepared (plan.navigator.scanSink plan.choice.observer) with
  | ok pager => exact ⟨pager, rfl⟩
  | error failed =>
      obtain ⟨noted, scan⟩ := plan.navigator.discover_of_error plan.choice.observer true .empty
        (plan.channel machine arguments) prepares
      rw [scan] at sent
      exact absurd sent (Nat.not_lt_zero _)

theorem endingOf_failureOf {failure : Failure} (page : failure.page?.isSome) (baseUrl : String) :
    endingOf (Navigator.failureOf baseUrl failure) = .ok 1 := by
  unfold Navigator.failureOf
  cases failure with
  | pageFetch number _ | pageStatus number _ | pageShape number _ | pageEntry number _ _ =>
      split <;> rfl
  | _ => cases page

theorem endingOf_interruption {failure : Failure} (interruption : failure.isInterruption = true)
    (baseUrl : String) : endingOf (Navigator.failureOf baseUrl failure) = .ok 130 := by
  have plain : failure.page? = none := by
    cases failure with
    | pageFetch _ _ | pageStatus _ _ | pageShape _ _ | pageEntry _ _ _ => cases interruption
    | _ => rfl
  rw [Navigator.failureOf_of_page?_eq_none plain]
  unfold endingOf
  rw [interruption, if_pos rfl]

theorem heeds_of_wish (begins : begun? machine arguments = some (plan, console)) {index : Nat}
    (sent : index < (plan.scanned machine arguments).channel.requests.size)
    (wish : (plan.channel machine arguments).wish index = true) :
    ∃ pager before fetch, plan.Heeds machine arguments index pager before fetch := by
  obtain ⟨pager, ready⟩ := prepared_of_sent sent
  unfold Plan.scanned at sent
  rw [← Nat.zero_add index, ← plan.size_channel machine arguments] at sent
  obtain ⟨before, fetch, obeys⟩ :=
    Navigator.discover_obeys Collection.empty plan.choice.observer_isQuiet ready rfl sent wish
  refine ⟨pager, before, fetch, ready, obeys, ?_, ?_, ?_, ?_, ?_⟩
  · intro failure fails page
    rw [(discover_of_failure begins (obeys.failed failure fails)).2]
    exact endingOf_failureOf page _
  · intro failure fails other code ends
    rw [(discover_of_failure begins (obeys.failed failure fails)).2] at ends
    cases page : failure.page? with
    | some number =>
        rw [endingOf_failureOf (page ▸ rfl) _] at ends
        cases ends
        rfl
    | none =>
        rw [Navigator.failureOf_of_page?_eq_none page] at ends
        unfold endingOf at ends
        rw [other, if_neg Bool.false_ne_true] at ends
        split at ends
        · cases ends
          rfl
        · cases ends
  · intro failure fails interruption
    rw [(discover_of_failure begins (obeys.failed failure fails)).2]
    exact endingOf_interruption interruption _
  · intro interrupts
    exact (discover_of_failure begins (obeys.interrupted interrupts)).2
  · intro goes
    apply sameEnd_of_alike begins
    have alike := obeys.otherwise goes
    rw [← plan.channel_deaf] at alike
    exact alike

def Machine.Sends (machine : Machine) (response : Response) : Prop :=
  machine.afterwards = .response response ∨ ∃ turn ∈ machine.turns, turn.reply = .response response

/-- What comes into a report can be written: no text that the server sends, and none among the traits,
holds half of a pair alone, and the traits nest no deeper than a report can be written. -/
structure Machine.IsWritable (machine : Machine) : Prop where
  bodies : ∀ response, machine.Sends response →
    Json.hasHalf (Body.unguarded response.body.toList) = false
  traits : Json.hasHalf (machine.environment.value "GERRIT_TRAITS").toList = false
  shallow : Json.excess? 900 (machine.environment.value "GERRIT_TRAITS").toList = none

/-- The directory for the report of a run whose scan came to its end. -/
def output? (machine : Machine) (arguments : Arguments) : Option Path :=
  (begun? machine arguments).bind fun begun =>
    match (begun.1.scanned machine arguments).outcome with
    | .error _ => none
    | .ok _ => some (Path.ofText begun.1.settings.outputDirectory)

structure Outcome.Ends (outcome : Outcome) (machine : Machine) (arguments : Arguments) : Prop where
  code : machine.IsWritable → (outcome.report.isSome ↔ outcome.ending = .ok 0)
  unwritten : machine.IsWritable → outcome.report = none →
    OnlyTraces (arguments.logPath machine) (output? machine arguments) machine.disk outcome.disk
  written : machine.IsWritable → ∀ report, outcome.report = some report → ∃ plan console,
    begun? machine arguments = some (plan, console) ∧
      plan.Writes console machine arguments report outcome.disk
  interrupted : outcome.ending = .ok 130 → ∃ plan console failure,
    begun? machine arguments = some (plan, console) ∧
      (plan.scanned machine arguments).outcome = .error failure ∧ failure.isInterruption = true
  heeds : ∀ plan console index, begun? machine arguments = some (plan, console) →
    index < (plan.scanned machine arguments).channel.requests.size →
      (plan.channel machine arguments).wish index = true →
        ∃ pager before fetch, plan.Heeds machine arguments index pager before fetch

theorem Outcome.Unwritten.ends {outcome : Outcome}
    (unwritten : outcome.Unwritten (arguments.logPath machine) (output? machine arguments)
      machine.disk)
    (interrupted : outcome.ending = .ok 130 → ∃ plan console failure,
      begun? machine arguments = some (plan, console) ∧
        (plan.scanned machine arguments).outcome = .error failure ∧ failure.isInterruption = true) :
    outcome.Ends machine arguments where
  code _ := by
    rw [unwritten.report]
    exact ⟨nofun, fun success => absurd success unwritten.ending⟩
  unwritten _ _ := unwritten.only
  written _ report some := by
    rw [unwritten.report] at some
    cases some
  interrupted
  heeds _ _ _ begins sent wish := heeds_of_wish begins sent wish

open Navigator (bareMachine)

def oneProject (cancels : Bool) : Turn :=
  ⟨.response (.prompt 200 "\x7b\"a\": \x7b\x7d\x7d"), false, cancels⟩

theorem oneProject_isWritable (cancels : Bool) : (bareMachine [oneProject cancels]).IsWritable where
  bodies response sends := by
    rcases sends with after | ⟨turn, member, replies⟩
    · cases after
    · rw [List.mem_singleton.mp member] at replies
      cases replies
      decide +kernel
  traits := by cases cancels <;> decide +kernel
  shallow := by cases cancels <;> decide +kernel

def plainWords : List String := ["--server-url", "https://h", "--out", "o"]

end Command

end ProjectScan
