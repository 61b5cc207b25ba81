import ProjectScan.Command.Discovery
import ProjectScan.Proofs.Course

/-!
The accounts of a scan that came to its end. Session, pager and client count at different moments; at
the end the projects seen are the calls of the observer, the pages are the replies that were accepted
as such, the calls are the requests, and every request that brought no page was followed by a pause.
-/

namespace ProjectScan

def Reply.entries : Reply → Nat
  | .response sent => match sent.value with
    | .object entries => entries.length
    | _ => 0
  | .failure _ => 0

/-- Those of the next replies that are accepted as pages. -/
def Channel.accepted (channel : Channel) (count : Nat) : List Reply :=
  ((List.range count).map channel.reply).filter (·.page?.isSome)

theorem Reply.entries_eq {reply : Reply} {page : Page} (brings : reply.page? = some page) :
    reply.entries = page.projects.length := by
  cases reply with
  | failure failure => cases brings
  | response sent =>
      change (Page.ofAnswer 0 sent.status sent.value).toOption = some page at brings
      cases read : Page.ofAnswer 0 sent.status sent.value with
      | error failure =>
          rw [read] at brings
          cases brings
      | ok found =>
          rw [read] at brings
          cases brings
          obtain ⟨_, entries, value, listed, _⟩ := Page.ofAnswer_eq_ok_iff.mp read
          change (match sent.value with
            | .object entries => entries.length
            | _ => 0) = _
          rw [value]
          exact listed.length_eq

theorem Reply.entries_filter (replies : List Reply) :
    (replies.filter (·.page?.isSome)).map entries =
      (replies.filterMap page?).map (·.projects.length) := by
  induction replies with
  | nil => rfl
  | cons reply rest ih =>
      cases brings : reply.page? with
      | none =>
          rw [List.filter_cons_of_neg (by rw [brings]; nofun), List.filterMap_cons_none brings]
          exact ih
      | some page =>
          rw [List.filter_cons_of_pos (by rw [brings]; rfl), List.filterMap_cons_some brings,
            List.map_cons, List.map_cons, entries_eq brings, ih]

theorem Channel.entries_accepted (channel : Channel) (count : Nat) :
    (channel.accepted count).map Reply.entries =
      (channel.pages count).map (·.projects.length) := by
  unfold accepted pages
  rw [Reply.entries_filter, List.filterMap_map]
  rfl

theorem Fetch.pages_of_read {fetches : List Fetch}
    (read : ∀ fetch ∈ fetches, ∃ page, fetch.result = .ok page) :
    let pages := fetches.filterMap (·.result.toOption)
    pages.length = fetches.length ∧ listed fetches = pages.flatMap (·.projects) := by
  dsimp only
  induction fetches with
  | nil => exact ⟨rfl, rfl⟩
  | cons fetch rest ih =>
      rw [List.forall_mem_cons] at read
      obtain ⟨⟨page, found⟩, others⟩ := read
      obtain ⟨count, order⟩ := ih others
      have own : (fetch :: rest).filterMap (·.result.toOption) =
          page :: rest.filterMap (·.result.toOption) := by
        apply List.filterMap_cons_some
        rw [found]
        rfl
      rw [own, List.length_cons, List.length_cons, count, List.flatMap_cons, ← order,
        ← projects_of_ok found]
      exact ⟨rfl, rfl⟩

/-- What the summary of a scan tells of its calls, and of what passed over its channel. -/
structure Summary.Accounts {σ : Type} (summary : Summary) (channel : Channel) (scan : Scan σ)
    (calls : List Call) (paused : Nat) : Prop where
  requests : scan.channel.requests.size = channel.requests.size + summary.apiCalls
  pauses : scan.channel.pauses.size = channel.pauses.size + paused
  seen : summary.projectsSeen = calls.length
  begun : 1 ≤ summary.pagesFetched
  pages : summary.pagesFetched = (channel.accepted summary.apiCalls).length
  repeated : summary.apiCalls = summary.pagesFetched + paused
  listed : summary.projectsSeen ≤ ((channel.accepted summary.apiCalls).map Reply.entries).sum
  complete : summary.stoppedEarly = false →
    summary.projectsSeen = ((channel.accepted summary.apiCalls).map Reply.entries).sum

namespace Navigator

variable {σ : Type}

/-- A scan that came to its end: all its pages were read, and projects of them were told. -/
structure Finishes (start : Pager) (channel : Channel) (scan : Scan σ) (summary : Summary)
    (fetches : List Fetch) (told : List Project) : Prop where
  traffic : ∃ client later, Progress start channel fetches client later ∧
    (∃ noted uttered, scan.channel = later.overlaid noted uttered) ∧
      summary.apiCalls = client.tally.total
  begun : fetches ≠ []
  read : ∀ fetch ∈ fetches, ∃ page, fetch.result = .ok page
  pages : summary.pagesFetched = fetches.length
  seen : summary.projectsSeen = told.length
  initial : told <+: Fetch.listed fetches
  complete : summary.stoppedEarly = false → told = Fetch.listed fetches

/-- Pages that were all read account for the calls of the client and for the projects told of. -/
theorem Finishes.accounts {start : Pager} {channel : Channel} {scan : Scan σ} {summary : Summary}
    {fetches : List Fetch} {told : List Project} {calls : List Call}
    (finishes : Finishes start channel scan summary fetches told)
    (isOpen : start.client.closed = false) (unused : start.client.tally.total = 0)
    (called : calls.length = told.length) :
    ∃ paused, summary.Accounts channel scan calls paused := by
  obtain ⟨client, later, progress, ⟨noted, uttered, line⟩, total⟩ := finishes.traffic
  obtain ⟨paused, passes, count, counted, brought⟩ := progress.made.passes isOpen
  obtain ⟨length, order⟩ := Fetch.pages_of_read finishes.read
  rw [unused, Nat.zero_add] at counted
  have sent : summary.apiCalls = Fetch.sent fetches := total.trans counted
  rw [← sent] at passes count brought
  have entries : ((channel.accepted summary.apiCalls).map Reply.entries).sum =
      (Fetch.listed fetches).length := by
    rw [Channel.entries_accepted, brought, order, List.length_flatMap]
  have accepted : (channel.accepted summary.apiCalls).length = fetches.length := by
    have same := congrArg List.length (channel.entries_accepted summary.apiCalls)
    rw [List.length_map, List.length_map, brought, length] at same
    exact same
  refine ⟨paused, ?_, ?_, ?_, ?_, ?_, ?_, ?_, ?_⟩
  · rw [line]
    exact passes.requests_size
  · rw [line]
    exact passes.pauses_size
  · rw [finishes.seen, called]
  · rw [finishes.pages]
    exact List.length_pos_of_ne_nil finishes.begun
  · rw [finishes.pages, accepted]
  · rw [finishes.pages, count]
  · rw [finishes.seen, entries]
    exact finishes.initial.length_le
  · intro whole
    rw [finishes.seen, entries, finishes.complete whole]

variable (navigator : Navigator) (observer : Observer σ) (watched : Bool) (state : σ)
  (channel : Channel)

theorem prepared_of_finished {summary : Summary}
    (finished : (navigator.discover observer watched state channel).outcome = .ok summary) :
    ∃ pager, navigator.prepared (navigator.scanSink observer) = .ok pager := by
  cases prepares : navigator.prepared (navigator.scanSink observer) with
  | ok pager => exact ⟨pager, rfl⟩
  | error failed =>
      obtain ⟨noted, scan⟩ := navigator.discover_of_error observer watched state channel prepares
      rw [scan] at finished
      cases finished

theorem finishes_of_pager {pager : Pager} {summary : Summary}
    (ready : navigator.prepared (navigator.scanSink observer) = .ok pager)
    (finished : (navigator.discover observer watched state channel).outcome = .ok summary) :
    let blueprint := navigator.blueprint pager.client.endpoint pager.client.authenticated
    let scan := navigator.discover observer watched state channel
    ∃ fetches told, Finishes pager channel scan summary fetches told ∧
      navigator.calls observer watched state channel = told.map blueprint.call ∧
      scan.state = observer.after blueprint state told := by
  dsimp only
  rcases navigator.course_of_pager observer watched state channel ready with
    ⟨index, answer, here, _, concludes⟩ | ⟨_, concludes⟩
  · have within := (List.getElem?_eq_some_iff.mp here).1
    rw [Observer.length_answers] at within
    obtain ⟨fetches, stands⟩ := pager.run_standing channel within
    have count : ((pager.drain .fresh channel).state.take (index + 1)).length = index + 1 := by
      rw [List.length_take, Nat.min_eq_left within]
    obtain ⟨begun, read, initial⟩ := stands.allRead (List.ne_nil_of_length_eq_add_one count)
    have outcome := concludes.outcome
    rw [finished] at outcome
    obtain ⟨verdict, cancels⟩ := answer
    cases verdict with
    | error failure => cases outcome
    | ok stop =>
        cases stop with
        | false => cases outcome
        | true =>
            cases outcome
            exact ⟨fetches, _, ⟨⟨_, _, stands.progress, concludes.line, rfl⟩, begun, read.read,
              read.counted, count.symm, initial, nofun⟩, concludes.calls, concludes.told⟩
  · obtain ⟨fetches, step, ended, ends, listed⟩ := pager.drain_ended channel
    have outcome := concludes.outcome
    rw [finished] at outcome
    unfold concluded at outcome
    cases ended with
    | limited | failed =>
        rw [Pager.Ending.failed_of_ends ends] at outcome
        cases outcome
    | exhausted progress same steady found last =>
        rw [Pager.Ending.exhausted_of_ends ends] at outcome
        cases outcome
        have counted := congrArg Pager.pagesFetched same
        have read := Fetch.allRead_concat counted steady found
        refine ⟨_, _, ⟨⟨_, _, progress, concludes.line, rfl⟩, List.concat_ne_nil _ _, read.read,
          read.counted, rfl, ?_, fun _ => listed.symm⟩, concludes.calls, concludes.told⟩
        exact listed ▸ List.prefix_refl _

end Navigator

/-! ### Reports -/

def Json.member? (value : Json) (name : String) : Option Json :=
  match value with
  | .object fields => Json.field? fields name
  | _ => none

/-- A report counts its list of sources, and lists no more of them than projects were seen. -/
def Report.CountsSources (report : Report) : Prop :=
  ∃ sources stats, report.toJson.member? "sources" = some (.list sources) ∧
    (report.toJson.member? "run").bind (·.member? "stats") = some stats ∧
    stats.member? "sources" = some (.whole sources.length) ∧
    ∃ seen, stats.member? "projects_seen" = some (.whole seen) ∧ (sources.length : Int) ≤ seen

theorem Report.countsSources (report : Report)
    (few : (report.candidates.length : Int) ≤ report.run.projectsSeen) : report.CountsSources := by
  refine ⟨report.candidates.map Candidate.toJson, report.statsJson, rfl, rfl, ?_,
    report.run.projectsSeen, rfl, ?_⟩
  · rw [List.length_map]
    rfl
  · rw [List.length_map]
    exact few

namespace Command.Choice

def keeps (choice : Choice) (name : String) : Bool :=
  !choice.breaksOn name && choice.selection.accepts name

theorem accepted_after (choice : Choice) (blueprint : Blueprint) (collection : Collection)
    (projects : List Project) :
    (choice.observer.after blueprint collection projects).accepted = collection.accepted ++
      (projects.filter fun project => choice.keeps project.name).map
        fun project => blueprint.candidate project.name := by
  have once (collection : Collection) (project : Project) :
      (choice.observer.told blueprint collection project).state.accepted =
        if choice.keeps project.name then
          collection.accepted ++ [blueprint.candidate project.name]
        else collection.accepted := by
    unfold Observer.told observer collecting keeps
    dsimp only
    cases choice.breaksOn project.name <;> cases choice.selection.accepts project.name <;> rfl
  induction projects generalizing collection with
  | nil => exact (List.append_nil _).symm
  | cons project rest ih =>
      change (choice.observer.after blueprint
        (choice.observer.told blueprint collection project).state rest).accepted = _
      rw [ih, once]
      cases kept : choice.keeps project.name with
      | false => rw [List.filter_cons_of_neg (by rw [kept]; exact Bool.false_ne_true),
          if_neg Bool.false_ne_true]
      | true =>
          rw [List.filter_cons_of_pos (by exact kept), if_pos rfl, List.append_assoc]
          rfl

theorem accepted_le (choice : Choice) (blueprint : Blueprint) (collection : Collection)
    (projects : List Project) :
    (choice.observer.after blueprint collection projects).accepted.length ≤
      collection.accepted.length + projects.length := by
  rw [accepted_after, List.length_append, List.length_map]
  exact Nat.add_le_add_left (List.length_filter_le _ _) _

end Command.Choice

namespace Navigator

open Command

/-- The accounts of a finished scan. The projects seen are the observer's calls, the pages are the
accepted replies and at least one, the calls are the requests and one for each page and each pause,
and no more projects are seen than the pages have entries, as many if the scan was not stopped. A
report that is made of such a scan counts its sources, which are no more than the projects seen. -/
theorem discover_accounts (navigator : Navigator) (watched : Bool) (channel : Channel) :
    (∀ {σ : Type} (observer : Observer σ) (state : σ) (summary : Summary),
      (navigator.discover observer watched state channel).outcome = .ok summary →
        ∃ paused, summary.Accounts channel (navigator.discover observer watched state channel)
          (navigator.calls observer watched state channel) paused) ∧
    ∀ (machine : Machine) (choice : Choice) (summary : Summary),
      let scan := navigator.discover choice.observer watched .empty channel
      scan.outcome = .ok summary →
        (reportOf machine summary scan.state.accepted).CountsSources := by
  refine ⟨?_, ?_⟩
  · intro σ observer state summary finished
    obtain ⟨pager, prepares⟩ :=
      navigator.prepared_of_finished observer watched state channel finished
    obtain ⟨isOpen, unused⟩ := navigator.client_of_prepared prepares
    obtain ⟨fetches, told, finishes, calls, _⟩ :=
      navigator.finishes_of_pager observer watched state channel prepares finished
    refine finishes.accounts isOpen unused ?_
    rw [calls, List.length_map]
  · intro machine choice summary scan finished
    obtain ⟨pager, prepares⟩ :=
      navigator.prepared_of_finished choice.observer watched .empty channel finished
    obtain ⟨fetches, told, finishes, _, after⟩ :=
      navigator.finishes_of_pager choice.observer watched .empty channel prepares finished
    apply Report.countsSources
    have few := choice.accepted_le
      (navigator.blueprint pager.client.endpoint pager.client.authenticated) .empty told
    rw [← after, ← finishes.seen] at few
    have none : Collection.empty.accepted.length = 0 := rfl
    rw [none, Nat.zero_add] at few
    exact Int.ofNat_le.mpr few

def bareMachine (turns : List Turn) : Machine where
  environment := ⟨[]⟩
  homes := ⟨"/root", []⟩
  disk := ⟨[(["o"], .directory)], []⟩
  terminal := false
  heedsSignals := true
  turns
  afterwards := .failure (.transport .connection "script exhausted")
  startedAt := "2026-01-01T00:00:00+00:00"
  finishedAt := "2026-01-01T00:00:01+00:00"
  origin := ⟨"", 0, none, "MainThread", .zero false, none⟩

theorem discover_accounts_twoPages :
    (∃ summary, (plain.discover untilSecond true 0 Channel.twoPages).outcome = .ok summary ∧
      summary.apiCalls = 2 ∧ ∃ paused, summary.Accounts Channel.twoPages
        (plain.discover untilSecond true 0 Channel.twoPages)
        (plain.calls untilSecond true 0 Channel.twoPages) paused) ∧
    ∃ summary, (plain.discover (Choice.observer ⟨⟨[], ["a"], none⟩, false, false⟩) true .empty
          Channel.twoPages).outcome = .ok summary ∧
      (reportOf (bareMachine []) summary (plain.discover
        (Choice.observer ⟨⟨[], ["a"], none⟩, false, false⟩) true .empty
          Channel.twoPages).state.accepted).CountsSources := by
  refine ⟨?_, ?_⟩
  · have calls : (plain.discover untilSecond true 0 Channel.twoPages).outcome.toOption.map
        (·.apiCalls) = some 2 := by decide +kernel
    cases finished : (plain.discover untilSecond true 0 Channel.twoPages).outcome with
    | error failure =>
        rw [finished] at calls
        cases calls
    | ok summary =>
        rw [finished] at calls
        exact ⟨summary, rfl, Option.some.inj calls,
          (plain.discover_accounts true Channel.twoPages).1 untilSecond 0 summary finished⟩
  · let choice : Choice := ⟨⟨[], ["a"], none⟩, false, false⟩
    have ends : (plain.discover choice.observer true .empty
        Channel.twoPages).outcome.toOption.isSome = true := by decide +kernel
    cases finished : (plain.discover choice.observer true .empty Channel.twoPages).outcome with
    | error failure =>
        rw [finished] at ends
        cases ends
    | ok summary =>
        exact ⟨summary, rfl, (plain.discover_accounts true Channel.twoPages).2 (bareMachine [])
          choice summary finished⟩

end Navigator

end ProjectScan
