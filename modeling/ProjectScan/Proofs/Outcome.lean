import ProjectScan.Proofs.Observation

/-!
How a scan ends. It halts at the first project at which the observer fails or asks to stop, or after
which it is found to be cancelled; it then has told the observer of the projects up to this one and
has requested the pages up to that of this one. When there is no such project, it ends as the
listing does.
-/

namespace ProjectScan

open Observer (Answer)

/-- A scan halts at the project with this index: the observer fails or asks to stop, or the scan is
found to be cancelled, be it by the answers so far or by what `set` says of the time before. -/
def HaltsAt (answers : List Answer) (watched : Bool) (set : Nat → Bool) (index : Nat) : Prop :=
  ∃ answer ∈ answers[index]?,
    answer.verdict ≠ .ok false ∨
      watched = true ∧ (set index || (answers.take (index + 1)).any (·.cancels)) = true

def FirstHaltsAt (answers : List Answer) (watched : Bool) (set : Nat → Bool) (index : Nat) : Prop :=
  HaltsAt answers watched set index ∧ ∀ earlier < index, ¬ HaltsAt answers watched set earlier

instance (answers : List Answer) (watched : Bool) (set : Nat → Bool) (index : Nat) :
    Decidable (HaltsAt answers watched set index) :=
  inferInstanceAs (Decidable (∃ answer ∈ answers[index]?, _))

instance (answers : List Answer) (watched : Bool) (set : Nat → Bool) (index : Nat) :
    Decidable (FirstHaltsAt answers watched set index) :=
  inferInstanceAs (Decidable (HaltsAt answers watched set index ∧ ∀ earlier < index, _))

section Halting

variable {answers : List Answer} {answer : Answer} {watched : Bool} {set : Nat → Bool} {index : Nat}

theorem haltsAt_zero : HaltsAt (answer :: answers) watched set 0 ↔
    answer.verdict ≠ .ok false ∨ (watched && (set 0 || answer.cancels)) = true := by
  unfold HaltsAt
  rw [List.getElem?_cons_zero, List.take_succ_cons, List.take_zero, List.any_cons, List.any_nil,
    Bool.or_false, Bool.and_eq_true]
  constructor
  · rintro ⟨other, same, halts⟩
    cases same
    exact halts
  · intro halts
    exact ⟨answer, rfl, halts⟩

theorem haltsAt_succ : HaltsAt (answer :: answers) watched set (index + 1) ↔
    HaltsAt answers watched (fun earlier => set (earlier + 1) || answer.cancels) index := by
  unfold HaltsAt
  rw [List.getElem?_cons_succ, List.take_succ_cons, List.any_cons]
  simp only [Bool.or_assoc]

theorem firstHaltsAt_succ (halts : FirstHaltsAt (answer :: answers) watched set (index + 1)) :
    ¬ HaltsAt (answer :: answers) watched set 0 ∧
      FirstHaltsAt answers watched (fun earlier => set (earlier + 1) || answer.cancels) index := by
  obtain ⟨last, before⟩ := halts
  refine ⟨before 0 (Nat.succ_pos index), haltsAt_succ.mp last, ?_⟩
  intro earlier less halts
  exact before (earlier + 1) (Nat.succ_lt_succ less) (haltsAt_succ.mpr halts)

end Halting

namespace Navigator

variable {σ : Type}

def ending (verdict : Except Failure Bool) (seen : Nat) : Pager.Ending :=
  match verdict with
  | .error failure => .failed failure
  | .ok true => .stopped
  | .ok false => .failed (.cancelled seen)

section Walks

variable (blueprint : Blueprint) (observer : Observer σ) (sink : Log.Sink) (watched : Bool)
  (seen : Nat) (state : σ) (pager : Pager) (channel : Channel) (journal : Log.Journal)
  (wish : Bool)

theorem walkOn_halts (after : Cursor) (project : Project)
    (halts : (observer.told blueprint state project).verdict ≠ .ok false ∨
      (watched && (channel.cancelled ||
        (wish || (observer.told blueprint state project).cancels))) = true) :
    let told := observer.told blueprint state project
    ∃ noted, pager.walkOn (visit blueprint observer sink watched) ⟨⟨true, seen, false⟩, state⟩
        (channel.overlaid journal wish) after project =
      ⟨ending told.verdict (seen + 1), ⟨⟨true, seen + 1, stops told.verdict⟩, told.state⟩, pager,
        channel.overlaid noted (wish || told.cancels)⟩ := by
  obtain ⟨noted, visited⟩ := visit_overlaid blueprint observer sink seen false state project
    channel journal wish watched
  refine ⟨noted, ?_⟩
  unfold Pager.walkOn
  rw [visited]
  generalize observer.told blueprint state project = told at halts ⊢
  obtain ⟨verdict, later, records, cancels⟩ := told
  cases verdict with
  | error failure => rfl
  | ok stop =>
      cases stop with
      | true => rfl
      | false =>
          have cancelled := halts.resolve_left fun goes => goes rfl
          dsimp only [flow]
          rw [if_pos cancelled]
          rfl

theorem walkOn_goes (after : Cursor) (project : Project)
    (goes : ¬ ((observer.told blueprint state project).verdict ≠ .ok false ∨
      (watched && (channel.cancelled ||
        (wish || (observer.told blueprint state project).cancels))) = true)) :
    let told := observer.told blueprint state project
    ∃ noted, pager.walkOn (visit blueprint observer sink watched) ⟨⟨true, seen, false⟩, state⟩
        (channel.overlaid journal wish) after project =
      pager.walk (visit blueprint observer sink watched) after
        ⟨⟨true, seen + 1, false⟩, told.state⟩ (channel.overlaid noted (wish || told.cancels)) := by
  obtain ⟨noted, visited⟩ := visit_overlaid blueprint observer sink seen false state project
    channel journal wish watched
  refine ⟨noted, ?_⟩
  unfold Pager.walkOn
  rw [visited]
  generalize observer.told blueprint state project = told at goes ⊢
  obtain ⟨verdict, later, records, cancels⟩ := told
  rw [not_or, not_not] at goes
  obtain ⟨same, polled⟩ := goes
  change verdict = .ok false at same
  subst same
  dsimp only [flow, stops]
  rw [if_neg polled]
  rfl

/-- When the scan halts at one of the projects, the walk has taken the steps up to this one. -/
theorem walk_firstHalts {cursor : Cursor} {projects : List Project}
    (found : (pager.drain cursor channel).state = projects) {index : Nat} {answer : Answer}
    (here : (observer.answers blueprint state projects)[index]? = some answer)
    (halts : FirstHaltsAt (observer.answers blueprint state projects) watched
      (fun earlier => (pager.run cursor channel (earlier + 1)).channel.cancelled || wish) index) :
    let run := pager.run cursor channel (index + 1)
    ∃ noted uttered, pager.walk (visit blueprint observer sink watched) cursor
        ⟨⟨true, seen, false⟩, state⟩ (channel.overlaid journal wish) =
      ⟨ending answer.verdict (seen + (index + 1)),
        ⟨⟨true, seen + (index + 1), stops answer.verdict⟩,
          observer.after blueprint state (projects.take (index + 1))⟩,
        run.pager, run.channel.overlaid noted uttered⟩ := by
  -- A wish uttered at the first project counts at all later ones: it moves into `wish`.
  induction projects generalizing cursor pager channel state journal wish seen index with
  | nil => cases here
  | cons project rest ih =>
      obtain ⟨after, turned, later, step, follows⟩ := Pager.next_of_drain_cons found
      obtain ⟨noted, walked⟩ := Pager.walk_project (visit blueprint observer sink watched)
        ⟨⟨true, seen, false⟩, state⟩ journal wish step
      dsimp only
      rw [walked]
      cases index with
      | zero =>
          cases here
          have halting := haltsAt_zero.mp halts.1
          rw [Pager.run_project step, Pager.run_zero, Bool.or_assoc] at halting
          rw [Pager.run_project step, Pager.run_zero]
          obtain ⟨uttered, ended⟩ := walkOn_halts blueprint observer sink watched seen state turned
            later noted wish after project halting
          exact ⟨uttered, _, ended⟩
      | succ index =>
          obtain ⟨goes, others⟩ := firstHaltsAt_succ halts
          rw [haltsAt_zero, Pager.run_project step, Pager.run_zero, Bool.or_assoc] at goes
          obtain ⟨uttered, walks⟩ := walkOn_goes blueprint observer sink watched seen state turned
            later noted wish after project goes
          rw [walks, Pager.run_project step]
          simp only [Pager.run_project step, Bool.or_assoc] at others
          obtain ⟨last, more, ended⟩ := ih (seen + 1) _ turned later uttered _ follows here others
          refine ⟨last, more, ?_⟩
          rw [ended, Nat.add_assoc, Nat.add_comm 1]
          rfl

/-- When the scan halts at none of the projects, the walk ends as the listing does. -/
theorem walk_never_halts {cursor : Cursor} {projects : List Project}
    (found : (pager.drain cursor channel).state = projects)
    (never : ∀ index, ¬ HaltsAt (observer.answers blueprint state projects) watched
      (fun earlier => (pager.run cursor channel (earlier + 1)).channel.cancelled || wish) index) :
    let traversal := pager.drain cursor channel
    ∃ noted uttered, pager.walk (visit blueprint observer sink watched) cursor
        ⟨⟨true, seen, false⟩, state⟩ (channel.overlaid journal wish) =
      ⟨traversal.ending,
        ⟨⟨true, seen + projects.length, false⟩, observer.after blueprint state projects⟩,
        traversal.pager, traversal.channel.overlaid noted uttered⟩ := by
  induction projects generalizing cursor pager channel state journal wish seen with
  | nil =>
      obtain ⟨after, turned, later, step | ⟨failure, step⟩⟩ := Pager.next_of_drain_nil found
      · obtain ⟨noted, walked⟩ := Pager.walk_done (visit blueprint observer sink watched)
          ⟨⟨true, seen, false⟩, state⟩ journal wish step
        rw [walked, Pager.drain_done step]
        exact ⟨noted, wish, rfl⟩
      · obtain ⟨noted, walked⟩ := Pager.walk_failed (visit blueprint observer sink watched)
          ⟨⟨true, seen, false⟩, state⟩ journal wish step
        rw [walked, Pager.drain_failed step]
        exact ⟨noted, wish, rfl⟩
  | cons project rest ih =>
      obtain ⟨after, turned, later, step, follows⟩ := Pager.next_of_drain_cons found
      obtain ⟨noted, walked⟩ := Pager.walk_project (visit blueprint observer sink watched)
        ⟨⟨true, seen, false⟩, state⟩ journal wish step
      have goes := never 0
      rw [Observer.answers, haltsAt_zero, Pager.run_project step, Pager.run_zero,
        Bool.or_assoc] at goes
      obtain ⟨uttered, walks⟩ := walkOn_goes blueprint observer sink watched seen state turned
        later noted wish after project goes
      have others := fun index => mt haltsAt_succ.mpr (never (index + 1))
      simp only [Pager.run_project step, Bool.or_assoc] at others
      obtain ⟨last, more, ended⟩ := ih (seen + 1) _ turned later uttered _ follows others
      refine ⟨last, more, ?_⟩
      rw [walked, walks, ended, Pager.drain_project step, List.length_cons, Nat.add_assoc,
        Nat.add_comm 1]
      rfl

end Walks

/-! ### Outcomes -/

variable (navigator : Navigator) (observer : Observer σ) (watched : Bool) (state : σ)
  (channel : Channel)

section Law

variable {endpoint : Endpoint} (resolves : Endpoint.resolve navigator.serverUrl = .ok endpoint)
  (textual : navigator.store.IsTextual) (retries : 1 ≤ navigator.maxRetries)
  (size : 1 ≤ navigator.pageSize) (pages : 1 ≤ navigator.maxPages)
include resolves textual retries size pages

theorem discover_walk :
    let pager := navigator.pagerFor endpoint navigator.credential (navigator.scanSink observer)
    let blueprint := navigator.blueprint endpoint navigator.credential.isSome
    let scan := navigator.discover observer watched state channel
    ∃ opened closed,
      let walk := pager.walk (visit blueprint observer (navigator.scanSink observer) watched) .fresh
        ⟨⟨true, 0, false⟩, state⟩ (channel.overlaid opened false)
      scan.outcome = navigator.concluded walk ∧ scan.state = walk.state.state ∧
        scan.channel = walk.channel.overlaid closed false := by
  have ready := navigator.prepared_eq_ok (navigator.scanSink observer) resolves textual retries size
    pages
  have walks := navigator.discover_of_pager observer watched state channel ready
  dsimp only at walks
  rw [blueprint_pagerFor] at walks
  exact walks

theorem discover_firstHalts {index : Nat} {answer : Answer} :
    let pager := navigator.pagerFor endpoint navigator.credential (navigator.scanSink observer)
    let projects := (pager.drain .fresh channel).state
    let blueprint := navigator.blueprint endpoint navigator.credential.isSome
    let answers := observer.answers blueprint state projects
    let set := fun index => (pager.run .fresh channel (index + 1)).channel.cancelled
    let scan := navigator.discover observer watched state channel
    let run := pager.run .fresh channel (index + 1)
    answers[index]? = some answer → FirstHaltsAt answers watched set index →
    scan.state = observer.after blueprint state (projects.take (index + 1)) ∧
      scan.channel.requests = run.channel.requests ∧
      scan.outcome = navigator.concluded
        ⟨ending answer.verdict (index + 1), ⟨⟨true, index + 1, stops answer.verdict⟩, scan.state⟩,
          run.pager, run.channel⟩ := by
  obtain ⟨opened, closed, outcome, after, later⟩ := navigator.discover_walk observer watched state
    channel resolves textual retries size pages
  dsimp only at outcome after later ⊢
  intro here halts
  obtain ⟨noted, uttered, walked⟩ := walk_firstHalts
    (navigator.blueprint endpoint navigator.credential.isSome) observer
    (navigator.scanSink observer) watched 0 state
    (navigator.pagerFor endpoint navigator.credential (navigator.scanSink observer)) channel
    opened false rfl here (by simpa only [Bool.or_false] using halts)
  rw [Nat.zero_add] at walked
  rw [walked] at outcome after later
  refine ⟨after, ?_, ?_⟩
  · rw [later]
    rfl
  · rw [outcome, after]
    rfl

theorem discover_never_halts :
    let pager := navigator.pagerFor endpoint navigator.credential (navigator.scanSink observer)
    let traversal := pager.drain .fresh channel
    let blueprint := navigator.blueprint endpoint navigator.credential.isSome
    let answers := observer.answers blueprint state traversal.state
    let set := fun index => (pager.run .fresh channel (index + 1)).channel.cancelled
    let scan := navigator.discover observer watched state channel
    (∀ index, ¬ HaltsAt answers watched set index) →
    scan.state = observer.after blueprint state traversal.state ∧
      scan.channel.requests = traversal.channel.requests ∧
      scan.outcome = navigator.concluded
        ⟨traversal.ending, ⟨⟨true, traversal.state.length, false⟩, scan.state⟩, traversal.pager,
          traversal.channel⟩ := by
  obtain ⟨opened, closed, outcome, after, later⟩ := navigator.discover_walk observer watched state
    channel resolves textual retries size pages
  dsimp only at outcome after later ⊢
  intro never
  obtain ⟨noted, uttered, walked⟩ := walk_never_halts
    (navigator.blueprint endpoint navigator.credential.isSome) observer
    (navigator.scanSink observer) watched 0 state
    (navigator.pagerFor endpoint navigator.credential (navigator.scanSink observer)) channel
    opened false rfl (by simpa only [Bool.or_false] using never)
  rw [Nat.zero_add] at walked
  rw [walked] at outcome after later
  refine ⟨after, ?_, ?_⟩
  · rw [later]
    rfl
  · rw [outcome, after]
    rfl

/-- The law of outcomes. The first project at which the scan halts is the last one the observer is
told of, its page is the last one requested, and its verdict is the outcome; a scan that halts at no
project tells the observer of all of them and ends as the listing does. -/
theorem discover_outcome
    (own : ∀ before name candidate isOpen failure,
      (observer.observe before name candidate isOpen).verdict = .error failure →
        failure.page? = none) :
    let pager := navigator.pagerFor endpoint navigator.credential (navigator.scanSink observer)
    let traversal := pager.drain .fresh channel
    let projects := traversal.state
    let blueprint := navigator.blueprint endpoint navigator.credential.isSome
    let answers := observer.answers blueprint state projects
    let set := fun index => (pager.run .fresh channel (index + 1)).channel.cancelled
    let scan := navigator.discover observer watched state channel
    let calls := navigator.calls observer watched state channel
    (∀ index answer, answers[index]? = some answer → FirstHaltsAt answers watched set index →
      let run := pager.run .fresh channel (index + 1)
      calls = (projects.take (index + 1)).map blueprint.call ∧
      (∃ fetches, Fetch.Placed fetches ∧
        scan.channel.requests.toList = channel.requests.toList ++ Fetch.requests pager fetches ∧
        (Fetch.listed fetches.dropLast).length ≤ index ∧
        (Fetch.listed fetches).take (index + 1) = projects.take (index + 1)) ∧
      scan.outcome = match answer.verdict with
        | .error failure => .error failure
        | .ok true => .ok ⟨navigator.id, endpoint, index + 1, run.pager.pagesFetched, true,
            run.pager.client.tally.total⟩
        | .ok false => .error (.cancelled (index + 1))) ∧
    ((∀ index, ¬ HaltsAt answers watched set index) →
      calls = projects.map blueprint.call ∧
      (∃ fetches, Fetch.Placed fetches ∧
        scan.channel.requests.toList = channel.requests.toList ++ Fetch.requests pager fetches ∧
        Fetch.listed fetches = projects) ∧
      traversal.ending ≠ .stopped ∧
      scan.outcome = match traversal.ending with
        | .failed failure => .error
            (if failure.page? = some 1 then .noListing pager.client.baseUrl failure else failure)
        | _ => .ok ⟨navigator.id, endpoint, projects.length, traversal.pager.pagesFetched, false,
            traversal.pager.client.tally.total⟩) := by
  have sameSink : navigator.scanSink observer.recorded = navigator.scanSink observer := rfl
  refine ⟨?_, ?_⟩
  · intro index answer here halts
    obtain ⟨_, requests, outcome⟩ := navigator.discover_firstHalts observer watched state channel
      resolves textual retries size pages here halts
    have recorded := navigator.discover_firstHalts observer.recorded watched (state, []) channel
      resolves textual retries size pages
      (by rw [Observer.answers_recorded]; exact here) (by rw [Observer.answers_recorded]; exact halts)
    have told := recorded.1
    rw [Observer.after_recorded] at told
    have within : index < _ := (List.getElem?_eq_some_iff.mp here).1
    rw [Observer.length_answers] at within
    obtain ⟨fetches, progress, before, taken⟩ := Pager.run_fetches _ channel (Nat.succ_pos index) within
    refine ⟨congrArg Prod.snd told, ⟨fetches, progress.placed, ?_, ?_, taken⟩, ?_⟩
    · rw [requests]
      exact progress.made.requests
    · exact Nat.le_of_lt_succ before
    · rw [outcome]
      obtain ⟨verdict, cancels⟩ := answer
      have member := List.mem_of_getElem? here
      cases verdict with
      | error failure =>
          obtain ⟨_, _, _, fails⟩ := observer.verdict_of_answer _ _ member
          exact congrArg Except.error (failureOf_of_page?_eq_none (own _ _ _ _ _ fails) _)
      | ok stop =>
          cases stop with
          | false => rfl
          | true =>
              have ends := progress.made.recounts.endpoint
              dsimp only [concluded, ending, stops]
              rw [ends]
              rfl
  · intro never
    obtain ⟨_, requests, outcome⟩ := navigator.discover_never_halts observer watched state channel
      resolves textual retries size pages never
    have recorded := navigator.discover_never_halts observer.recorded watched (state, []) channel
      resolves textual retries size pages (by rw [Observer.answers_recorded]; exact never)
    have told := recorded.1
    rw [Observer.after_recorded] at told
    obtain ⟨fetches, step, finished, ended, listed⟩ := Pager.drain_ended
      (navigator.pagerFor endpoint navigator.credential (navigator.scanSink observer)) channel
    have progress := finished.progress
    refine ⟨congrArg Prod.snd told, ⟨fetches, progress.placed, ?_, listed⟩, ?_, ?_⟩
    · rw [requests]
      exact progress.made.requests
    · intro stopped
      rw [stopped] at ended
      exact ended
    · rw [outcome]
      have ends := progress.made.recounts.endpoint
      have base := progress.made.recounts.baseUrl
      dsimp only [concluded]
      rw [ends, base]
      rfl

end Law

theorem discover_outcome_twoPages :
    (plain.calls untilSecond true 0 Channel.twoPages).map (·.name) = ["a", "b"] ∧
      ∃ summary, (plain.discover untilSecond true 0 Channel.twoPages).outcome = .ok summary ∧
        summary.projectsSeen = 2 ∧ summary.pagesFetched = 2 ∧ summary.stoppedEarly = true := by
  have resolves : Endpoint.resolve plain.serverUrl =
      .ok ⟨"http://h", "http://h", "http://h/a"⟩ := by decide +kernel
  have own : ∀ before name candidate isOpen failure,
      (untilSecond.observe before name candidate isOpen).verdict = .error failure →
        failure.page? = none := nofun
  have law := plain.discover_outcome untilSecond true 0 Channel.twoPages resolves nofun
    (by decide) (by decide) (by decide) own
  obtain ⟨calls, _, outcome⟩ := law.1 1 ⟨.ok true, false⟩ (by decide +kernel) (by decide +kernel)
  refine ⟨?_, _, outcome, ?_⟩
  · rw [calls]
    decide +kernel
  · decide +kernel

end Navigator

end ProjectScan
