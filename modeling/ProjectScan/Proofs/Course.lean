import ProjectScan.Proofs.Passage
import ProjectScan.Proofs.Repetition

/-!
The course of a scan with a pager. Either it halts at a project, and then it has told its observer of
the projects up to this one and fetched the pages up to that of this one; or it tells of every project
and ends as the listing does.
-/

namespace ProjectScan

/-- As long as projects are left, a run stands behind the last of them that it took. -/
theorem Pager.run_standing (pager : Pager) (channel : Channel) {count : Nat}
    (enough : count ≤ (pager.drain .fresh channel).state.length) :
    let run := pager.run .fresh channel count
    ∃ fetches, Standing pager channel fetches ((pager.drain .fresh channel).state.take count)
      run.cursor run.pager run.channel := by
  have taken := pager.run_projects .fresh channel count
  rcases run_advances count (Standing.fresh : Standing pager channel [] [] .fresh pager channel) with
    ⟨_, _, fetches, stands⟩ | ⟨fewer, _⟩
  · rw [List.nil_append, taken] at stands
    exact ⟨fetches, stands⟩
  · rw [taken, List.length_take, Nat.min_eq_left enough] at fewer
    exact absurd fewer (Nat.lt_irrefl count)

structure Fetch.AllRead (fetches : List Fetch) (pager : Pager) : Prop where
  counted : pager.pagesFetched = fetches.length
  read : ∀ fetch ∈ fetches, ∃ page, fetch.result = .ok page

theorem Fetch.allRead_concat {fetches : List Fetch} {fetch : Fetch} {page : Page} {pager : Pager}
    (counted : pager.pagesFetched = fetches.length + 1)
    (steady : ∀ earlier ∈ fetches, earlier.goesOn = true) (found : fetch.result = .ok page) :
    AllRead (fetches ++ [fetch]) pager where
  counted := by rw [counted, List.length_append, List.length_singleton]
  read := by
    intro other member
    rcases List.mem_append.mp member with among | new
    · cases result : other.result with
      | ok page => exact ⟨page, rfl⟩
      | error failure =>
          have goes := steady other among
          rw [goesOn_of_error result] at goes
          cases goes
    · rw [List.mem_singleton.mp new]
      exact ⟨page, found⟩

theorem Standing.allRead {start pager : Pager} {channel later : Channel} {fetches : List Fetch}
    {yielded : List Project} {cursor : Cursor}
    (stands : Standing start channel fetches yielded cursor pager later) (some : yielded ≠ []) :
    fetches ≠ [] ∧ Fetch.AllRead fetches pager ∧ yielded <+: Fetch.listed fetches := by
  cases stands with
  | fresh => exact absurd rfl some
  | within progress same steady found order begun =>
      refine ⟨List.concat_ne_nil _ _, Fetch.allRead_concat (by rw [same]) steady found, ?_⟩
      exact ⟨_, order⟩

namespace Navigator

variable {σ : Type} (navigator : Navigator) (observer : Observer σ) (watched : Bool) (state : σ)
  (channel : Channel)

/-- The scan has told its observer of these projects and concludes as this walk does. -/
structure Concludes (blueprint : Blueprint) (projects : List Project) (walk : Pager.Walk (Visit σ)) :
    Prop where
  told : (navigator.discover observer watched state channel).state =
    observer.after blueprint state projects
  calls : navigator.calls observer watched state channel = projects.map blueprint.call
  line : ∃ noted uttered, (navigator.discover observer watched state channel).channel =
    walk.channel.overlaid noted uttered
  outcome : (navigator.discover observer watched state channel).outcome = navigator.concluded walk

theorem Concludes.names {navigator : Navigator} {observer : Observer σ} {watched : Bool} {state : σ}
    {channel : Channel} {blueprint : Blueprint} {projects : List Project}
    {walk : Pager.Walk (Visit σ)}
    (concludes : navigator.Concludes observer watched state channel blueprint projects walk) :
    (navigator.calls observer watched state channel).map (·.name) = projects.map (·.name) := by
  rw [concludes.calls, List.map_map]
  rfl

theorem course_of_pager {pager : Pager}
    (ready : navigator.prepared (navigator.scanSink observer) = .ok pager) :
    let blueprint := navigator.blueprint pager.client.endpoint pager.client.authenticated
    let traversal := pager.drain .fresh channel
    let answers := observer.answers blueprint state traversal.state
    let set := fun index => (pager.run .fresh channel (index + 1)).channel.cancelled
    (∃ index answer, answers[index]? = some answer ∧ FirstHaltsAt answers watched set index ∧
      let told := traversal.state.take (index + 1)
      let run := pager.run .fresh channel (index + 1)
      navigator.Concludes observer watched state channel blueprint told
        ⟨ending answer.verdict (index + 1), ⟨⟨true, index + 1, stops answer.verdict⟩,
          observer.after blueprint state told⟩, run.pager, run.channel⟩) ∨
    (∀ index, ¬HaltsAt answers watched set index) ∧
      navigator.Concludes observer watched state channel blueprint traversal.state
        ⟨traversal.ending, ⟨⟨true, traversal.state.length, false⟩,
          observer.after blueprint state traversal.state⟩, traversal.pager, traversal.channel⟩ := by
  have sameSink : navigator.scanSink observer.recorded = navigator.scanSink observer := rfl
  obtain ⟨opened, closed, outcome, after, last⟩ :=
    navigator.discover_of_pager observer watched state channel ready
  obtain ⟨openedTold, _, _, afterTold, _⟩ :=
    navigator.discover_of_pager observer.recorded watched (state, []) channel ready
  dsimp only at outcome after last afterTold ⊢
  rw [sameSink] at afterTold
  generalize navigator.blueprint pager.client.endpoint pager.client.authenticated = blueprint
    at outcome after last afterTold ⊢
  have record (projects : List Project) :
      (observer.recorded.after blueprint (state, []) projects).2 = projects.map blueprint.call := by
    rw [Observer.after_recorded, List.nil_append]
  rcases exists_firstHaltsAt_or watched
      (observer.answers blueprint state (pager.drain .fresh channel).state)
      (fun index => (pager.run .fresh channel (index + 1)).channel.cancelled) with
    ⟨index, answer, here, halts⟩ | never
  · left
    have set : FirstHaltsAt (observer.answers blueprint state (pager.drain .fresh channel).state)
        watched (fun index => (pager.run .fresh channel (index + 1)).channel.cancelled || false)
        index := by simpa only [Bool.or_false] using halts
    have told := set
    rw [← Observer.answers_recorded observer blueprint state []] at told
    obtain ⟨noted, uttered, walked⟩ := walk_firstHalts blueprint observer
      (navigator.scanSink observer) watched 0 state pager channel opened false rfl here set
    obtain ⟨_, _, walkedTold⟩ := walk_firstHalts blueprint observer.recorded
      (navigator.scanSink observer) watched 0 (state, []) pager channel openedTold false rfl
      (by rw [Observer.answers_recorded]; exact here) told
    rw [Nat.zero_add] at walked
    rw [walked] at outcome after last
    rw [walkedTold] at afterTold
    refine ⟨index, answer, here, halts, after, ?_, ⟨closed, uttered || false, ?_⟩, outcome⟩
    · exact (congrArg Prod.snd afterTold).trans (record _)
    · rw [last]
      exact Channel.overlaid_overlaid _ _ _ _ _
  · right
    have set : ∀ index, ¬HaltsAt (observer.answers blueprint state (pager.drain .fresh channel).state)
        watched (fun index => (pager.run .fresh channel (index + 1)).channel.cancelled || false)
        index := by simpa only [Bool.or_false] using never
    have told := set
    rw [← Observer.answers_recorded observer blueprint state []] at told
    obtain ⟨noted, uttered, walked⟩ := walk_never_halts blueprint observer
      (navigator.scanSink observer) watched 0 state pager channel opened false rfl set
    obtain ⟨_, _, walkedTold⟩ := walk_never_halts blueprint observer.recorded
      (navigator.scanSink observer) watched 0 (state, []) pager channel openedTold false rfl told
    rw [Nat.zero_add] at walked
    rw [walked] at outcome after last
    rw [walkedTold] at afterTold
    refine ⟨never, after, ?_, ⟨closed, uttered || false, ?_⟩, outcome⟩
    · exact (congrArg Prod.snd afterTold).trans (record _)
    · rw [last]
      exact Channel.overlaid_overlaid _ _ _ _ _

theorem client_of_prepared {sink : Log.Sink} {pager : Pager}
    (ready : navigator.prepared sink = .ok pager) :
    pager.client.closed = false ∧ pager.client.tally.total = 0 := by
  obtain ⟨_, endpoint, credential, shape⟩ := navigator.eq_pagerFor_of_prepared ready
  rw [shape]
  exact ⟨rfl, rfl⟩

theorem traffic_of_pager {pager : Pager}
    (ready : navigator.prepared (navigator.scanSink observer) = .ok pager) :
    ∃ fetches client later, Progress pager channel fetches client later ∧
      ∃ noted uttered, (navigator.discover observer watched state channel).channel =
        later.overlaid noted uttered := by
  rcases navigator.course_of_pager observer watched state channel ready with
    ⟨index, answer, here, _, concludes⟩ | ⟨_, concludes⟩
  · have within := (List.getElem?_eq_some_iff.mp here).1
    rw [Observer.length_answers] at within
    obtain ⟨fetches, stands⟩ := pager.run_standing channel within
    exact ⟨fetches, _, _, stands.progress, concludes.line⟩
  · obtain ⟨fetches, step, ended, _, _⟩ := pager.drain_ended channel
    exact ⟨fetches, _, _, ended.progress, concludes.line⟩

end Navigator

end ProjectScan
