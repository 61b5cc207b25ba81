import ProjectScan.Proofs.Traffic
import ProjectScan.Proofs.Traversal

/-!
Walks over whole traversals. A walk takes the steps of an iterator one by one and visits each
project as it comes, so what it does between two projects is what one step does. Two walks whose
page turns and visits stay related come to the same end, and a walk keeps what each page turn and
each visit keeps.
-/

namespace ProjectScan.Pager

variable {σ τ : Type}

section Steps

variable (visit : σ → Project → Channel → Flow × σ × Channel) (pager : Pager) (taken : Nat)
  (state : σ) (channel : Channel)

def walkRest : Walk σ :=
  walkPages visit pager taken state channel (pager.maxPages - pager.pagesFetched)

def walkOn (after : Cursor) (project : Project) : Walk σ :=
  match visit state project channel with
  | (.go, state, channel) => pager.walk visit after state channel
  | (.stop, state, channel) => ⟨.stopped, state, pager, channel⟩
  | (.fail failure, state, channel) => ⟨.failed failure, state, pager, channel⟩

theorem turnPage_ok {page : Page} {turned : Pager} {later : Channel}
    (turns : pager.turnPage taken channel = (.ok page, turned, later)) :
    pager.pagesFetched < pager.maxPages ∧ turned.maxPages = pager.maxPages ∧
      turned.pagesFetched = pager.pagesFetched + 1 := by
  unfold turnPage at turns
  split at turns
  · cases turns
  · rename_i allowed
    dsimp only at turns
    split at turns
    · cases turns
    · cases turns
      exact ⟨Nat.lt_of_not_le allowed, rfl, rfl⟩

theorem walk_within (pending : List Project) (more : Bool) :
    pager.walk visit (.within pending taken more) state channel =
      match visitAll visit state channel pending with
      | (.fail failure, state, channel) => ⟨.failed failure, state, pager, channel⟩
      | (.stop, state, channel) => ⟨.stopped, state, pager, channel⟩
      | (.go, state, channel) =>
          if more then pager.walkRest visit (taken + pending.length) state channel
          else ⟨.exhausted, state, pager, channel⟩ := rfl

theorem walkRest_eq : pager.walkRest visit taken state channel =
    match pager.turnPage taken channel with
    | (.error failure, turned, later) => ⟨.failed failure, state, turned, later⟩
    | (.ok page, turned, later) =>
        turned.walk visit (.within page.projects taken page.more) state later := by
  unfold walkRest
  cases left : pager.maxPages - pager.pagesFetched with
  | zero =>
      have reached : pager.maxPages ≤ pager.pagesFetched := Nat.le_of_sub_eq_zero left
      unfold turnPage
      rw [if_pos reached]
      rfl
  | succ pages =>
      unfold walkPages
      cases turns : pager.turnPage taken channel with
      | mk result rest =>
          obtain ⟨turned, later⟩ := rest
          cases result with
          | error failure => rfl
          | ok page =>
              obtain ⟨_, limit, count⟩ := pager.turnPage_ok taken channel turns
              have same : pages = turned.maxPages - turned.pagesFetched := by omega
              dsimp only
              rw [walk_within, same]
              rfl

theorem walk_cons (project : Project) (pending : List Project) (more : Bool) :
    pager.walk visit (.within (project :: pending) taken more) state channel =
      pager.walkOn visit state channel (.within pending (taken + 1) more) project := by
  unfold walkOn
  have count : taken + (project :: pending).length = taken + 1 + pending.length := by
    rw [List.length_cons]
    omega
  rw [walk_within, count, visitAll]
  cases visited : visit state project channel with
  | mk flow rest =>
      obtain ⟨after, later⟩ := rest
      cases flow <;> rfl

theorem walkRest_eq_stepOver : pager.walkRest visit taken state channel =
    match pager.stepOver taken channel with
    | (.project project, after, turned, later) =>
        turned.walkOn visit state later after project
    | (.done, _, turned, later) => ⟨.exhausted, state, turned, later⟩
    | (.failed failure, _, turned, later) => ⟨.failed failure, state, turned, later⟩ := by
  rw [walkRest_eq]
  unfold stepOver
  obtain ⟨result, turned, later⟩ := pager.turnPage taken channel
  cases result with
  | error failure => rfl
  | ok page =>
      dsimp only [stepInto]
      cases content : page.projects with
      | nil =>
          have last : page.more = false := by
            cases more : page.more with
            | false => rfl
            | true => exact absurd content (page.nonempty_of_more more)
          rw [last]
          rfl
      | cons project pending => exact turned.walk_cons visit taken state later project pending _

theorem walk_eq_next (cursor : Cursor) : pager.walk visit cursor state channel =
    match pager.next cursor channel with
    | (.project project, after, turned, later) =>
        turned.walkOn visit state later after project
    | (.done, _, turned, later) => ⟨.exhausted, state, turned, later⟩
    | (.failed failure, _, turned, later) => ⟨.failed failure, state, turned, later⟩ := by
  cases cursor with
  | fresh => exact pager.restarted.walkRest_eq_stepOver visit 0 state channel
  | finished => rfl
  | within pending taken more =>
      cases pending with
      | cons project pending => exact pager.walk_cons visit taken state channel project pending more
      | nil =>
          cases more with
          | false => rfl
          | true => exact pager.walkRest_eq_stepOver visit taken state channel

variable {pager channel} (journal : Log.Journal) (wish : Bool)

theorem walk_project {cursor after : Cursor} {project : Project} {turned : Pager} {later : Channel}
    (step : pager.next cursor channel = (.project project, after, turned, later)) :
    ∃ noted, pager.walk visit cursor state (channel.overlaid journal wish) =
      turned.walkOn visit state (later.overlaid noted wish) after project := by
  obtain ⟨noted, same⟩ := pager.next_overlaid channel journal wish cursor
  refine ⟨noted, ?_⟩
  rw [walk_eq_next, same, step]

theorem walk_done {cursor after : Cursor} {turned : Pager} {later : Channel}
    (step : pager.next cursor channel = (.done, after, turned, later)) :
    ∃ noted, pager.walk visit cursor state (channel.overlaid journal wish) =
      ⟨.exhausted, state, turned, later.overlaid noted wish⟩ := by
  obtain ⟨noted, same⟩ := pager.next_overlaid channel journal wish cursor
  refine ⟨noted, ?_⟩
  rw [walk_eq_next, same, step]

theorem walk_failed {cursor after : Cursor} {failure : Failure} {turned : Pager} {later : Channel}
    (step : pager.next cursor channel = (.failed failure, after, turned, later)) :
    ∃ noted, pager.walk visit cursor state (channel.overlaid journal wish) =
      ⟨.failed failure, state, turned, later.overlaid noted wish⟩ := by
  obtain ⟨noted, same⟩ := pager.next_overlaid channel journal wish cursor
  refine ⟨noted, ?_⟩
  rw [walk_eq_next, same, step]

end Steps

section Drain

variable (pager : Pager) (channel : Channel)

def gather (projects : List Project) (project : Project) (channel : Channel) :
    Flow × List Project × Channel := (.go, projects ++ [project], channel)

theorem visitAll_gather (kept projects : List Project) :
    visitAll gather kept channel projects = (.go, kept ++ projects, channel) := by
  induction projects generalizing kept with
  | nil => rw [visitAll, List.append_nil]
  | cons project rest ih =>
      unfold visitAll gather
      dsimp only
      exact (ih (kept ++ [project])).trans (by rw [List.append_assoc]; rfl)

theorem walkPages_gather (taken : Nat) (kept : List Project) (left : Nat) :
    walkPages gather pager taken kept channel left =
      { walkPages gather pager taken [] channel left with
        state := kept ++ (walkPages gather pager taken [] channel left).state } := by
  induction left generalizing pager taken kept channel with
  | zero =>
      unfold walkPages
      rw [List.append_nil]
  | succ left ih =>
      unfold walkPages
      obtain ⟨result, turned, later⟩ := pager.turnPage taken channel
      cases result with
      | error failure =>
          dsimp only
          rw [List.append_nil]
      | ok page =>
          dsimp only
          rw [visitAll_gather, visitAll_gather]
          cases page.more with
          | false => rfl
          | true =>
              dsimp only
              rw [if_pos rfl, if_pos rfl, ih, ih _ _ _ ([] ++ page.projects), List.nil_append,
                List.append_assoc]

theorem walk_gather (cursor : Cursor) (kept : List Project) :
    pager.walk gather cursor kept channel =
      { pager.drain cursor channel with state := kept ++ (pager.drain cursor channel).state } := by
  change _ = ({ pager.walk gather cursor [] channel with
    state := kept ++ (pager.walk gather cursor [] channel).state } : Walk (List Project))
  cases cursor with
  | fresh => exact walkPages_gather pager.restarted channel 0 kept pager.maxPages
  | finished =>
      unfold walk
      rw [List.append_nil]
  | within pending taken more =>
      rw [walk_within, walk_within, visitAll_gather, visitAll_gather]
      cases more with
      | false => rfl
      | true =>
          unfold walkRest
          dsimp only
          rw [if_pos rfl, if_pos rfl, walkPages_gather, walkPages_gather _ _ _ ([] ++ pending),
            List.nil_append, List.append_assoc]

variable {pager channel}

theorem drain_project {cursor after : Cursor} {project : Project} {turned : Pager}
    {later : Channel}
    (step : pager.next cursor channel = (.project project, after, turned, later)) :
    pager.drain cursor channel =
      { turned.drain after later with state := project :: (turned.drain after later).state } := by
  change pager.walk gather cursor [] channel = _
  rw [walk_eq_next, step]
  exact turned.walk_gather later after [project]

theorem drain_done {cursor after : Cursor} {turned : Pager} {later : Channel}
    (step : pager.next cursor channel = (.done, after, turned, later)) :
    pager.drain cursor channel = ⟨.exhausted, [], turned, later⟩ := by
  change pager.walk gather cursor [] channel = _
  rw [walk_eq_next, step]

theorem drain_failed {cursor after : Cursor} {failure : Failure} {turned : Pager}
    {later : Channel}
    (step : pager.next cursor channel = (.failed failure, after, turned, later)) :
    pager.drain cursor channel = ⟨.failed failure, [], turned, later⟩ := by
  change pager.walk gather cursor [] channel = _
  rw [walk_eq_next, step]

theorem next_of_drain_cons {cursor : Cursor} {project : Project} {rest : List Project}
    (found : (pager.drain cursor channel).state = project :: rest) :
    ∃ after turned later, pager.next cursor channel = (.project project, after, turned, later) ∧
      (turned.drain after later).state = rest := by
  cases step : pager.next cursor channel with
  | mk brought stands =>
      obtain ⟨after, turned, later⟩ := stands
      cases brought with
      | project first =>
          rw [drain_project step] at found
          cases found
          exact ⟨after, turned, later, rfl, rfl⟩
      | done =>
          rw [drain_done step] at found
          cases found
      | failed failure =>
          rw [drain_failed step] at found
          cases found

theorem next_of_drain_nil {cursor : Cursor} (found : (pager.drain cursor channel).state = []) :
    ∃ after turned later, pager.next cursor channel = (.done, after, turned, later) ∨
      ∃ failure, pager.next cursor channel = (.failed failure, after, turned, later) := by
  cases step : pager.next cursor channel with
  | mk brought stands =>
      obtain ⟨after, turned, later⟩ := stands
      cases brought with
      | project first =>
          rw [drain_project step] at found
          cases found
      | done => exact ⟨after, turned, later, .inl rfl⟩
      | failed failure => exact ⟨after, turned, later, .inr ⟨failure, rfl⟩⟩

theorem run_projects (pager : Pager) (cursor : Cursor) (channel : Channel) (count : Nat) :
    (pager.run cursor channel count).projects =
      (pager.drain cursor channel).state.take count := by
  induction count generalizing pager cursor channel with
  | zero => rfl
  | succ count ih =>
      cases found : (pager.drain cursor channel).state with
      | nil =>
          obtain ⟨after, turned, later, step | ⟨failure, step⟩⟩ := next_of_drain_nil found
          · rw [run_done step]
            rfl
          · rw [run_failed step]
            rfl
      | cons project rest =>
          obtain ⟨after, turned, later, step, follows⟩ := next_of_drain_cons found
          rw [run_project step, List.take_succ_cons, ← follows]
          exact congrArg (List.cons project) (ih turned after later)

def Ending.ends : Ending → Step → Prop
  | .exhausted, .done => True
  | .failed failure, .failed other => failure = other
  | _, _ => False

theorem Ending.exhausted_of_ends {ending : Ending} (ends : ending.ends .done) :
    ending = .exhausted := by
  cases ending with
  | exhausted => rfl
  | stopped => cases ends
  | failed failure => cases ends

theorem Ending.failed_of_ends {ending : Ending} {failure : Failure}
    (ends : ending.ends (.failed failure)) : ending = .failed failure := by
  cases ending with
  | exhausted => cases ends
  | stopped => cases ends
  | failed other => exact congrArg Ending.failed ends

theorem run_drain (pager : Pager) (cursor : Cursor) (channel : Channel) :
    let traversal := pager.drain cursor channel
    let run := pager.run cursor channel (traversal.state.length + 1)
    run.pager = traversal.pager ∧ run.channel = traversal.channel ∧
      ∃ step, run.last = some step ∧ traversal.ending.ends step := by
  dsimp only
  generalize found : (pager.drain cursor channel).state = projects
  induction projects generalizing pager cursor channel with
  | nil =>
      obtain ⟨after, turned, later, step | ⟨failure, step⟩⟩ := next_of_drain_nil found
      · rw [run_done step, drain_done step]
        exact ⟨rfl, rfl, .done, rfl, trivial⟩
      · rw [run_failed step, drain_failed step]
        exact ⟨rfl, rfl, .failed failure, rfl, rfl⟩
  | cons project rest ih =>
      obtain ⟨after, turned, later, step, follows⟩ := next_of_drain_cons found
      rw [List.length_cons, run_project step, drain_project step]
      exact ih turned after later follows

theorem run_fetches (pager : Pager) (channel : Channel) {count : Nat} (begun : 0 < count)
    (enough : count ≤ (pager.drain .fresh channel).state.length) :
    let run := pager.run .fresh channel count
    ∃ fetches, Progress pager channel fetches run.pager.client run.channel ∧
      (Fetch.listed fetches.dropLast).length < count ∧
      (Fetch.listed fetches).take count = (pager.drain .fresh channel).state.take count := by
  have taken := pager.run_projects .fresh channel count
  have begins : Standing pager channel [] [] .fresh pager channel := .fresh
  have advances := run_advances count begins
  dsimp only at advances ⊢
  generalize pager.run .fresh channel count = run at taken advances ⊢
  obtain ⟨projects, last, cursor, turned, later⟩ := run
  rcases advances with ⟨going, length, fetches, stands⟩ | ⟨fewer, _⟩
  · change last = none at going
    subst going
    change projects.length = count at length
    subst length
    have follows := stands.follows
    exact ⟨fetches, stands.progress, (follows.lazy begun rfl).1, follows.yielded.symm.trans taken⟩
  · have length := congrArg List.length taken
    rw [List.length_take, Nat.min_eq_left enough] at length
    exact absurd length (Nat.ne_of_lt fewer)

/-- A whole traversal yields the projects of all pages that were requested and ends as the last of
them says. -/
theorem drain_ended (pager : Pager) (channel : Channel) :
    let traversal := pager.drain .fresh channel
    ∃ fetches step, Ended pager channel fetches step traversal.pager traversal.channel ∧
      traversal.ending.ends step ∧ Fetch.listed fetches = traversal.state := by
  have begins : Standing pager channel [] [] .fresh pager channel := .fresh
  dsimp only
  generalize whole : pager.drain .fresh channel = traversal
  have run := pager.run_drain .fresh channel
  have taken := pager.run_projects .fresh channel (traversal.state.length + 1)
  have advances := run_advances (traversal.state.length + 1) begins
  dsimp only at run advances
  rw [whole] at run taken
  obtain ⟨samePager, sameChannel, step, ended, ends⟩ := run
  rw [List.take_of_length_le (Nat.le_succ _)] at taken
  rw [samePager, sameChannel, ended, taken] at advances
  rcases advances with ⟨going, _⟩ | ⟨_, other, fetches, same, order, finished⟩
  · cases going
  · cases same
    exact ⟨fetches, step, finished, ends, order.symm⟩

end Drain

/-! ### Walks that stay related -/

/-- Two ways to visit and two pagers on their channels that stay related from one page turn or visit
to the next, unless the first has escaped. What has escaped stays so. -/
structure Simulation (left : σ → Project → Channel → Flow × σ × Channel)
    (right : τ → Project → Channel → Flow × τ × Channel) (states : σ → τ → Prop)
    (lines : Pager → Channel → Pager → Channel → Prop) (escaped : Channel → Prop) : Prop where
  limit : ∀ {first second channel other}, lines first channel second other →
    first.maxPages = second.maxPages
  turn : ∀ {first second channel other}, lines first channel second other → ∀ taken,
    escaped (first.turnPage taken channel).2.2 ∨
      (first.turnPage taken channel).1 = (second.turnPage taken other).1 ∧
        lines (first.turnPage taken channel).2.1 (first.turnPage taken channel).2.2
          (second.turnPage taken other).2.1 (second.turnPage taken other).2.2
  visit : ∀ {first second channel other state mirror}, lines first channel second other →
    states state mirror → ∀ project,
      (left state project channel).1 = (right mirror project other).1 ∧
        states (left state project channel).2.1 (right mirror project other).2.1 ∧
          lines first (left state project channel).2.2 second (right mirror project other).2.2
  turnEscaped : ∀ {channel}, escaped channel → ∀ pager taken,
    escaped (Pager.turnPage pager taken channel).2.2
  visitEscaped : ∀ {channel}, escaped channel → ∀ state project,
    escaped (left state project channel).2.2

namespace Simulation

variable {left : σ → Project → Channel → Flow × σ × Channel}
  {right : τ → Project → Channel → Flow × τ × Channel} {states : σ → τ → Prop}
  {lines : Pager → Channel → Pager → Channel → Prop} {escaped : Channel → Prop}
  {first second : Pager} {channel other : Channel} {state : σ} {mirror : τ}

theorem visitAll (simulation : Simulation left right states lines escaped)
    (related : lines first channel second other) (alike : states state mirror)
    (projects : List Project) :
    (visitAll left state channel projects).1 = (Pager.visitAll right mirror other projects).1 ∧
      states (Pager.visitAll left state channel projects).2.1
        (Pager.visitAll right mirror other projects).2.1 ∧
      lines first (Pager.visitAll left state channel projects).2.2 second
        (Pager.visitAll right mirror other projects).2.2 := by
  induction projects generalizing state mirror channel other with
  | nil => exact ⟨rfl, alike, related⟩
  | cons project rest ih =>
      have once := simulation.visit related alike project
      unfold Pager.visitAll
      generalize left state project channel = leftVisit at once ⊢
      generalize right mirror project other = rightVisit at once ⊢
      obtain ⟨flow, after, later⟩ := leftVisit
      obtain ⟨flow', after', later'⟩ := rightVisit
      obtain ⟨same, alike, related⟩ := once
      change flow = flow' at same
      subst same
      cases flow with
      | go => exact ih related alike
      | stop => exact ⟨rfl, alike, related⟩
      | fail failure => exact ⟨rfl, alike, related⟩

theorem visitAll_escaped (simulation : Simulation left right states lines escaped)
    (gone : escaped channel) (projects : List Project) :
    escaped (Pager.visitAll left state channel projects).2.2 := by
  induction projects generalizing state channel with
  | nil => exact gone
  | cons project rest ih =>
      have once := simulation.visitEscaped gone state project
      unfold Pager.visitAll
      generalize left state project channel = visited at once ⊢
      obtain ⟨flow, after, later⟩ := visited
      cases flow with
      | go => exact ih once
      | stop => exact once
      | fail failure => exact once

private theorem afterTurn_escaped (simulation : Simulation left right states lines escaped)
    {taken : Nat} (gone : escaped (first.turnPage taken channel).2.2) (pages : Nat)
    (onwards : ∀ pager taken state channel, escaped channel →
      escaped (walkPages left pager taken state channel pages).channel) :
    escaped (walkPages left first taken state channel (pages + 1)).channel := by
  unfold walkPages
  generalize first.turnPage taken channel = turn at gone ⊢
  obtain ⟨result, pager, later⟩ := turn
  cases result with
  | error failure => exact gone
  | ok page =>
      have visited : escaped (Pager.visitAll left state later page.projects).2.2 :=
        simulation.visitAll_escaped gone page.projects
      dsimp only
      generalize Pager.visitAll left state later page.projects = visits at visited ⊢
      obtain ⟨flow, after, last⟩ := visits
      cases flow with
      | go =>
          dsimp only
          split
          · exact onwards _ _ _ _ visited
          · exact visited
      | stop => exact visited
      | fail failure => exact visited

theorem walkPages_escaped (simulation : Simulation left right states lines escaped)
    {taken : Nat} (gone : escaped (first.turnPage taken channel).2.2) (pages : Nat) :
    escaped (walkPages left first taken state channel (pages + 1)).channel := by
  induction pages generalizing first taken state channel with
  | zero => exact simulation.afterTurn_escaped gone 0 fun _ _ _ _ steady => steady
  | succ pages ih =>
      refine simulation.afterTurn_escaped gone (pages + 1) ?_
      intro pager taken state channel steady
      exact ih (simulation.turnEscaped steady pager taken)

/-- Related walks come to the same end, unless the first escapes on its way. -/
theorem walkPages (simulation : Simulation left right states lines escaped)
    (related : lines first channel second other) (alike : states state mirror)
    (taken pages : Nat) :
    escaped (walkPages left first taken state channel pages).channel ∨
      (Pager.walkPages left first taken state channel pages).ending =
          (Pager.walkPages right second taken mirror other pages).ending ∧
        states (Pager.walkPages left first taken state channel pages).state
          (Pager.walkPages right second taken mirror other pages).state ∧
        lines (Pager.walkPages left first taken state channel pages).pager
          (Pager.walkPages left first taken state channel pages).channel
          (Pager.walkPages right second taken mirror other pages).pager
          (Pager.walkPages right second taken mirror other pages).channel := by
  -- Both walks may still fetch as many pages, for what relates them fixes the limit.
  induction pages generalizing first second taken state mirror channel other with
  | zero =>
      right
      unfold Pager.walkPages
      rw [simulation.limit related]
      exact ⟨rfl, alike, related⟩
  | succ pages ih =>
      rcases simulation.turn related taken with gone | ⟨same, related⟩
      · exact .inl (simulation.walkPages_escaped gone pages)
      · unfold Pager.walkPages
        generalize first.turnPage taken channel = leftTurn at same related ⊢
        generalize second.turnPage taken other = rightTurn at same related ⊢
        obtain ⟨result, pager, later⟩ := leftTurn
        obtain ⟨result', pager', later'⟩ := rightTurn
        change result = result' at same
        subst same
        cases result with
        | error failure => exact .inr ⟨rfl, alike, related⟩
        | ok page =>
            have visited := simulation.visitAll related alike page.projects
            dsimp only
            generalize Pager.visitAll left state later page.projects = leftVisits at visited ⊢
            generalize Pager.visitAll right mirror later' page.projects = rightVisits
              at visited ⊢
            obtain ⟨flow, after, last⟩ := leftVisits
            obtain ⟨flow', after', last'⟩ := rightVisits
            obtain ⟨same, alike, related⟩ := visited
            change flow = flow' at same
            subst same
            cases flow with
            | go =>
                dsimp only
                split
                · exact ih related alike _
                · exact .inr ⟨rfl, alike, related⟩
            | stop => exact .inr ⟨rfl, alike, related⟩
            | fail failure => exact .inr ⟨rfl, alike, related⟩

/-- Whole walks that begin related come to the same end, unless the first escapes on its way. -/
theorem walk_fresh (simulation : Simulation left right states lines escaped)
    (related : lines first.restarted channel second.restarted other)
    (alike : states state mirror) :
    let walk := first.walk left .fresh state channel
    let image := second.walk right .fresh mirror other
    escaped walk.channel ∨ walk.ending = image.ending ∧ states walk.state image.state ∧
      lines walk.pager walk.channel image.pager image.channel := by
  have limit : first.restarted.maxPages = second.restarted.maxPages := simulation.limit related
  change first.maxPages = second.maxPages at limit
  have whole := simulation.walkPages related alike 0 first.maxPages
  dsimp only [Pager.walk]
  rw [← limit]
  exact whole

end Simulation

/-! ### What a walk keeps -/

/-- What page turns and visits keep of the state, the pager and its channel together. -/
structure Maintains (visit : σ → Project → Channel → Flow × σ × Channel)
    (holds : σ → Pager → Channel → Prop) : Prop where
  turn : ∀ {state pager channel}, holds state pager channel → ∀ taken,
    holds state (pager.turnPage taken channel).2.1 (pager.turnPage taken channel).2.2
  visit : ∀ {state pager channel}, holds state pager channel → ∀ project,
    holds (visit state project channel).2.1 pager (visit state project channel).2.2

namespace Maintains

variable {visit : σ → Project → Channel → Flow × σ × Channel} {holds : σ → Pager → Channel → Prop}
  {pager : Pager} {channel : Channel} {state : σ}

theorem visitAll (maintains : Maintains visit holds) (held : holds state pager channel)
    (projects : List Project) :
    holds (Pager.visitAll visit state channel projects).2.1 pager
      (Pager.visitAll visit state channel projects).2.2 := by
  induction projects generalizing state channel with
  | nil => exact held
  | cons project rest ih =>
      have once := maintains.visit held project
      unfold Pager.visitAll
      generalize visit state project channel = visited at once ⊢
      obtain ⟨flow, after, later⟩ := visited
      cases flow with
      | go => exact ih once
      | stop => exact once
      | fail failure => exact once

theorem walkPages (maintains : Maintains visit holds) (held : holds state pager channel)
    (taken pages : Nat) :
    let walk := Pager.walkPages visit pager taken state channel pages
    holds walk.state walk.pager walk.channel := by
  induction pages generalizing pager taken state channel with
  | zero => exact held
  | succ pages ih =>
      have turned := maintains.turn held taken
      unfold Pager.walkPages
      generalize pager.turnPage taken channel = turn at turned ⊢
      obtain ⟨result, pager, later⟩ := turn
      cases result with
      | error failure => exact turned
      | ok page =>
          have visited := maintains.visitAll turned page.projects
          dsimp only
          generalize Pager.visitAll visit state later page.projects = visits at visited ⊢
          obtain ⟨flow, after, last⟩ := visits
          cases flow with
          | go =>
              dsimp only
              split
              · exact ih visited _
              · exact visited
          | stop => exact visited
          | fail failure => exact visited

theorem walk_fresh (maintains : Maintains visit holds) (held : holds state pager.restarted channel) :
    let walk := pager.walk visit .fresh state channel
    holds walk.state walk.pager walk.channel :=
  maintains.walkPages held 0 pager.maxPages

end Maintains

structure Keeps (visit : σ → Project → Channel → Flow × σ × Channel) (states : σ → Prop)
    (lines : Pager → Channel → Prop) : Prop where
  turn : ∀ {pager channel}, lines pager channel → ∀ taken,
    lines (pager.turnPage taken channel).2.1 (pager.turnPage taken channel).2.2
  visit : ∀ {pager channel state}, lines pager channel → states state → ∀ project,
    states (visit state project channel).2.1 ∧ lines pager (visit state project channel).2.2

theorem Keeps.walk_fresh {visit : σ → Project → Channel → Flow × σ × Channel} {states : σ → Prop}
    {lines : Pager → Channel → Prop} (keeps : Keeps visit states lines) (pager : Pager)
    (channel : Channel) (state : σ) (kept : lines pager.restarted channel) (known : states state) :
    let walk := pager.walk visit .fresh state channel
    states walk.state ∧ lines walk.pager walk.channel := by
  have maintains : Maintains visit fun state pager channel => states state ∧ lines pager channel :=
    { turn := fun held taken => ⟨held.1, keeps.turn held.2 taken⟩
      visit := fun held project => keeps.visit held.2 held.1 project }
  exact maintains.walk_fresh ⟨known, kept⟩

end ProjectScan.Pager
