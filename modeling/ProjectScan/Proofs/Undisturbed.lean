import ProjectScan.Proofs.Course
import ProjectScan.Proofs.Retelling

/-!
Scans that are told to end, beside the same scans undisturbed. A scan looks at the wish to cancel only
after a project for which its observer neither failed nor asked to stop. A wish uttered while a page
is fetched therefore ends the scan at the first project of this page, unless the page has none or the
scan ends there by itself; then it does what it does undisturbed.
-/

namespace ProjectScan

def Turn.undisturbed (turn : Turn) : Turn := { turn with cancels := false }

def Channel.undisturbed (channel : Channel) : Channel :=
  { channel with turns := channel.turns.map Turn.undisturbed, cancelled := false }

def Retelling.wishless : Retelling := ⟨id, false, fun _ => rfl⟩

namespace Channel

variable (channel : Channel)

@[simp] theorem journal_undisturbed : channel.undisturbed.journal = channel.journal := rfl

theorem undisturbed_eq : channel.undisturbed = channel.retold .wishless := by
  have turn (turn : Turn) : turn.undisturbed = turn.retold .wishless := by
    obtain ⟨reply, stays, cancels⟩ := turn
    cases reply <;> cases cancels <;> rfl
  obtain ⟨turns, afterwards, requests, pauses, journal, cancelled⟩ := channel
  unfold undisturbed retold
  rw [funext turn]
  cases afterwards <;> cases cancelled <;> rfl

end Channel

theorem Client.get_undisturbed (client : Client) (channel : Channel) (path : String)
    (params : List (String × Json)) :
    client.get path params channel.undisturbed =
      ((client.get path params channel).1, (client.get path params channel).2.1,
        (client.get path params channel).2.2.undisturbed) := by
  rw [Channel.undisturbed_eq, client.get_retold, Channel.undisturbed_eq]
  obtain ⟨answer, after, later⟩ := client.get path params channel
  cases answer <;> rfl

theorem Pager.turnPage_undisturbed (pager : Pager) (taken : Nat) (channel : Channel) :
    pager.turnPage taken channel.undisturbed =
      ((pager.turnPage taken channel).1, (pager.turnPage taken channel).2.1,
        (pager.turnPage taken channel).2.2.undisturbed) := by
  unfold turnPage fetchPage
  split
  · rfl
  · simp only [Client.get_undisturbed]
    obtain ⟨answer, client, later⟩ := pager.client.get listingPath (pager.pageParams taken) channel
    cases answer with
    | error failure => rfl
    | ok answer =>
        dsimp only
        cases Page.ofAnswer _ answer.status answer.value <;> rfl

theorem Progress.cancelled {start : Pager} {channel later : Channel} {fetches : List Fetch}
    {client : Client} (progress : Progress start channel fetches client later)
    (isOpen : start.client.closed = false) :
    later.cancelled = (channel.cancelled || channel.wished (Fetch.sent fetches)) ∧
      later.requests.size = channel.requests.size + Fetch.sent fetches := by
  obtain ⟨paused, passes, _⟩ := progress.made.passes isOpen
  exact ⟨passes.cancelled, passes.requests_size⟩

theorem Channel.wished_of_lt {channel : Channel} {index count : Nat} (before : index < count)
    (wish : channel.wish index = true) : channel.wished count = true :=
  List.any_eq_true.mpr ⟨index, List.mem_range.mpr before, wish⟩

theorem Progress.noted {start : Pager} {channel later : Channel} {fetches : List Fetch}
    {client : Client} (progress : Progress start channel fetches client later)
    (journal : Log.Journal) :
    Progress start channel fetches client (later.overlaid journal false) := by
  rw [← Channel.journal_eq_overlaid]
  exact ⟨progress.made.noted journal, progress.placed, progress.increasing, progress.bounded⟩

namespace Observer

variable {σ : Type}

def IsQuiet (observer : Observer σ) : Prop :=
  ∀ state name candidate isOpen, (observer.observe state name candidate isOpen).cancels = false

theorem after_append (observer : Observer σ) (blueprint : Blueprint) (state : σ)
    (first second : List Project) :
    observer.after blueprint state (first ++ second) =
      observer.after blueprint (observer.after blueprint state first) second := by
  induction first generalizing state with
  | nil => rfl
  | cons project rest ih => exact ih _

theorem IsQuiet.recorded {observer : Observer σ} (quiet : observer.IsQuiet) :
    observer.recorded.IsQuiet := fun _ _ _ _ => quiet _ _ _ _

end Observer

namespace Navigator

variable {σ : Type}

section Visits

variable {observer : Observer σ} (quiet : observer.IsQuiet) (blueprint : Blueprint)
  (sink : Log.Sink) (seen : Nat) (state : σ)
include quiet

theorem visit_quiet (project : Project) (channel : Channel) :
    let verdict := (observer.told blueprint state project).verdict
    ∃ noted, visit blueprint observer sink true ⟨⟨true, seen, false⟩, state⟩ project channel =
      (flow verdict channel.cancelled (seen + 1),
        ⟨⟨true, seen + 1, stops verdict⟩, (observer.told blueprint state project).state⟩,
        channel.overlaid noted false) := by
  obtain ⟨noted, visited⟩ := visit_overlaid blueprint observer sink seen false state project channel
    channel.journal false true
  have silent : (observer.told blueprint state project).cancels = false := quiet _ _ _ _
  rw [Channel.overlaid_self, silent] at visited
  simp only [Bool.or_false, Bool.true_and] at visited
  exact ⟨noted, visited⟩

/-- A visit does the same undisturbed, unless it is the wish to cancel that makes it halt. -/
theorem visit_undisturbed (project : Project) (channel : Channel)
    (goes : channel.cancelled = false ∨ (observer.told blueprint state project).verdict ≠ .ok false) :
    let visited := visit blueprint observer sink true ⟨⟨true, seen, false⟩, state⟩ project channel
    visit blueprint observer sink true ⟨⟨true, seen, false⟩, state⟩ project channel.undisturbed =
      (visited.1, visited.2.1, visited.2.2.undisturbed) := by
  have silent : (observer.told blueprint state project).cancels = false := quiet _ _ _ _
  have same : observer.observe state project.name (blueprint.candidate project.name) true =
      observer.told blueprint state project := rfl
  unfold visit Session.process
  dsimp only
  rw [if_neg (by decide), same]
  generalize observer.told blueprint state project = told at silent goes ⊢
  obtain ⟨verdict, after, records, cancels⟩ := told
  change cancels = false at silent
  subst silent
  cases verdict with
  | error failure => rfl
  | ok stop =>
      cases stop with
      | true => rfl
      | false =>
          have uncancelled := goes.resolve_right fun stops => stops rfl
          dsimp only
          rw [uncancelled]
          rfl

theorem visitAll_uncancelled (projects : List Project) {channel : Channel}
    (uncancelled : channel.cancelled = false) :
    let visits := Pager.visitAll (visit blueprint observer sink true) ⟨⟨true, seen, false⟩, state⟩
      channel projects
    (∃ noted, visits.2.2 = channel.overlaid noted false) ∧
      Pager.visitAll (visit blueprint observer sink true) ⟨⟨true, seen, false⟩, state⟩
        channel.undisturbed projects = (visits.1, visits.2.1, visits.2.2.undisturbed) ∧
      (visits.1 = .go → visits.2.1 =
        ⟨⟨true, seen + projects.length, false⟩, observer.after blueprint state projects⟩) := by
  induction projects generalizing seen state channel with
  | nil => exact ⟨⟨channel.journal, channel.overlaid_self.symm⟩, rfl, fun _ => rfl⟩
  | cons project rest ih =>
      obtain ⟨noted, visited⟩ := visit_quiet quiet blueprint sink seen state project channel
      have calm := visit_undisturbed quiet blueprint sink seen state project channel (.inl uncancelled)
      dsimp only at calm
      unfold Pager.visitAll
      rw [calm, visited, uncancelled]
      have still : (channel.overlaid noted false).cancelled = false := by
        rw [Channel.cancelled_overlaid, uncancelled]
        rfl
      cases verdict : (observer.told blueprint state project).verdict with
      | error failure => exact ⟨⟨noted, rfl⟩, rfl, fun went => by cases went⟩
      | ok stop =>
          cases stop with
          | true => exact ⟨⟨noted, rfl⟩, rfl, fun went => by cases went⟩
          | false =>
              obtain ⟨⟨later, line⟩, same, goes⟩ := ih (seen + 1) _ still
              refine ⟨⟨later, line.trans (Channel.overlaid_overlaid _ _ _ _ _)⟩, same, ?_⟩
              intro went
              rw [List.length_cons, Nat.add_comm rest.length, ← Nat.add_assoc]
              exact goes went

/-- Once a wish is uttered, a page is left at its first project; undisturbed as well, if it is not the
wish that halts the scan there. -/
theorem visitAll_cancelled (project : Project) (rest : List Project) {channel : Channel}
    (cancelled : channel.cancelled = true) :
    let verdict := (observer.told blueprint state project).verdict
    let visits := Pager.visitAll (visit blueprint observer sink true) ⟨⟨true, seen, false⟩, state⟩
      channel (project :: rest)
    (∃ noted, visits = (flow verdict true (seen + 1),
      ⟨⟨true, seen + 1, stops verdict⟩, (observer.told blueprint state project).state⟩,
      channel.overlaid noted false)) ∧
      (verdict ≠ .ok false →
        Pager.visitAll (visit blueprint observer sink true) ⟨⟨true, seen, false⟩, state⟩
          channel.undisturbed (project :: rest) = (visits.1, visits.2.1, visits.2.2.undisturbed)) := by
  obtain ⟨noted, visited⟩ := visit_quiet quiet blueprint sink seen state project channel
  have calm := visit_undisturbed quiet blueprint sink seen state project channel
  dsimp only at calm
  unfold Pager.visitAll
  rw [visited, cancelled] at calm ⊢
  cases verdict : (observer.told blueprint state project).verdict with
  | error failure =>
      rw [verdict] at calm
      refine ⟨⟨noted, rfl⟩, fun other => ?_⟩
      rw [calm (.inr other)]
      rfl
  | ok stop =>
      rw [verdict] at calm
      refine ⟨⟨noted, ?_⟩, fun other => ?_⟩
      · cases stop <;> rfl
      · rw [calm (.inr other)]
        cases stop <;> rfl

end Visits

/-! ### Walks -/

def undisturbedWalk (walk : Pager.Walk (Visit σ)) : Pager.Walk (Visit σ) :=
  { walk with channel := walk.channel.undisturbed }

section Walks

variable (observer : Observer σ) (blueprint : Blueprint) (state : σ)

/-- The wish to cancel halts a walk at the page of this fetch: the page has a project, and the observer
neither fails nor stops there. -/
def Interrupts (fetch : Fetch) : Prop :=
  ∃ project rest, fetch.projects = project :: rest ∧
    (observer.told blueprint state project).verdict = .ok false

def endingAt (seen : Nat) (fetch : Fetch) : Pager.Ending :=
  match fetch.result with
  | .error failure => .failed failure
  | .ok page => match page.projects with
    | [] => .exhausted
    | project :: _ => ending (observer.told blueprint state project).verdict (seen + 1)

theorem endingAt_of_error (seen : Nat) {fetch : Fetch} {failure : Failure}
    (failed : fetch.result = .error failure) :
    endingAt observer blueprint state seen fetch = .failed failure := by
  unfold endingAt
  rw [failed]

theorem endingAt_of_cons (seen : Nat) {fetch : Fetch} {project : Project} {rest : List Project}
    (content : fetch.projects = project :: rest) :
    endingAt observer blueprint state seen fetch =
      ending (observer.told blueprint state project).verdict (seen + 1) := by
  unfold endingAt
  cases found : fetch.result with
  | error failure =>
      rw [Fetch.projects_of_error found] at content
      cases content
  | ok page =>
      rw [Fetch.projects_of_ok found] at content
      dsimp only
      rw [content]

/-- A walk during whose last fetch the wish to cancel was uttered, and not before: it has visited the
projects of the pages before, and at most the first one of the last page. -/
structure Heard (start : Pager) (origin : Channel) (before : List Fetch) (fetch : Fetch)
    (walk : Pager.Walk (Visit σ)) : Prop where
  earlier : ∃ client line, Progress start origin before client line ∧ line.cancelled = false
  last : Progress start origin (before ++ [fetch]) walk.pager.client walk.channel
  told : ∃ more, more <+: fetch.projects ∧ more.length ≤ 1 ∧ walk.state.state =
    observer.after blueprint state (Fetch.listed before ++ more)
  ending : walk.ending = endingAt observer blueprint
    (observer.after blueprint state (Fetch.listed before)) (Fetch.listed before).length fetch

end Walks

section Walks

variable {observer : Observer σ} (quiet : observer.IsQuiet) (blueprint : Blueprint)
  (sink : Log.Sink) (state : σ) {start pager : Pager} {origin channel : Channel}
  {fetches : List Fetch}
include quiet

theorem heard_of_turn {fetch : Fetch} {turned : Pager} {later : Channel} (left : Nat)
    (progress : Progress start origin fetches pager.client channel)
    (uncancelled : channel.cancelled = false)
    (next : Progress start origin (fetches ++ [fetch]) turned.client later)
    (turns : pager.turnPage (Fetch.listed fetches).length channel = (fetch.result, turned, later))
    (wished : later.cancelled = true) :
    let before := observer.after blueprint state (Fetch.listed fetches)
    let now : Visit σ := ⟨⟨true, (Fetch.listed fetches).length, false⟩, before⟩
    let walk := Pager.walkPages (visit blueprint observer sink true) pager
      (Fetch.listed fetches).length now channel (left + 1)
    Heard observer blueprint state start origin fetches fetch walk ∧
      (¬Interrupts observer blueprint before fetch →
        Pager.walkPages (visit blueprint observer sink true) pager (Fetch.listed fetches).length now
          channel.undisturbed (left + 1) = undisturbedWalk walk) := by
  dsimp only
  have reached : ∃ client line, Progress start origin fetches client line ∧ line.cancelled = false :=
    ⟨_, _, progress, uncancelled⟩
  have none : ∃ more, more <+: fetch.projects ∧ more.length ≤ 1 ∧
      observer.after blueprint state (Fetch.listed fetches) =
        observer.after blueprint state (Fetch.listed fetches ++ more) :=
    ⟨[], List.nil_prefix, Nat.zero_le 1, by rw [List.append_nil]⟩
  unfold Pager.walkPages
  rw [Pager.turnPage_undisturbed, turns]
  dsimp only
  cases found : fetch.result with
  | error failure =>
      exact ⟨⟨reached, next, none, (endingAt_of_error _ _ _ _ found).symm⟩, fun _ => rfl⟩
  | ok page =>
      have own := Fetch.projects_of_ok found
      dsimp only
      cases content : page.projects with
      | nil =>
          have last : page.more = false := by
            cases more : page.more with
            | false => rfl
            | true => exact absurd content (page.nonempty_of_more more)
          rw [last]
          refine ⟨⟨reached, next, none, ?_⟩, fun _ => rfl⟩
          unfold endingAt
          rw [found]
          dsimp only
          rw [content]
          rfl
      | cons project rest =>
          have told : ∃ more, more <+: fetch.projects ∧ more.length ≤ 1 ∧
              (observer.told blueprint (observer.after blueprint state (Fetch.listed fetches))
                project).state =
                observer.after blueprint state (Fetch.listed fetches ++ more) := by
            refine ⟨[project], ?_, Nat.le_refl 1, ?_⟩
            · rw [own, content]
              exact ⟨rest, rfl⟩
            · rw [Observer.after_append]
              rfl
          have ends := endingAt_of_cons observer blueprint
            (observer.after blueprint state (Fetch.listed fetches)) (Fetch.listed fetches).length
            (own.trans content)
          obtain ⟨⟨noted, visits⟩, calm⟩ := visitAll_cancelled quiet blueprint sink
            (Fetch.listed fetches).length (observer.after blueprint state (Fetch.listed fetches))
            project rest wished
          rw [visits] at calm ⊢
          cases verdict : (observer.told blueprint (observer.after blueprint state
              (Fetch.listed fetches)) project).verdict with
          | error failure =>
              rw [verdict] at ends calm
              rw [calm fun goes => by cases goes]
              exact ⟨⟨reached, next.noted noted, told, ends.symm⟩, fun _ => rfl⟩
          | ok stop =>
              rw [verdict] at ends calm
              cases stop with
              | true =>
                  rw [calm fun goes => by cases goes]
                  exact ⟨⟨reached, next.noted noted, told, ends.symm⟩, fun _ => rfl⟩
              | false =>
                  refine ⟨⟨reached, next.noted noted, told, ends.symm⟩, fun goes => ?_⟩
                  exact absurd ⟨project, rest, own.trans content, verdict⟩ goes

/-- A walk that hears no wish is the same undisturbed. One that does ends at the page that was fetched
then, and is the same undisturbed unless the wish interrupts it. -/
theorem walkPages_heard (left : Nat) (progress : Progress start origin fetches pager.client channel)
    (same : pager = { start with client := pager.client, pagesFetched := fetches.length })
    (steady : ∀ earlier ∈ fetches, earlier.goesOn = true) (uncancelled : channel.cancelled = false) :
    let now : Visit σ := ⟨⟨true, (Fetch.listed fetches).length, false⟩,
      observer.after blueprint state (Fetch.listed fetches)⟩
    let walk := Pager.walkPages (visit blueprint observer sink true) pager
      (Fetch.listed fetches).length now channel left
    let calm := Pager.walkPages (visit blueprint observer sink true) pager
      (Fetch.listed fetches).length now channel.undisturbed left
    (walk.channel.cancelled = false ∧ calm = undisturbedWalk walk) ∨
      ∃ before fetch, Heard observer blueprint state start origin before fetch walk ∧
        (¬Interrupts observer blueprint (observer.after blueprint state (Fetch.listed before)) fetch →
          calm = undisturbedWalk walk) := by
  induction left generalizing fetches pager channel with
  | zero => exact .inl ⟨uncancelled, rfl⟩
  | succ left ih =>
      rcases progress.turnPage same steady with
        ⟨_, limit⟩ | ⟨fetch, turned, afterwards, turns, next, counted, _⟩
      · dsimp only
        unfold Pager.walkPages
        rw [Pager.turnPage_undisturbed, limit]
        exact .inl ⟨uncancelled, rfl⟩
      · cases wished : afterwards.cancelled with
        | true =>
            right
            exact ⟨fetches, fetch,
              heard_of_turn quiet blueprint sink state left progress uncancelled next turns wished⟩
        | false =>
            dsimp only
            unfold Pager.walkPages
            rw [Pager.turnPage_undisturbed, turns]
            dsimp only
            cases found : fetch.result with
            | error failure => exact .inl ⟨wished, rfl⟩
            | ok page =>
                obtain ⟨⟨noted, line⟩, calm, goes⟩ := visitAll_uncancelled quiet blueprint sink
                  (Fetch.listed fetches).length
                  (observer.after blueprint state (Fetch.listed fetches)) page.projects wished
                dsimp only
                rw [calm]
                generalize Pager.visitAll _ _ afterwards page.projects = visits at line goes ⊢
                obtain ⟨flow, after, later⟩ := visits
                change later = _ at line
                subst line
                have still : (afterwards.overlaid noted false).cancelled = false := by
                  rw [Channel.cancelled_overlaid, wished]
                  rfl
                cases flow with
                | fail failure => exact .inl ⟨still, rfl⟩
                | stop => exact .inl ⟨still, rfl⟩
                | go =>
                    cases more : page.more with
                    | false => exact .inl ⟨still, rfl⟩
                    | true =>
                        have state := goes rfl
                        change after = _ at state
                        have all : Fetch.listed (fetches ++ [fetch]) =
                            Fetch.listed fetches ++ page.projects := by
                          rw [Fetch.listed_append, Fetch.listed_singleton, Fetch.projects_of_ok found]
                        have last : fetch.goesOn = true := (Fetch.goesOn_of_ok found).trans more
                        have going : ∀ earlier ∈ fetches ++ [fetch], earlier.goesOn = true :=
                          List.forall_mem_append.mpr ⟨steady, List.forall_mem_singleton.mpr last⟩
                        have turnedSame := counted page found
                        have onwards := ih (next.noted noted) (by
                          rw [List.length_append]
                          exact turnedSame) going still
                        rw [all, List.length_append, Observer.after_append, ← state] at onwards
                        exact onwards

end Walks

/-! ### Scans -/

/-- The scans come to the same: in their outcome, in what the observer made of it, and in all that was
noted. -/
structure Alike (scan other : Scan σ) : Prop where
  outcome : scan.outcome = other.outcome
  state : scan.state = other.state
  journal : scan.channel.journal = other.channel.journal

section Scans

variable (navigator : Navigator) (observer : Observer σ) (state : σ) (channel : Channel)

theorem runSession_alike (sink : Log.Sink) (pager : Pager) :
    let blueprint := navigator.blueprint pager.client.endpoint pager.client.authenticated
    let opened := channel.overlaid (Session.fresh.enter sink channel.journal).2 false
    pager.walk (visit blueprint observer sink true) .fresh ⟨⟨true, 0, false⟩, state⟩
        opened.undisturbed =
      undisturbedWalk (pager.walk (visit blueprint observer sink true) .fresh
        ⟨⟨true, 0, false⟩, state⟩ opened) →
    Alike (navigator.runSession observer sink true pager state channel)
      (navigator.runSession observer sink true pager state channel.undisturbed) := by
  intro blueprint opened same
  have calm : pager.walk (visit blueprint observer sink true) .fresh ⟨⟨true, 0, false⟩, state⟩
      { channel.undisturbed with journal := (Session.fresh.enter sink channel.journal).2 } =
      undisturbedWalk (pager.walk (visit blueprint observer sink true) .fresh
        ⟨⟨true, 0, false⟩, state⟩ opened) := by
    rw [Channel.journal_eq_overlaid]
    exact same
  have line : opened = { channel with journal := (Session.fresh.enter sink channel.journal).2 } :=
    (Channel.journal_eq_overlaid _ _).symm
  rw [line] at calm
  unfold runSession
  simp only [Session.enter, Session.fresh, Channel.journal_undisturbed] at calm ⊢
  rw [calm]
  generalize Pager.walk _ pager .fresh _ _ = walk
  obtain ⟨ended, ⟨session, after⟩, turned, later⟩ := walk
  cases ended with
  | exhausted => exact ⟨rfl, rfl, rfl⟩
  | stopped => exact ⟨rfl, rfl, rfl⟩
  | failed failure =>
      unfold reported undisturbedWalk
      dsimp only
      cases failure.page? with
      | none => exact ⟨rfl, rfl, rfl⟩
      | some page =>
          dsimp only
          split <;> exact ⟨rfl, rfl, rfl⟩

variable {navigator observer channel}

/-- A scan either hears no wish, or it hears one while it fetches a page that is then its last. It does
what it does undisturbed unless the wish interrupts it. -/
theorem discover_heard {pager : Pager} (quiet : observer.IsQuiet)
    (ready : navigator.prepared (navigator.scanSink observer) = .ok pager)
    (uncancelled : channel.cancelled = false) :
    let blueprint := navigator.blueprint pager.client.endpoint pager.client.authenticated
    let scan := navigator.discover observer true state channel
    let calm := navigator.discover observer true state channel.undisturbed
    (scan.channel.cancelled = false ∧ Alike scan calm) ∨
    ∃ journal before fetch walk,
      Heard observer blueprint state pager (channel.overlaid journal false) before fetch walk ∧
      scan.outcome = navigator.concluded walk ∧ scan.state = walk.state.state ∧
      scan.channel.requests = walk.channel.requests ∧
      (¬Interrupts observer blueprint (observer.after blueprint state (Fetch.listed before)) fetch →
        Alike scan calm) := by
  dsimp only
  obtain ⟨noted, starts⟩ := navigator.discover_of_journal observer true state channel.journal
  rw [starts channel rfl, starts channel.undisturbed rfl, ready]
  have alike := navigator.runSession_alike observer state (channel.overlaid noted false)
    (navigator.scanSink observer) pager
  obtain ⟨closed, outcome, after, line⟩ := navigator.runSession_eq observer true state
    (channel.overlaid noted false) (navigator.scanSink observer) pager
  generalize navigator.blueprint pager.client.endpoint pager.client.authenticated = blueprint
    at alike outcome after line ⊢
  generalize (Session.fresh.enter (navigator.scanSink observer)
    (channel.overlaid noted false).journal).2 = journal at alike outcome after line
  rw [Channel.overlaid_overlaid, Bool.or_false] at alike outcome after line
  have still : (channel.overlaid journal false).cancelled = false := by
    rw [Channel.cancelled_overlaid, uncancelled]
    rfl
  have begins : Progress pager (channel.overlaid journal false) [] pager.restarted.client
      (channel.overlaid journal false) := .none pager _
  have heard := walkPages_heard quiet blueprint (navigator.scanSink observer) state pager.maxPages
    begins rfl nofun still
  change (pager.walk (visit blueprint observer (navigator.scanSink observer) true) .fresh
    ⟨⟨true, 0, false⟩, state⟩ (channel.overlaid journal false)).channel.cancelled = false ∧
    pager.walk (visit blueprint observer (navigator.scanSink observer) true) .fresh
      ⟨⟨true, 0, false⟩, state⟩ (channel.overlaid journal false).undisturbed = _ ∨ _ at heard
  rcases heard with ⟨unheard, same⟩ | ⟨before, fetch, heard, same⟩
  · left
    refine ⟨?_, alike same⟩
    change (navigator.runSession _ _ _ _ _ _).channel.cancelled = false
    rw [line, Channel.cancelled_overlaid, unheard]
    rfl
  · right
    refine ⟨journal, before, fetch, _, heard, outcome, after, ?_, fun goes => alike (same goes)⟩
    change (navigator.runSession _ _ _ _ _ _).channel.requests = _
    rw [line]
    rfl

theorem heard_of_wish {pager : Pager} (quiet : observer.IsQuiet)
    (ready : navigator.prepared (navigator.scanSink observer) = .ok pager)
    (uncancelled : channel.cancelled = false) {index : Nat}
    (sent : channel.requests.size + index <
      (navigator.discover observer true state channel).channel.requests.size)
    (wish : channel.wish index = true) :
    let blueprint := navigator.blueprint pager.client.endpoint pager.client.authenticated
    let scan := navigator.discover observer true state channel
    let calm := navigator.discover observer true state channel.undisturbed
    ∃ journal before fetch walk,
      Heard observer blueprint state pager (channel.overlaid journal false) before fetch walk ∧
      scan.outcome = navigator.concluded walk ∧ scan.state = walk.state.state ∧
      scan.channel.requests = walk.channel.requests ∧
      (¬Interrupts observer blueprint (observer.after blueprint state (Fetch.listed before)) fetch →
        Alike scan calm) := by
  rcases discover_heard state quiet ready uncancelled with ⟨unheard, _⟩ | heard
  · obtain ⟨fetches, client, later, progress, noted, uttered, line⟩ :=
      navigator.traffic_of_pager observer true state channel ready
    obtain ⟨cancelled, size⟩ := progress.cancelled (navigator.client_of_prepared ready).1
    rw [line, Channel.cancelled_overlaid, Bool.or_eq_false_iff, cancelled] at unheard
    rw [line, Channel.requests_overlaid, size] at sent
    rw [Channel.wished_of_lt (Nat.lt_of_add_lt_add_left sent) wish, Bool.or_true] at unheard
    exact absurd unheard.1 nofun
  · exact heard

theorem listed_length_of_requests {pager : Pager} {channel other line later : Channel}
    {before former : List Fetch} {fetch last : Fetch} {client after : Client}
    (isOpen : pager.client.closed = false)
    (progress : Progress pager channel (before ++ [fetch]) client line)
    (beside : Progress pager other (former ++ [last]) after later)
    (same : line.requests = later.requests) :
    (Fetch.listed before).length = (Fetch.listed former).length := by
  have final {channel line : Channel} {fetches : List Fetch} {fetch : Fetch} {client : Client}
      (progress : Progress pager channel (fetches ++ [fetch]) client line) :
      line.requests.toList.getLast? = some (pager.client.requestFor Pager.listingPath
        (pager.pageParams (Fetch.listed fetches).length)) := by
    have placed := progress.placed fetches.length fetch List.getElem?_concat_length
    have positive := progress.made.attempts_pos isOpen fetch List.mem_concat_self
    rw [List.take_left] at placed
    obtain ⟨attempts, count⟩ := Nat.exists_eq_succ_of_ne_zero (Nat.ne_of_gt positive)
    rw [progress.made.requests, Fetch.requests, List.flatMap_append, List.flatMap_singleton, count,
      List.replicate_succ', ← List.append_assoc, ← List.append_assoc, List.getLast?_concat, placed.2]
  have one := final progress
  rw [same, final beside] at one
  exact (Fetch.skip_of_request (Option.some.inj one)).symm

/-- What a scan does if the wish to cancel is uttered during its request with this index. The request
belongs to the last fetch, and `before` are the fetches before that. -/
structure Obeys (navigator : Navigator) (observer : Observer σ) (state : σ) (channel : Channel)
    (pager : Pager) (index : Nat) (before : List Fetch) (fetch : Fetch) : Prop where
  last : ∃ journal client later,
    Progress pager (channel.overlaid journal false) (before ++ [fetch]) client later ∧
      (navigator.discover observer true state channel).channel.requests = later.requests
  within : Fetch.sent before ≤ index ∧ index < Fetch.sent (before ++ [fetch])
  few : (navigator.calls observer true state channel).length ≤ (Fetch.listed before).length + 1
  failed : ∀ failure, fetch.result = .error failure →
    (navigator.discover observer true state channel).outcome =
      .error (failureOf pager.client.baseUrl failure)
  interrupted : Interrupts observer
      (navigator.blueprint pager.client.endpoint pager.client.authenticated)
      (observer.after (navigator.blueprint pager.client.endpoint pager.client.authenticated) state
        (Fetch.listed before)) fetch →
    (navigator.discover observer true state channel).outcome =
      .error (.cancelled ((Fetch.listed before).length + 1))
  otherwise : ¬Interrupts observer
      (navigator.blueprint pager.client.endpoint pager.client.authenticated)
      (observer.after (navigator.blueprint pager.client.endpoint pager.client.authenticated) state
        (Fetch.listed before)) fetch →
    Alike (navigator.discover observer true state channel)
      (navigator.discover observer true state channel.undisturbed)

theorem discover_obeys {pager : Pager} (quiet : observer.IsQuiet)
    (ready : navigator.prepared (navigator.scanSink observer) = .ok pager)
    (uncancelled : channel.cancelled = false) {index : Nat}
    (sent : channel.requests.size + index <
      (navigator.discover observer true state channel).channel.requests.size)
    (wish : channel.wish index = true) :
    ∃ before fetch, Obeys navigator observer state channel pager index before fetch := by
  have isOpen := (navigator.client_of_prepared ready).1
  have recorded := (navigator.discover_recorded observer true state channel).2.2
  obtain ⟨journal, before, fetch, walk, heard, outcome, _, requests, otherwise⟩ :=
    heard_of_wish state quiet ready uncancelled sent wish
  obtain ⟨_, former, other, image, mirrored, _, after, told, _⟩ :=
    heard_of_wish (state, []) quiet.recorded ready uncancelled (recorded ▸ sent) wish
  refine ⟨before, fetch, ⟨journal, _, _, heard.last, requests⟩, ⟨?_, ?_⟩, ?_, ?_, ?_, otherwise⟩
  · obtain ⟨client, line, progress, unheard⟩ := heard.earlier
    rw [(progress.cancelled isOpen).1, Bool.or_eq_false_iff] at unheard
    by_contra less
    have wished : (channel.overlaid journal false).wished (Fetch.sent before) = true :=
      Channel.wished_of_lt (Nat.lt_of_not_le less) wish
    rw [wished] at unheard
    exact absurd unheard.2 nofun
  · rw [requests, (heard.last.cancelled isOpen).2] at sent
    exact Nat.lt_of_add_lt_add_left sent
  · obtain ⟨more, _, few, state⟩ := mirrored.told
    have same : (Fetch.listed former).length = (Fetch.listed before).length :=
      listed_length_of_requests isOpen mirrored.last heard.last
        (told.symm.trans (recorded.trans requests))
    unfold calls
    rw [after, state, Observer.after_recorded, List.nil_append, List.length_map,
      List.length_append, same]
    exact Nat.add_le_add_left few _
  · intro failure failed
    rw [outcome]
    unfold concluded
    rw [heard.ending, endingAt_of_error _ _ _ _ failed, heard.last.made.recounts.baseUrl]
  · rintro ⟨project, rest, content, verdict⟩
    rw [outcome]
    unfold concluded
    rw [heard.ending, endingAt_of_cons _ _ _ _ content, verdict]
    rfl

end Scans

end Navigator

end ProjectScan
