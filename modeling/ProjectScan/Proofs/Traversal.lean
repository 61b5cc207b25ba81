import ProjectScan.Proofs.Fetch

/-!
How a traversal advances, whatever the server answers. Main statement: however often an iterator is
advanced, the pages fetched so far, the requests sent for them, the projects yielded and the way it
ended are in step. Each page skips exactly the projects before it and is fetched when its first
project is wanted and not before, and nothing is yielded of a page that fails.
-/

namespace ProjectScan

/-- An iterator that was advanced some times: the projects it yielded, the last step if that was no
project, and what it left. -/
structure Pager.Run where
  projects : List Project
  last : Option Step
  cursor : Cursor
  pager : Pager
  channel : Channel

namespace Pager

/-- Advances an iterator up to `count` times; after its end there is nothing to do. -/
def run (pager : Pager) (cursor : Cursor) (channel : Channel) (count : Nat) : Run :=
  match pager.takeSteps cursor channel count with
  | (projects, last, cursor, pager, channel) => ⟨projects, last, cursor, pager, channel⟩

variable {pager turned : Pager} {cursor after : Cursor} {channel later : Channel}

@[simp] theorem run_zero : pager.run cursor channel 0 = ⟨[], none, cursor, pager, channel⟩ := rfl

theorem run_project {project : Project}
    (step : pager.next cursor channel = (.project project, after, turned, later)) (count : Nat) :
    pager.run cursor channel (count + 1) =
      { turned.run after later count with
        projects := project :: (turned.run after later count).projects } := by
  unfold run
  rw [takeSteps, step]

theorem run_done (step : pager.next cursor channel = (.done, after, turned, later)) (count : Nat) :
    pager.run cursor channel (count + 1) = ⟨[], some .done, after, turned, later⟩ := by
  unfold run
  rw [takeSteps, step]

theorem run_failed {failure : Failure}
    (step : pager.next cursor channel = (.failed failure, after, turned, later)) (count : Nat) :
    pager.run cursor channel (count + 1) = ⟨[], some (.failed failure), after, turned, later⟩ := by
  unfold run
  rw [takeSteps, step]

end Pager

/-! ### Where a traversal stands -/

namespace Fetch

/-- Each fetch has the next number and skips the projects of the pages before it. -/
def Placed (fetches : List Fetch) : Prop :=
  ∀ index fetch, fetches[index]? = some fetch →
    fetch.number = index + 1 ∧ fetch.skip = (listed (fetches.take index)).length

theorem placed_concat {fetches : List Fetch} {fetch : Fetch} (placed : Placed fetches)
    (number : fetch.number = fetches.length + 1) (skip : fetch.skip = (listed fetches).length) :
    Placed (fetches ++ [fetch]) := by
  intro index other found
  rcases cases_of_getElem?_concat found with earlier | ⟨rfl, rfl⟩
  · have before := (List.getElem?_eq_some_iff.mp earlier).1
    rw [List.take_append_of_le_length (Nat.le_of_lt before)]
    exact placed index other earlier
  · rw [List.take_left]
    exact ⟨number, skip⟩

theorem skip_lt_listed {fetches : List Fetch} {fetch : Fetch} (placed : Placed fetches)
    (member : fetch ∈ fetches) (more : fetch.goesOn = true) :
    fetch.skip < (listed fetches).length := by
  obtain ⟨index, within, here⟩ := List.mem_iff_getElem.mp member
  have found : fetches[index]? = some fetch := by
    rw [List.getElem?_eq_getElem within, here]
  have some := List.length_pos_of_ne_nil (projects_ne_nil more)
  have parts : listed fetches =
      listed (fetches.take index) ++ (fetch.projects ++ listed (fetches.drop (index + 1))) := by
    have rest := List.drop_eq_getElem_cons within
    rw [here] at rest
    conv_lhs => rw [← List.take_append_drop index fetches, rest]
    rw [listed_append]
    rfl
  rw [(placed index fetch found).2, parts, List.length_append, List.length_append]
  omega

end Fetch

/-- The fetches of a traversal by the pager `start`, from the given channel on. -/
structure Progress (start : Pager) (channel : Channel) (fetches : List Fetch) (client : Client)
    (later : Channel) : Prop where
  made : Fetch.Made start start.client channel fetches client later
  placed : Fetch.Placed fetches
  increasing : (fetches.map (·.skip)).Pairwise (· < ·)
  bounded : fetches.length ≤ start.maxPages

namespace Progress

variable {start pager : Pager} {channel later : Channel} {fetches : List Fetch}

theorem none (start : Pager) (channel : Channel) :
    Progress start channel [] start.client channel :=
  ⟨.none, nofun, List.Pairwise.nil, Nat.zero_le _⟩

theorem concat {client after : Client} {afterwards : Channel} {fetch : Fetch}
    (progress : Progress start channel fetches client later)
    (steady : ∀ earlier ∈ fetches, earlier.goesOn = true)
    (allowed : fetches.length < start.maxPages)
    (number : fetch.number = fetches.length + 1)
    (skip : fetch.skip = (Fetch.listed fetches).length)
    (made : Fetch.Made start start.client channel (fetches ++ [fetch]) after afterwards) :
    Progress start channel (fetches ++ [fetch]) after afterwards := by
  refine ⟨made, Fetch.placed_concat progress.placed number skip, ?_, ?_⟩
  · rw [List.map_append, List.pairwise_append]
    refine ⟨progress.increasing, List.pairwise_singleton _ _, ?_⟩
    intro before member last isLast
    obtain ⟨earlier, among, rfl⟩ := List.mem_map.mp member
    have new : last = fetch.skip := List.mem_singleton.mp isLast
    rw [new, skip]
    exact Fetch.skip_lt_listed progress.placed among (steady earlier among)
  · rw [List.length_append, List.length_singleton]
    exact allowed

/-- When all pages so far say that others follow, the next one is fetched after their projects,
unless as many as allowed were fetched. -/
theorem turnPage (progress : Progress start channel fetches pager.client later)
    (same : pager = { start with client := pager.client, pagesFetched := fetches.length })
    (steady : ∀ earlier ∈ fetches, earlier.goesOn = true) :
    (fetches.length = start.maxPages ∧
      pager.turnPage (Fetch.listed fetches).length later =
        (.error (.pageLimit start.maxPages), pager, later)) ∨
    ∃ fetch turned afterwards,
      pager.turnPage (Fetch.listed fetches).length later = (fetch.result, turned, afterwards) ∧
      Progress start channel (fetches ++ [fetch]) turned.client afterwards ∧
      (∀ page, fetch.result = .ok page →
        turned = { start with client := turned.client, pagesFetched := fetches.length + 1 }) ∧
      ∀ failure, fetch.result = .error failure →
        turned = { start with client := turned.client, pagesFetched := fetches.length } := by
  obtain ⟨client, pageSize, maxPages, projectType, pagesFetched⟩ := pager
  cases same
  by_cases reached : start.maxPages ≤ fetches.length
  · left
    exact ⟨Nat.le_antisymm progress.bounded reached, Pager.turnPage_limit reached _ _⟩
  · right
    obtain ⟨attempts, _, sent⟩ := client.get_requests later Pager.listingPath
      (start.pageParams (Fetch.listed fetches).length)
    cases got : client.get Pager.listingPath
        (start.pageParams (Fetch.listed fetches).length) later with
    | mk answer rest =>
        obtain ⟨answering, after⟩ := rest
        rw [got] at sent
        have allowed := Nat.lt_of_not_le reached
        have counted : after.requests.size = later.requests.size + attempts := by
          have sizes := congrArg List.length sent
          simpa only [Array.length_toList, List.length_append, List.length_replicate] using sizes
        let fetch : Fetch := ⟨fetches.length + 1, (Fetch.listed fetches).length, attempts, answer⟩
        have made : Fetch.Made start start.client channel (fetches ++ [fetch]) answering after :=
          .fetched fetch progress.made got counted
        obtain ⟨journal, turns⟩ := Pager.turnPage_of_get
          ⟨client, start.pageSize, start.maxPages, start.projectType, fetches.length⟩
          (Fetch.listed fetches).length attempts allowed got
        refine ⟨fetch, _, _, turns, ?_, ?_, ?_⟩
        · rw [Pager.client_turnedBy]
          exact progress.concat steady allowed rfl rfl (made.noted journal)
        · intro page found
          rw [found]
          rfl
        · intro failure found
          rw [found]
          rfl

end Progress

/-- A traversal between two steps: not begun, or within the last page that was fetched, of which at
least one project was yielded. -/
inductive Standing (start : Pager) (channel : Channel) :
    List Fetch → List Project → Cursor → Pager → Channel → Prop
  | fresh : Standing start channel [] [] .fresh start channel
  | within {fetches : List Fetch} {fetch : Fetch} {page : Page} {yielded pending : List Project}
      {pager : Pager} {later : Channel} :
      Progress start channel (fetches ++ [fetch]) pager.client later →
      pager = { start with client := pager.client, pagesFetched := fetches.length + 1 } →
      (∀ earlier ∈ fetches, earlier.goesOn = true) →
      fetch.result = .ok page →
      yielded ++ pending = Fetch.listed (fetches ++ [fetch]) →
      pending.length < page.projects.length →
      Standing start channel (fetches ++ [fetch]) yielded
        (.within pending yielded.length page.more) pager later

/-- A traversal at its end: after a page that names no other, after as many pages as allowed, or at
a page that failed. -/
inductive Ended (start : Pager) (channel : Channel) :
    List Fetch → Step → Pager → Channel → Prop
  | exhausted {fetches : List Fetch} {fetch : Fetch} {page : Page} {pager : Pager}
      {later : Channel} :
      Progress start channel (fetches ++ [fetch]) pager.client later →
      pager = { start with client := pager.client, pagesFetched := fetches.length + 1 } →
      (∀ earlier ∈ fetches, earlier.goesOn = true) →
      fetch.result = .ok page → page.more = false →
      Ended start channel (fetches ++ [fetch]) .done pager later
  | limited {fetches : List Fetch} {pager : Pager} {later : Channel} :
      Progress start channel fetches pager.client later →
      pager = { start with client := pager.client, pagesFetched := fetches.length } →
      (∀ earlier ∈ fetches, earlier.goesOn = true) →
      fetches.length = start.maxPages →
      Ended start channel fetches (.failed (.pageLimit start.maxPages)) pager later
  | failed {fetches : List Fetch} {fetch : Fetch} {failure : Failure} {pager : Pager}
      {later : Channel} :
      Progress start channel (fetches ++ [fetch]) pager.client later →
      pager = { start with client := pager.client, pagesFetched := fetches.length } →
      (∀ earlier ∈ fetches, earlier.goesOn = true) →
      fetch.result = .error failure →
      Ended start channel (fetches ++ [fetch]) (.failed failure) pager later

/-- What one step makes of a traversal: one project more, or its end with every project of the
pages yielded. -/
def Advanced (start : Pager) (channel : Channel) (yielded : List Project) :
    Step × Cursor × Pager × Channel → Prop
  | (.project project, cursor, pager, later) =>
      ∃ fetches, Standing start channel fetches (yielded ++ [project]) cursor pager later
  | (step, _, pager, later) =>
      ∃ fetches, yielded = Fetch.listed fetches ∧ Ended start channel fetches step pager later

theorem Standing.progress {start pager : Pager} {channel later : Channel} {fetches : List Fetch}
    {yielded : List Project} {cursor : Cursor}
    (stands : Standing start channel fetches yielded cursor pager later) :
    Progress start channel fetches pager.client later := by
  cases stands with
  | fresh => exact .none start channel
  | within progress => exact progress

theorem Ended.progress {start : Pager} {channel later : Channel} {fetches : List Fetch}
    {step : Step} {pager : Pager} (ended : Ended start channel fetches step pager later) :
    Progress start channel fetches pager.client later := by
  cases ended with
  | exhausted progress => exact progress
  | limited progress => exact progress
  | failed progress => exact progress

section Steps

variable {start pager : Pager} {channel later : Channel} {fetches : List Fetch}
  {yielded : List Project}

theorem stepOver_advances (progress : Progress start channel fetches pager.client later)
    (same : pager = { start with client := pager.client, pagesFetched := fetches.length })
    (steady : ∀ earlier ∈ fetches, earlier.goesOn = true)
    (complete : yielded = Fetch.listed fetches) :
    Advanced start channel yielded (pager.stepOver yielded.length later) := by
  unfold Pager.stepOver
  subst complete
  rcases progress.turnPage same steady with
    ⟨full, turned⟩ | ⟨fetch, turned, afterwards, equal, next, counted, kept⟩
  · rw [turned]
    exact ⟨fetches, rfl, .limited progress same steady full⟩
  · rw [equal]
    cases found : fetch.result with
    | error failure =>
        refine ⟨fetches ++ [fetch], ?_, .failed next (kept failure found) steady found⟩
        rw [Fetch.listed_append, Fetch.listed_singleton, Fetch.projects_of_error found,
          List.append_nil]
    | ok page =>
        have own := Fetch.projects_of_ok found
        dsimp only [Pager.stepInto]
        cases content : page.projects with
        | nil =>
            have last : page.more = false := by
              cases more : page.more with
              | false => rfl
              | true => exact absurd content (page.nonempty_of_more more)
            refine ⟨fetches ++ [fetch], ?_, .exhausted next (counted page found) steady found last⟩
            rw [Fetch.listed_append, Fetch.listed_singleton, own, content, List.append_nil]
        | cons project pending =>
            have order : (Fetch.listed fetches ++ [project]) ++ pending =
                Fetch.listed (fetches ++ [fetch]) := by
              rw [Fetch.listed_append, Fetch.listed_singleton, own, content, List.append_assoc]
              rfl
            have begun : pending.length < page.projects.length := by
              rw [content]
              exact Nat.lt_succ_self _
            have stands := Standing.within next (counted page found) steady found order begun
            rw [List.length_append] at stands
            exact ⟨fetches ++ [fetch], stands⟩

theorem next_advances {cursor : Cursor}
    (stands : Standing start channel fetches yielded cursor pager later) :
    Advanced start channel yielded (pager.next cursor later) := by
  cases stands with
  | fresh =>
      have begins : Progress start channel [] start.restarted.client channel := .none start channel
      exact stepOver_advances begins rfl nofun rfl
  | @within fetches fetch page _ pending _ _ progress same steady found order begun =>
      cases pending with
      | cons project pending =>
          refine ⟨fetches ++ [fetch], ?_⟩
          have on : (yielded ++ [project]) ++ pending = Fetch.listed (fetches ++ [fetch]) := by
            rw [← order, List.append_assoc]
            rfl
          have stands := Standing.within progress same steady found on (by
            rw [List.length_cons] at begun
            omega)
          rw [List.length_append] at stands
          exact stands
      | nil =>
          rw [List.append_nil] at order
          cases more : page.more with
          | false => exact ⟨fetches ++ [fetch], order, .exhausted progress same steady found more⟩
          | true =>
              have all : ∀ earlier ∈ fetches ++ [fetch], earlier.goesOn = true := by
                intro earlier member
                rcases List.mem_append.mp member with among | new
                · exact steady earlier among
                · rw [List.mem_singleton.mp new, Fetch.goesOn_of_ok found]
                  exact more
              refine stepOver_advances progress ?_ all order
              rw [List.length_append]
              exact same

/-- A run keeps step with its fetches: as long as it brings projects the traversal stands, and else
it has ended. -/
theorem run_advances {cursor : Cursor} (count : Nat)
    (stands : Standing start channel fetches yielded cursor pager later) :
    let run := pager.run cursor later count
    (run.last = none ∧ run.projects.length = count ∧ ∃ after,
      Standing start channel after (yielded ++ run.projects) run.cursor run.pager run.channel) ∨
    (run.projects.length < count ∧ ∃ step after, run.last = some step ∧
      yielded ++ run.projects = Fetch.listed after ∧
      Ended start channel after step run.pager run.channel) := by
  -- `Standing` is the invariant; the projects yielded so far grow with every step.
  induction count generalizing fetches yielded cursor pager later with
  | zero =>
      left
      refine ⟨rfl, rfl, fetches, ?_⟩
      rw [Pager.run_zero, List.append_nil]
      exact stands
  | succ count ih =>
      have advanced := next_advances stands
      cases step : pager.next cursor later with
      | mk brought rest =>
          obtain ⟨after, turned, afterwards⟩ := rest
          rw [step] at advanced
          cases brought with
          | project project =>
              obtain ⟨fetched, standing⟩ := advanced
              rw [Pager.run_project step]
              rcases ih standing with
                ⟨going, length, last, stands⟩ | ⟨fewer, final, last, ended, order, outcome⟩
              · left
                refine ⟨going, congrArg Nat.succ length, last, ?_⟩
                rw [List.append_assoc] at stands
                exact stands
              · right
                refine ⟨Nat.succ_lt_succ fewer, final, last, ended, ?_, outcome⟩
                rw [List.append_assoc] at order
                exact order
          | done =>
              obtain ⟨fetched, complete, ended⟩ := advanced
              rw [Pager.run_done step]
              right
              refine ⟨Nat.succ_pos count, .done, fetched, rfl, ?_, ended⟩
              rw [List.append_nil]
              exact complete
          | failed failure =>
              obtain ⟨fetched, complete, ended⟩ := advanced
              rw [Pager.run_failed step]
              right
              refine ⟨Nat.succ_pos count, .failed failure, fetched, rfl, ?_, ended⟩
              rw [List.append_nil]
              exact complete

end Steps

/-! ### What the fetches say of a run -/

namespace Fetch

/-- The fetches are made with consecutive numbers and growing skips, and what was sent is what they
ask for. Their pages are read from the entries of objects, and a failure that names a page names
their own. -/
structure InOrder (pager : Pager) (channel : Channel) (fetches : List Fetch) (client : Client)
    (later : Channel) : Prop where
  made : Made pager pager.client channel fetches client later
  placed : Placed fetches
  increasing : (fetches.map (·.skip)).Pairwise (· < ·)
  sent : later.requests.toList = channel.requests.toList ++ requests pager fetches
  attempted : pager.client.closed = false → ∀ fetch ∈ fetches, 0 < fetch.attempts
  distinct : (fetches.map fun fetch =>
    pager.client.requestFor Pager.listingPath (pager.pageParams fetch.skip)).Nodup
  read : ∀ fetch ∈ fetches, ∀ page, fetch.result = .ok page →
    ∃ answer entries, fetch.answer = .ok answer ∧ answer.value = .object entries ∧
      List.Forall₂ Page.Lists entries page.projects ∧ page.more = entries.any Page.flags
  named : ∀ fetch ∈ fetches, ∀ failure, fetch.result = .error failure →
    (failure.page? = none ∨ failure.page? = some (fetch.number : Int)) ∧
      ∀ maxPages, failure ≠ .pageLimit maxPages

theorem skip_of_request {pager : Pager} {first second : Nat}
    (same : pager.client.requestFor Pager.listingPath (pager.pageParams first) =
      pager.client.requestFor Pager.listingPath (pager.pageParams second)) : first = second := by
  have params : pager.pageParams first = pager.pageParams second :=
    congrArg Request.params same
  unfold Pager.pageParams at params
  simp only [List.cons_append, List.cons.injEq, Prod.mk.injEq, Json.whole.injEq,
    true_and] at params
  exact Int.ofNat.inj params.1

theorem result_eq_ok {fetch : Fetch} {page : Page} (found : fetch.result = .ok page) :
    ∃ answer entries, fetch.answer = .ok answer ∧ answer.value = .object entries ∧
      List.Forall₂ Page.Lists entries page.projects ∧ page.more = entries.any Page.flags := by
  unfold result at found
  cases answered : fetch.answer with
  | error failure =>
      rw [answered] at found
      cases found
  | ok answer =>
      rw [answered] at found
      obtain ⟨_, entries, isObject, listed, more⟩ := Page.ofAnswer_eq_ok_iff.mp found
      exact ⟨answer, entries, rfl, isObject, listed, more⟩

end Fetch

theorem Progress.inOrder {pager : Pager} {channel later : Channel} {fetches : List Fetch}
    {client : Client} (progress : Progress pager channel fetches client later)
    (foreign : channel.IsForeign) : Fetch.InOrder pager channel fetches client later where
  made := progress.made
  placed := progress.placed
  increasing := progress.increasing
  sent := progress.made.requests
  attempted := progress.made.attempts_pos
  distinct := by
    rw [List.Nodup, List.pairwise_map]
    refine List.Pairwise.imp ?_ (List.pairwise_map.mp progress.increasing)
    intro first second less same
    exact Nat.ne_of_lt less (Fetch.skip_of_request same)
  read := fun _ _ _ found => Fetch.result_eq_ok found
  named := by
    intro fetch member failure failed
    exact Fetch.page?_of_result ((progress.made.isPlain foreign).1 fetch member) failed

/-- The run has taken its projects from the pages of the fetches and has ended as the last of them
says. It is still going if every step brought a project; then the last page that was fetched holds
the last of them. -/
structure Pager.Run.Follows (run : Run) (maxPages count : Nat) (fetches : List Fetch) : Prop where
  idle : count = 0 → fetches = []
  lazy : 0 < count → run.last = none →
    (Fetch.listed fetches.dropLast).length < count ∧ count ≤ (Fetch.listed fetches).length
  yielded : run.projects = (Fetch.listed fetches).take count
  steady : ∀ fetch ∈ fetches.dropLast, fetch.goesOn = true
  going : run.last = none ↔ run.projects.length = count
  complete : run.last ≠ none → run.projects = Fetch.listed fetches
  exhausted : run.last = some .done ↔ run.projects.length < count ∧
    ∃ fetch page, fetches.getLast? = some fetch ∧ fetch.result = .ok page ∧ page.more = false
  limited : ∀ limit : Int, run.last = some (.failed (.pageLimit limit)) ↔
    run.projects.length < count ∧ limit = maxPages ∧ fetches.length = maxPages ∧
      ∀ fetch ∈ fetches, fetch.goesOn = true
  failed : ∀ failure, (∀ limit, failure ≠ .pageLimit limit) →
    (run.last = some (.failed failure) ↔ run.projects.length < count ∧
      ∃ fetch, fetches.getLast? = some fetch ∧ fetch.result = .error failure)

section Law

variable {pager turned : Pager} {channel later : Channel} {fetches : List Fetch} {cursor : Cursor}

private theorem follows_of_going {yielded : List Project} {maxPages : Nat}
    (lazy : 0 < yielded.length → (Fetch.listed fetches.dropLast).length < yielded.length)
    (order : ∃ pending, yielded ++ pending = Fetch.listed fetches)
    (idle : yielded.length = 0 → fetches = [])
    (steady : ∀ fetch ∈ fetches.dropLast, fetch.goesOn = true) :
    Pager.Run.Follows ⟨yielded, none, cursor, turned, later⟩ maxPages yielded.length fetches := by
  obtain ⟨pending, order⟩ := order
  have never : ¬ yielded.length < yielded.length := Nat.lt_irrefl _
  refine ⟨idle, ?_, ?_, steady, ?_, ?_, ?_, ?_, ?_⟩
  · intro begun _
    refine ⟨lazy begun, ?_⟩
    rw [← order, List.length_append]
    exact Nat.le_add_right _ _
  · rw [← order, List.take_left]
  · exact ⟨fun _ => rfl, fun _ => rfl⟩
  · intro ended
    exact absurd rfl ended
  · exact ⟨nofun, fun ⟨impossible, _⟩ => absurd impossible never⟩
  · exact fun _ => ⟨nofun, fun ⟨impossible, _⟩ => absurd impossible never⟩
  · exact fun _ _ => ⟨nofun, fun ⟨impossible, _⟩ => absurd impossible never⟩

theorem Standing.follows {yielded : List Project}
    (stands : Standing pager channel fetches yielded cursor turned later) :
    Pager.Run.Follows ⟨yielded, none, cursor, turned, later⟩ pager.maxPages yielded.length fetches := by
  cases stands with
  | fresh => exact follows_of_going nofun ⟨[], rfl⟩ (fun _ => rfl) nofun
  | @within fetches fetch page _ pending _ _ progress same steady found order begun =>
      have lengths := congrArg List.length order
      rw [Fetch.listed_append, Fetch.listed_singleton, Fetch.projects_of_ok found, List.length_append,
        List.length_append] at lengths
      have first : (Fetch.listed fetches).length < yielded.length := by omega
      refine follows_of_going ?_ ⟨pending, order⟩ ?_ ?_
      · intro _
        rw [List.dropLast_concat]
        exact first
      · intro none
        omega
      · rw [List.dropLast_concat]
        exact steady

private theorem follows_of_ended {step : Step} {maxPages count : Nat}
    (fewer : (Fetch.listed fetches).length < count)
    (steady : ∀ fetch ∈ fetches.dropLast, fetch.goesOn = true)
    (done : step = .done ↔ ∃ fetch page, fetches.getLast? = some fetch ∧
      fetch.result = .ok page ∧ page.more = false)
    (limited : ∀ limit : Int, step = .failed (.pageLimit limit) ↔ limit = maxPages ∧
      fetches.length = maxPages ∧ ∀ fetch ∈ fetches, fetch.goesOn = true)
    (failed : ∀ failure, (∀ limit, failure ≠ .pageLimit limit) → (step = .failed failure ↔
      ∃ fetch, fetches.getLast? = some fetch ∧ fetch.result = .error failure)) :
    Pager.Run.Follows ⟨Fetch.listed fetches, some step, cursor, turned, later⟩ maxPages count
      fetches := by
  refine ⟨?_, nofun, ?_, steady, ?_, fun _ => rfl, ?_, ?_, ?_⟩
  · intro none
    omega
  · exact (List.take_of_length_le (Nat.le_of_lt fewer)).symm
  · exact ⟨nofun, fun same => absurd same (Nat.ne_of_lt fewer)⟩
  · rw [Option.some.injEq, done]
    exact (and_iff_right fewer).symm
  · intro limit
    rw [Option.some.injEq, limited]
    exact (and_iff_right fewer).symm
  · intro failure other
    rw [Option.some.injEq, failed failure other]
    exact (and_iff_right fewer).symm

theorem Ended.follows {step : Step} {count : Nat}
    (ended : Ended pager channel fetches step turned later)
    (inOrder : Fetch.InOrder pager channel fetches turned.client later)
    (fewer : (Fetch.listed fetches).length < count) :
    Pager.Run.Follows ⟨Fetch.listed fetches, some step, cursor, turned, later⟩ pager.maxPages count
      fetches := by
  cases ended with
  | @exhausted fetches fetch page _ _ progress same steady found last =>
      have stops := (Fetch.goesOn_of_ok found).trans last
      refine follows_of_ended fewer ?_ ?_ ?_ ?_
      · rw [List.dropLast_concat]
        exact steady
      · exact ⟨fun _ => ⟨fetch, page, List.getLast?_concat, found, last⟩, fun _ => rfl⟩
      · refine fun limit => ⟨nofun, ?_⟩
        rintro ⟨_, _, all⟩
        have goes := all fetch List.mem_concat_self
        rw [stops] at goes
        cases goes
      · refine fun failure _ => ⟨nofun, ?_⟩
        rintro ⟨other, isLast, failed⟩
        rw [List.getLast?_concat] at isLast
        cases isLast
        rw [found] at failed
        cases failed
  | @limited fetches _ _ progress same steady full =>
      have noPage {fetch : Fetch} (isLast : fetches.getLast? = some fetch) : fetch.goesOn = true :=
        steady fetch (List.mem_of_getLast? isLast)
      refine follows_of_ended fewer ?_ ?_ ?_ ?_
      · exact fun fetch member => steady fetch (List.dropLast_subset fetches member)
      · refine ⟨nofun, ?_⟩
        rintro ⟨fetch, page, isLast, found, last⟩
        have goes := noPage isLast
        rw [Fetch.goesOn_of_ok found, last] at goes
        cases goes
      · intro limit
        constructor
        · intro same
          cases same
          exact ⟨rfl, full, steady⟩
        · rintro ⟨rfl, _, _⟩
          rfl
      · intro failure other
        constructor
        · intro same
          cases same
          exact absurd rfl (other _)
        · rintro ⟨fetch, isLast, failed⟩
          have goes := noPage isLast
          rw [Fetch.goesOn_of_error failed] at goes
          cases goes
  | @failed fetches fetch failure _ _ progress same steady found =>
      have noLimit := (inOrder.named fetch List.mem_concat_self failure found).2
      refine follows_of_ended fewer ?_ ?_ ?_ ?_
      · rw [List.dropLast_concat]
        exact steady
      · refine ⟨nofun, ?_⟩
        rintro ⟨other, page, isLast, read, _⟩
        rw [List.getLast?_concat] at isLast
        cases isLast
        rw [found] at read
        cases read
      · intro limit
        constructor
        · intro same
          cases same
          exact absurd rfl (noLimit limit)
        · rintro ⟨_, _, all⟩
          have goes := all fetch List.mem_concat_self
          rw [Fetch.goesOn_of_error found] at goes
          cases goes
      · intro other _
        constructor
        · intro same
          cases same
          exact ⟨fetch, List.getLast?_concat, found⟩
        · rintro ⟨last, isLast, failed⟩
          rw [List.getLast?_concat] at isLast
          cases isLast
          rw [found] at failed
          cases failed
          rfl

end Law

/-- The law of traversals. Whatever the server answers and however often an iterator is advanced,
there is a list of fetches that is in order and that the run follows. -/
theorem Pager.run_follows_fetches (pager : Pager) (channel : Channel)
    (foreign : channel.IsForeign) (count : Nat) :
    let run := pager.run .fresh channel count
    ∃ fetches, Fetch.InOrder pager channel fetches run.pager.client run.channel ∧
      run.Follows pager.maxPages count fetches := by
  have begins : Standing pager channel [] [] .fresh pager channel := .fresh
  have advances := run_advances count begins
  dsimp only at advances ⊢
  generalize pager.run .fresh channel count = run at advances ⊢
  obtain ⟨projects, last, cursor, turned, later⟩ := run
  rcases advances with ⟨rfl, rfl, fetches, stands⟩ | ⟨fewer, step, fetches, rfl, complete, ended⟩
  · exact ⟨fetches, stands.progress.inOrder foreign, stands.follows⟩
  · have inOrder := ended.progress.inOrder foreign
    change projects = Fetch.listed fetches at complete
    subst complete
    exact ⟨fetches, inOrder, ended.follows inOrder fewer⟩

def Channel.twoPages : Channel :=
  let page (body : String) : Turn := ⟨.response (.prompt 200 body), false, false⟩
  .fresh [page "\x7b\"a\": \x7b\"_more_projects\": true\x7d\x7d", page "\x7b\"b\": \x7b\x7d\x7d"]
    (.failure (.transport .connection "script exhausted")) (.empty Log.Level.info)

def Pager.plain : Pager where
  client := ⟨⟨"http://h", "http://h", "http://h/a"⟩, 30, 3, Client.ownSink,
    ⟨Client.requestHeaders, none, true, 0⟩, ⟨0, 0, 0, 0⟩, false⟩
  pageSize := 1
  maxPages := 2
  projectType := none
  pagesFetched := 0

theorem Channel.twoPages_isForeign : Channel.twoPages.IsForeign := by
  refine ⟨?_, trivial⟩
  intro turn member
  rcases List.mem_cons.mp member with rfl | last
  · trivial
  · rw [List.mem_singleton.mp last]
    trivial

theorem Pager.run_follows_fetches_twoPages :
    let run := Pager.plain.run .fresh Channel.twoPages 3
    run.projects.map (·.name) = ["a", "b"] ∧
      ∃ fetches, Fetch.InOrder Pager.plain Channel.twoPages fetches run.pager.client run.channel ∧
        run.Follows 2 3 fetches :=
  ⟨by decide +kernel,
    Pager.plain.run_follows_fetches Channel.twoPages Channel.twoPages_isForeign 3⟩

end ProjectScan
