import ProjectScan.Proofs.Course

/-!
What a limit does to a scan that collects candidates. Without a wish to cancel, the scan with a limit
is the beginning of the one without: it tells of the same projects in the same order, sends the same
requests and makes the same pauses, and stops at the project with which the limit is reached. If the
limit is not reached, nothing is different.
-/

namespace ProjectScan

/-- What a selection keeps: names that no exclusion matches and that some inclusion matches, if there
are inclusions. -/
def Selection.Admits (selection : Selection) (name : String) : Prop :=
  (∀ pattern ∈ selection.exclusions, Glob.matchesName pattern name = false) ∧
    (selection.inclusions ≠ [] →
      ∃ pattern ∈ selection.inclusions, Glob.matchesName pattern name = true)

theorem Selection.accepts_iff (selection : Selection) (name : String) :
    selection.accepts name = true ↔ selection.Admits name := by
  unfold accepts Admits
  rw [Bool.and_eq_true, Bool.or_eq_true, Bool.not_eq_true', List.any_eq_false, List.any_eq_true,
    List.isEmpty_iff]
  simp only [Bool.not_eq_true]
  exact and_congr_right fun _ => or_iff_not_imp_left

/-- The beginning of a list up to the item with which the limit is reached, or all of it. -/
structure Truncates {α : Type} (accepts : α → Bool) (limit : Nat) (items cut : List α) : Prop where
  initial : cut <+: items
  reached : limit ≤ items.countP accepts → cut.countP accepts = limit ∧
    ∃ before last, cut = before ++ [last] ∧ accepts last = true
  whole : items.countP accepts < limit → cut = items

section Limits

variable {α β : Type} {accepts : α → Bool} {limit : Nat}

theorem exists_reached (positive : 1 ≤ limit) {items : List α}
    (enough : limit ≤ items.countP accepts) :
    ∃ index item, items[index]? = some item ∧ accepts item = true ∧
      limit ≤ (items.take (index + 1)).countP accepts := by
  induction items using List.reverseRecOn with
  | nil => exact absurd enough (Nat.not_le_of_lt positive)
  | append_singleton items last ih =>
      by_cases accepted : accepts last = true
      · refine ⟨items.length, last, List.getElem?_concat_length, accepted, ?_⟩
        rw [List.take_of_length_le (by rw [List.length_append, List.length_singleton])]
        exact enough
      · rw [List.countP_append, List.countP_singleton, if_neg accepted, Nat.add_zero] at enough
        obtain ⟨index, item, here, itemAccepted, reached⟩ := ih enough
        have within := (List.getElem?_eq_some_iff.mp here).1
        refine ⟨index, item, ?_, itemAccepted, ?_⟩
        · rw [List.getElem?_append_left within, here]
        · rw [List.take_append_of_le_length within]
          exact reached

theorem truncates_take (positive : 1 ≤ limit) {items : List α} {index : Nat} {item : α}
    (here : items[index]? = some item) (accepted : accepts item = true)
    (reached : limit ≤ (items.take (index + 1)).countP accepts)
    (first : ∀ earlier < index, ∀ other, items[earlier]? = some other → accepts other = true →
      (items.take (earlier + 1)).countP accepts < limit) :
    limit ≤ items.countP accepts ∧ Truncates accepts limit items (items.take (index + 1)) := by
  have within := (List.getElem?_eq_some_iff.mp here).1
  have shape : items.take (index + 1) = items.take index ++ [item] := by
    rw [List.take_add_one, here]
    rfl
  have fewer : (items.take index).countP accepts < limit := by
    by_contra enough
    obtain ⟨earlier, other, there, otherAccepted, already⟩ :=
      exists_reached positive (Nat.le_of_not_lt enough)
    have before := (List.getElem?_eq_some_iff.mp there).1
    rw [List.length_take, Nat.min_eq_left (Nat.le_of_lt within)] at before
    rw [List.getElem?_take_of_lt before] at there
    rw [List.take_take, Nat.min_eq_left before] at already
    exact absurd already (Nat.not_le_of_lt (first earlier before other there otherAccepted))
  have all : (items.take (index + 1)).countP accepts ≤ items.countP accepts :=
    (List.take_sublist _ _).countP_le
  refine ⟨Nat.le_trans reached all, List.take_prefix _ _, fun _ => ⟨?_, _, _, shape, accepted⟩, ?_⟩
  · rw [shape, List.countP_append, List.countP_singleton, if_pos accepted] at reached ⊢
    omega
  · intro few
    omega

theorem truncates_self {items : List α} (few : items.countP accepts < limit) :
    Truncates accepts limit items items :=
  ⟨List.prefix_refl items, fun enough => absurd few (Nat.not_lt_of_le enough), fun _ => rfl⟩

theorem Truncates.filter_eq_take {items cut : List α} (truncates : Truncates accepts limit items cut) :
    cut.filter accepts = (items.filter accepts).take limit := by
  rcases Nat.lt_or_ge (items.countP accepts) limit with few | enough
  · rw [truncates.whole few, List.take_of_length_le]
    rw [← List.countP_eq_length_filter]
    exact Nat.le_of_lt few
  · obtain ⟨more, rfl⟩ := truncates.initial
    have count := (truncates.reached enough).1
    rw [List.countP_eq_length_filter] at count
    rw [List.filter_append, List.take_left' count]

theorem Truncates.map {kept : β → Bool} (named : α → β) (same : ∀ item, accepts item = kept (named item))
    {items cut : List α} (truncates : Truncates accepts limit items cut) :
    Truncates kept limit (items.map named) (cut.map named) := by
  have count (list : List α) : (list.map named).countP kept = list.countP accepts := by
    rw [List.countP_map]
    exact congrArg (List.countP · list) (funext fun item => (same item).symm)
  refine ⟨truncates.initial.map named, ?_, ?_⟩
  · intro enough
    rw [count] at enough ⊢
    obtain ⟨exact, before, last, shape, accepted⟩ := truncates.reached enough
    refine ⟨exact, before.map named, named last, ?_, ?_⟩
    · rw [shape, List.map_append, List.map_singleton]
    · rw [← same, accepted]
  · intro few
    rw [count] at few
    rw [truncates.whole few]

end Limits

section Collecting

variable (selection : Selection) (sink : Log.Sink) (blueprint : Blueprint)

theorem told_accepted (collection : Collection) {project : Project}
    (accepted : selection.accepts project.name = true) :
    (collecting selection sink).told blueprint collection project =
      ⟨.ok (limitReached selection.limit (collection.accepted.length + 1)),
        { collection with accepted := collection.accepted ++ [blueprint.candidate project.name] },
        [verdictRecord sink "Accepted" project.name], false⟩ := by
  unfold Observer.told collecting
  dsimp only
  rw [if_pos accepted, List.length_append, List.length_singleton]

theorem told_skipped (collection : Collection) {project : Project}
    (skipped : selection.accepts project.name = false) :
    (collecting selection sink).told blueprint collection project =
      ⟨.ok false, { collection with skipped := collection.skipped ++ [project.name] },
        [verdictRecord sink "Skipping" project.name], false⟩ := by
  unfold Observer.told collecting
  dsimp only
  rw [skipped]
  rfl

/-- The collecting observer keeps what its selection accepts and the names of what it does not,
whatever its limit is. -/
theorem after_collecting (collection : Collection) (projects : List Project) :
    (collecting selection sink).after blueprint collection projects =
      ⟨collection.accepted ++ (projects.filter (selection.accepts ·.name)).map
          (blueprint.candidate ·.name),
        collection.skipped ++ (projects.filter (!selection.accepts ·.name)).map (·.name)⟩ := by
  induction projects generalizing collection with
  | nil =>
      simp only [List.filter_nil, List.map_nil, List.append_nil]
      rfl
  | cons project rest ih =>
      refine (ih _).trans ?_
      cases accepted : selection.accepts project.name with
      | true =>
          rw [told_accepted selection sink blueprint collection accepted]
          simp [accepted]
      | false =>
          rw [told_skipped selection sink blueprint collection accepted]
          simp [accepted]

theorem getElem?_answers_collecting (collection : Collection) (projects : List Project) (index : Nat) :
    ((collecting selection sink).answers blueprint collection projects)[index]? =
      projects[index]?.map fun project =>
        ⟨.ok (selection.accepts project.name && limitReached selection.limit
          (collection.accepted.length +
            (projects.take (index + 1)).countP (selection.accepts ·.name))), false⟩ := by
  induction projects generalizing collection index with
  | nil => rfl
  | cons project rest ih =>
      unfold Observer.answers
      cases accepted : selection.accepts project.name with
      | true =>
          rw [told_accepted selection sink blueprint collection accepted]
          cases index with
          | zero => simp [accepted]
          | succ index =>
              rw [List.getElem?_cons_succ, ih, List.getElem?_cons_succ, List.take_succ_cons]
              simp only [List.countP_cons, accepted, List.length_append, List.length_singleton,
                Nat.add_assoc, Nat.add_comm 1, if_pos]
      | false =>
          rw [told_skipped selection sink blueprint collection accepted]
          cases index with
          | zero => simp [accepted]
          | succ index =>
              rw [List.getElem?_cons_succ, ih, List.getElem?_cons_succ, List.take_succ_cons]
              simp only [List.countP_cons, accepted]
              rfl

end Collecting

structure Channel.IsCalm (channel : Channel) : Prop where
  uncancelled : channel.cancelled = false
  turns : ∀ turn ∈ channel.turns, turn.cancels = false

theorem Channel.wishAmong_of_calm {turns : List Turn} (calm : ∀ turn ∈ turns, turn.cancels = false)
    (index : Nat) : wishAmong turns index = false := by
  induction index generalizing turns with
  | zero =>
      cases turns with
      | nil => rfl
      | cons turn rest => exact calm turn List.mem_cons_self
  | succ index ih =>
      cases turns with
      | nil => rfl
      | cons turn rest =>
          refine ih ?_
          intro other member
          split at member
          · exact calm other member
          · exact calm other (List.mem_cons_of_mem turn member)

theorem Channel.IsCalm.after {channel later : Channel} {sent paused : Nat} (calm : channel.IsCalm)
    (passes : channel.Passes later sent paused) : later.cancelled = false := by
  rw [passes.cancelled, calm.uncancelled, Bool.false_or]
  refine List.any_eq_false.mpr ?_
  intro index _ wish
  have none : channel.wish index = false := wishAmong_of_calm calm.turns index
  rw [none] at wish
  cases wish

namespace Navigator

/-- On a calm channel a scan halts where the collecting observer asks to stop, which is at a project
that it accepts and with which its limit is reached. -/
theorem haltsAt_collecting_iff (selection : Selection) (sink : Log.Sink) (blueprint : Blueprint)
    (projects : List Project) {watched : Bool} {set : Nat → Bool}
    (calm : watched = true → ∀ index, set index = false) (index : Nat) :
    HaltsAt ((collecting selection sink).answers blueprint .empty projects) watched set index ↔
      ∃ project, projects[index]? = some project ∧ selection.accepts project.name = true ∧
        limitReached selection.limit
          ((projects.take (index + 1)).countP (selection.accepts ·.name)) = true := by
  have none : Collection.empty.accepted.length = 0 := rfl
  unfold HaltsAt
  rw [getElem?_answers_collecting]
  constructor
  · rintro ⟨answer, here, halts⟩
    obtain ⟨project, found, rfl⟩ := Option.map_eq_some_iff.mp here
    rcases halts with verdict | ⟨isWatched, wish⟩
    · rw [none, Nat.zero_add] at verdict
      refine ⟨project, found, ?_⟩
      rw [← Bool.and_eq_true, ← Bool.not_eq_false]
      intro goes
      rw [goes] at verdict
      exact verdict rfl
    · rw [calm isWatched, Bool.false_or, List.any_eq_true] at wish
      obtain ⟨other, member, cancels⟩ := wish
      obtain ⟨place, there⟩ := List.mem_iff_getElem?.mp (List.mem_of_mem_take member)
      rw [getElem?_answers_collecting] at there
      obtain ⟨_, _, rfl⟩ := Option.map_eq_some_iff.mp there
      cases cancels
  · rintro ⟨project, found, accepted, reached⟩
    refine ⟨_, Option.map_eq_some_iff.mpr ⟨project, found, rfl⟩, .inl ?_⟩
    rw [none, Nat.zero_add, accepted, reached]
    nofun

section Halts

variable {selection : Selection} {limit : Nat} (positive : 1 ≤ limit) (sink : Log.Sink)
  (blueprint : Blueprint) (projects : List Project) {watched : Bool} {set : Nat → Bool}
  (calm : watched = true → ∀ index, set index = false)
include positive calm

theorem truncates_of_firstHalts {answer : Observer.Answer} {index : Nat} :
    let answers := (collecting { selection with limit := some limit } sink).answers blueprint .empty
      projects
    answers[index]? = some answer → FirstHaltsAt answers watched set index →
      answer = ⟨.ok true, false⟩ ∧ limit ≤ projects.countP (selection.accepts ·.name) ∧
        Truncates (selection.accepts ·.name) limit projects (projects.take (index + 1)) := by
  intro answers here halts
  have halting (index : Nat) := haltsAt_collecting_iff { selection with limit := some limit } sink
    blueprint projects calm index
  obtain ⟨project, found, accepted, reached⟩ := (halting index).mp halts.1
  refine ⟨?_, truncates_take positive found accepted (of_decide_eq_true reached) ?_⟩
  · have none : Collection.empty.accepted.length = 0 := rfl
    rw [getElem?_answers_collecting, found] at here
    rw [← Option.some.inj here]
    dsimp only
    rw [none, Nat.zero_add, accepted, reached]
    rfl
  · intro earlier before other there otherAccepted
    refine Nat.lt_of_not_le fun already => halts.2 earlier before ?_
    exact (halting earlier).mpr ⟨other, there, otherAccepted, decide_eq_true already⟩

theorem few_of_never
    (never : ∀ index, ¬HaltsAt ((collecting { selection with limit := some limit } sink).answers
      blueprint .empty projects) watched set index) :
    projects.countP (selection.accepts ·.name) < limit := by
  by_contra enough
  obtain ⟨index, project, found, accepted, reached⟩ :=
    exists_reached positive (Nat.le_of_not_lt enough)
  exact never index ((haltsAt_collecting_iff _ sink blueprint projects calm index).mpr
    ⟨project, found, accepted, decide_eq_true reached⟩)

end Halts

/-! ### Scans with a limit -/

/-- What a scan with a limit comes to, beside the one without. `names` are the names that the scan
without a limit tells, and `told` those that the other does. -/
structure Limits (selection : Selection) (limit : Nat) (names told : List String)
    (whole limited : Scan Collection) : Prop where
  truncated : Truncates selection.accepts limit names told
  accepted : limited.state.accepted = whole.state.accepted.take limit
  requests : limited.channel.requests.toList <+: whole.channel.requests.toList
  pauses : limited.channel.pauses.toList <+: whole.channel.pauses.toList
  partsAll : whole.state.accepted.map (·.project) = names.filter selection.accepts ∧
    whole.state.skipped = names.filter (!selection.accepts ·)
  partsTold : limited.state.accepted.map (·.project) = told.filter selection.accepts ∧
    limited.state.skipped = told.filter (!selection.accepts ·)
  stopped : limit ≤ whole.state.accepted.length →
    ∃ summary, limited.outcome = .ok summary ∧ summary.stoppedEarly = true
  same : whole.state.accepted.length < limit → limited.outcome = whole.outcome

theorem parts_of_after (selection : Selection) (sink : Log.Sink) (blueprint : Blueprint)
    (projects : List Project) :
    let collection := (collecting selection sink).after blueprint .empty projects
    collection.accepted.map (·.project) = (projects.map (·.name)).filter selection.accepts ∧
      collection.skipped = (projects.map (·.name)).filter (!selection.accepts ·) := by
  dsimp only
  rw [after_collecting]
  refine ⟨?_, ?_⟩
  · rw [List.filter_map]
    exact List.map_map
  · rw [List.filter_map]
    rfl

theorem limits_of_projects {selection : Selection} {limit : Nat} (sink : Log.Sink)
    (blueprint : Blueprint) {projects cut : List Project} {whole limited : Scan Collection}
    (truncates : Truncates (selection.accepts ·.name) limit projects cut)
    (toldAll : whole.state = (collecting selection sink).after blueprint .empty projects)
    (toldCut : limited.state =
      (collecting { selection with limit := some limit } sink).after blueprint .empty cut)
    (requests : limited.channel.requests.toList <+: whole.channel.requests.toList)
    (pauses : limited.channel.pauses.toList <+: whole.channel.pauses.toList)
    (stopped : limit ≤ projects.countP (selection.accepts ·.name) →
      ∃ summary, limited.outcome = .ok summary ∧ summary.stoppedEarly = true)
    (same : projects.countP (selection.accepts ·.name) < limit → limited.outcome = whole.outcome) :
    Limits selection limit (projects.map (·.name)) (cut.map (·.name)) whole limited := by
  have count : whole.state.accepted.length = projects.countP (selection.accepts ·.name) := by
    rw [toldAll, after_collecting, List.countP_eq_length_filter]
    exact List.length_map _
  have named : Truncates selection.accepts limit (projects.map (·.name)) (cut.map (·.name)) :=
    Truncates.map (fun project : Project => project.name) (fun _ => rfl) truncates
  refine ⟨named, ?_, requests, pauses, ?_, ?_, ?_, ?_⟩
  · rw [toldAll, toldCut, after_collecting, after_collecting]
    change [] ++ (cut.filter (selection.accepts ·.name)).map (blueprint.candidate ·.name) = _
    rw [truncates.filter_eq_take, List.map_take]
    rfl
  · rw [toldAll]
    exact parts_of_after selection sink blueprint projects
  · rw [toldCut]
    exact parts_of_after { selection with limit := some limit } sink blueprint cut
  · rw [count]
    exact stopped
  · rw [count]
    exact same

section Scans

variable (navigator : Navigator) (watched : Bool) (channel : Channel)
  (inclusions exclusions : List String) (sink : Log.Sink) {limit : Nat} (positive : 1 ≤ limit)
include positive

theorem limits_of_error {failure : Failure} {client : Option Client} :
    let selection : Selection := ⟨inclusions, exclusions, none⟩
    let collector := collecting selection sink
    let limiter := collecting { selection with limit := some limit } sink
    navigator.prepared (navigator.scanSink collector) = .error (failure, client) →
      Limits selection limit ((navigator.calls collector watched .empty channel).map (·.name))
        ((navigator.calls limiter watched .empty channel).map (·.name))
        (navigator.discover collector watched .empty channel)
        (navigator.discover limiter watched .empty channel) := by
  intro selection collector limiter failed
  obtain ⟨noted, whole⟩ := navigator.discover_of_error collector watched .empty channel failed
  obtain ⟨journal, limited⟩ := navigator.discover_of_error limiter watched .empty channel failed
  rw [navigator.calls_of_error collector watched .empty channel failed,
    navigator.calls_of_error limiter watched .empty channel failed, whole, limited]
  have nothing : ([] : List Project).countP (selection.accepts ·.name) < limit := positive
  exact limits_of_projects sink (navigator.blueprint ⟨"", "", ""⟩ false)
    (truncates_self nothing) rfl rfl (List.prefix_refl _) (List.prefix_refl _)
    (fun enough => absurd nothing (Nat.not_lt_of_le enough)) (fun _ => rfl)

/-- The scan without a limit goes through the whole listing; the one with a limit halts in it where
the limit is reached, or goes through it as well. -/
theorem limits_of_pager {pager : Pager} (calm : watched = true → channel.IsCalm) :
    let selection : Selection := ⟨inclusions, exclusions, none⟩
    let collector := collecting selection sink
    let limiter := collecting { selection with limit := some limit } sink
    navigator.prepared (navigator.scanSink collector) = .ok pager →
      Limits selection limit ((navigator.calls collector watched .empty channel).map (·.name))
        ((navigator.calls limiter watched .empty channel).map (·.name))
        (navigator.discover collector watched .empty channel)
        (navigator.discover limiter watched .empty channel) := by
  intro selection collector limiter ready
  have all := navigator.course_of_pager collector watched .empty channel ready
  have some := navigator.course_of_pager limiter watched .empty channel ready
  dsimp only at all some
  generalize navigator.blueprint pager.client.endpoint pager.client.authenticated = blueprint
    at all some
  have quiet : watched = true → ∀ index,
      (pager.run .fresh channel (index + 1)).channel.cancelled = false := by
    intro isWatched index
    obtain ⟨sent, paused, passes⟩ := pager.run_passes .fresh channel 0 (index + 1)
    rw [Nat.zero_add] at passes
    exact (calm isWatched).after passes
  rcases all with ⟨index, answer, _, halts, _⟩ | ⟨_, whole⟩
  · obtain ⟨_, _, _, reached⟩ := (haltsAt_collecting_iff _ _ _ _ quiet index).mp halts.1
    cases reached
  · obtain ⟨noted, uttered, line⟩ := whole.line
    rcases some with ⟨index, answer, here, halts, limited⟩ | ⟨never, limited⟩
    · obtain ⟨rfl, enough, truncates⟩ :=
        truncates_of_firstHalts positive sink blueprint _ quiet here halts
      obtain ⟨journal, wish, cutLine⟩ := limited.line
      have within := (List.getElem?_eq_some_iff.mp here).1
      rw [Observer.length_answers] at within
      obtain ⟨sent, paused, passes⟩ := pager.run_passes_drain .fresh channel within
      rw [whole.names, limited.names]
      refine limits_of_projects sink blueprint truncates whole.told limited.told ?_ ?_ ?_ ?_
      · obtain ⟨more, grown, _⟩ := passes.requests
        rw [cutLine, line]
        exact ⟨more, grown.symm⟩
      · obtain ⟨more, grown, _⟩ := passes.pauses
        rw [cutLine, line]
        exact ⟨more, grown.symm⟩
      · exact fun _ => ⟨_, limited.outcome, rfl⟩
      · exact fun few => absurd few (Nat.not_lt_of_le enough)
    · have few := few_of_never positive sink blueprint _ quiet never
      obtain ⟨journal, wish, sameLine⟩ := limited.line
      rw [whole.names, limited.names]
      refine limits_of_projects sink blueprint (truncates_self few) whole.told limited.told ?_ ?_ ?_ ?_
      · rw [sameLine, line]
        exact List.prefix_refl _
      · rw [sameLine, line]
        exact List.prefix_refl _
      · exact fun enough => absurd few (Nat.not_lt_of_le enough)
      · intro _
        rw [limited.outcome, whole.outcome]
        rfl

end Scans

/-- A limit only truncates: the scan with it tells of the same projects up to the one with which the
limit is reached, and makes a beginning of the requests and pauses. If it is reached, the scan comes
to its end there; if not, both scans come to the same. -/
theorem discover_limited (navigator : Navigator) (watched : Bool) (channel : Channel)
    (inclusions exclusions : List String) (sink : Log.Sink) {limit : Nat} (positive : 1 ≤ limit)
    (calm : watched = true → channel.IsCalm) :
    let selection : Selection := ⟨inclusions, exclusions, none⟩
    let collector := collecting selection sink
    let limiter := collecting { selection with limit := some limit } sink
    let names := (navigator.calls collector watched .empty channel).map (·.name)
    let told := (navigator.calls limiter watched .empty channel).map (·.name)
    Limits selection limit names told (navigator.discover collector watched .empty channel)
        (navigator.discover limiter watched .empty channel) ∧
      ∀ name, selection.accepts name = true ↔ selection.Admits name := by
  intro selection collector limiter names told
  refine ⟨?_, selection.accepts_iff⟩
  cases ready : navigator.prepared (navigator.scanSink collector) with
  | error failed =>
      exact navigator.limits_of_error watched channel inclusions exclusions sink positive ready
  | ok pager =>
      exact navigator.limits_of_pager watched channel inclusions exclusions sink positive calm ready

theorem discover_limited_twoPages :
    (true = true → Channel.twoPages.IsCalm) ∧
      Limits ⟨[], [], none⟩ 1 ["a", "b"] ["a"]
        (plain.discover (collecting ⟨[], [], none⟩ observerSink) true .empty Channel.twoPages)
        (plain.discover (collecting ⟨[], [], some 1⟩ observerSink) true .empty Channel.twoPages) := by
  have calm : Channel.twoPages.IsCalm := by
    refine ⟨rfl, ?_⟩
    intro turn member
    rcases List.mem_cons.mp member with rfl | last
    · rfl
    · rw [List.mem_singleton.mp last]
  have names : (plain.calls (collecting ⟨[], [], none⟩ observerSink) true .empty
      Channel.twoPages).map (·.name) = ["a", "b"] := by decide +kernel
  have told : (plain.calls (collecting ⟨[], [], some 1⟩ observerSink) true .empty
      Channel.twoPages).map (·.name) = ["a"] := by decide +kernel
  have limits := (plain.discover_limited true Channel.twoPages [] [] observerSink (Nat.le_refl 1)
    fun _ => calm).1
  rw [names, told] at limits
  exact ⟨fun _ => calm, limits⟩

end Navigator

end ProjectScan
