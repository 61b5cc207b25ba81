import ProjectScan.Proofs.Scan
import ProjectScan.Proofs.Walk

/-!
What the observer of a scan is told and what it answers. The scan submits one project after the
other, each with the candidate that the blueprint makes of it, and looks at the answer and at the
wish to cancel to know whether to go on. It does the same when its calls are recorded.
-/

namespace ProjectScan

variable {σ : Type}

structure Call where
  name : String
  candidate : Candidate
  isOpen : Bool

def Blueprint.call (blueprint : Blueprint) (project : Project) : Call :=
  ⟨project.name, blueprint.candidate project.name, true⟩

namespace Observer

/-- What a scan learns from an observer: its verdict, and whether it wishes the scan to be
cancelled. -/
structure Answer where
  verdict : Except Failure Bool
  cancels : Bool
  deriving DecidableEq

def told (observer : Observer σ) (blueprint : Blueprint) (state : σ) (project : Project) :
    Observation σ :=
  observer.observe state project.name (blueprint.candidate project.name) true

def answers (observer : Observer σ) (blueprint : Blueprint) (state : σ) :
    List Project → List Answer
  | [] => []
  | project :: rest =>
      let told := observer.told blueprint state project
      ⟨told.verdict, told.cancels⟩ :: observer.answers blueprint told.state rest

def after (observer : Observer σ) (blueprint : Blueprint) (state : σ) : List Project → σ
  | [] => state
  | project :: rest => observer.after blueprint (observer.told blueprint state project).state rest

def recorded (observer : Observer σ) : Observer (σ × List Call) where
  sink := observer.sink
  observe := fun (state, calls) name candidate isOpen =>
    let observation := observer.observe state name candidate isOpen
    { observation with state := (observation.state, calls ++ [⟨name, candidate, isOpen⟩]) }

variable (observer : Observer σ) (blueprint : Blueprint) (state : σ)

@[simp] theorem length_answers (projects : List Project) :
    (observer.answers blueprint state projects).length = projects.length := by
  induction projects generalizing state with
  | nil => rfl
  | cons project rest ih => exact congrArg Nat.succ (ih _)

theorem verdict_of_answer {projects : List Project} {answer : Answer}
    (member : answer ∈ observer.answers blueprint state projects) :
    ∃ before name candidate, (observer.observe before name candidate true).verdict =
      answer.verdict := by
  induction projects generalizing state with
  | nil => cases member
  | cons project rest ih =>
      rcases List.mem_cons.mp member with rfl | later
      · exact ⟨state, project.name, blueprint.candidate project.name, rfl⟩
      · exact ih _ later

theorem answers_recorded (calls : List Call) (projects : List Project) :
    observer.recorded.answers blueprint (state, calls) projects =
      observer.answers blueprint state projects := by
  induction projects generalizing state calls with
  | nil => rfl
  | cons project rest ih => exact congrArg (List.cons _) (ih _ _)

theorem after_recorded (calls : List Call) (projects : List Project) :
    observer.recorded.after blueprint (state, calls) projects =
      (observer.after blueprint state projects, calls ++ projects.map blueprint.call) := by
  induction projects generalizing state calls with
  | nil =>
      rw [List.map_nil, List.append_nil]
      rfl
  | cons project rest ih =>
      rw [List.map_cons, List.append_cons]
      exact ih _ _

end Observer

namespace Navigator

def flow (verdict : Except Failure Bool) (cancelled : Bool) (seen : Nat) : Pager.Flow :=
  match verdict with
  | .error failure => .fail failure
  | .ok true => .stop
  | .ok false => if cancelled then .fail (.cancelled seen) else .go

def stops : Except Failure Bool → Bool
  | .ok stop => stop
  | .error _ => false

section Visits

variable (blueprint : Blueprint) (observer : Observer σ) (sink : Log.Sink) (seen : Nat)
  (early : Bool) (state : σ) (project : Project) (channel : Channel) (journal : Log.Journal)
  (wish : Bool)

theorem process_overlaid (name : String) (candidate : Candidate) :
    let told := observer.observe state name candidate true
    ∃ noted, Session.process ⟨true, seen, early⟩ observer sink name candidate state
        (channel.overlaid journal wish) =
      ⟨told.verdict, ⟨true, seen + 1, stops told.verdict || early⟩, told.state,
        channel.overlaid noted (wish || told.cancels)⟩ := by
  unfold Session.process
  dsimp only
  rw [if_neg (by decide)]
  generalize observer.observe state name candidate true = told
  obtain ⟨verdict, after, records, cancels⟩ := told
  have kept : { channel.overlaid journal wish with
      journal := records.foldl Log.Journal.keep (channel.overlaid journal wish).journal
      cancelled := (channel.overlaid journal wish).cancelled || cancels } =
      channel.overlaid (records.foldl Log.Journal.keep journal) (wish || cancels) := by
    unfold Channel.overlaid
    rw [Bool.or_assoc]
  dsimp only
  rw [kept]
  cases verdict with
  | error failure => exact ⟨_, rfl⟩
  | ok stop => cases stop <;> exact ⟨_, rfl⟩

theorem process_recorded (session : Session) (name : String) (candidate : Candidate)
    (calls : List Call) :
    let submission := session.process observer sink name candidate state channel
    session.process observer.recorded sink name candidate (state, calls) channel =
      ⟨submission.verdict, submission.session,
        (submission.state, calls ++ if session.isOpen then [⟨name, candidate, true⟩] else []),
        submission.channel⟩ := by
  obtain ⟨isOpen, seen, early⟩ := session
  cases isOpen with
  | false =>
      rw [if_neg Bool.false_ne_true, List.append_nil]
      rfl
  | true =>
      unfold Session.process
      simp only [Observer.recorded, Bool.not_true, Bool.false_eq_true, if_false]
      generalize observer.observe state name candidate true = told
      obtain ⟨verdict, after, records, cancels⟩ := told
      cases verdict with
      | error failure => rfl
      | ok stop => cases stop <;> rfl

/-- A visit tells the observer of the project and goes on as it says. Whatever was noted on the
channel before, the same is said and done. -/
theorem visit_overlaid (watched : Bool) :
    let told := observer.told blueprint state project
    let cancelled := channel.cancelled || (wish || told.cancels)
    ∃ noted, visit blueprint observer sink watched ⟨⟨true, seen, early⟩, state⟩ project
        (channel.overlaid journal wish) =
      (flow told.verdict (watched && cancelled) (seen + 1),
        ⟨⟨true, seen + 1, stops told.verdict || early⟩, told.state⟩,
        channel.overlaid noted (wish || told.cancels)) := by
  have told : observer.observe state project.name (blueprint.candidate project.name) true =
      observer.told blueprint state project := rfl
  obtain ⟨noted, same⟩ := process_overlaid observer sink seen early state channel journal wish
    project.name (blueprint.candidate project.name)
  rw [told] at same
  unfold visit
  dsimp only
  rw [same]
  generalize observer.told blueprint state project = told
  obtain ⟨verdict, after, records, cancels⟩ := told
  cases verdict with
  | error failure => exact ⟨noted, rfl⟩
  | ok stop =>
      cases stop with
      | true => exact ⟨noted, rfl⟩
      | false =>
          dsimp only [flow, stops]
          rw [Channel.cancelled_overlaid]
          cases watched && (channel.cancelled || (wish || cancels)) with
          | false => exact ⟨noted, rfl⟩
          | true => exact ⟨_, rfl⟩

theorem visit_requests (watched : Bool) (now : Visit σ) :
    (visit blueprint observer sink watched now project channel).2.2.requests =
      channel.requests := by
  obtain ⟨⟨isOpen, seen, early⟩, state⟩ := now
  cases isOpen with
  | false => rfl
  | true =>
      obtain ⟨noted, same⟩ := visit_overlaid blueprint observer sink seen early state project channel
        channel.journal false watched
      rw [Channel.overlaid_self] at same
      rw [same]
      rfl

end Visits

/-! ### Recorded scans -/

def viewed {τ : Type} (view : σ → τ) (scan : Scan σ) : Scan τ :=
  ⟨scan.outcome, view scan.state, scan.client, scan.channel⟩

section Recorded

variable (navigator : Navigator) (observer : Observer σ) (watched : Bool) (state : σ)
  (channel : Channel)

def calls : List Call := (navigator.discover observer.recorded watched (state, []) channel).state.2

structure Mirrors (now : Visit (σ × List Call)) (mirror : Visit σ) : Prop where
  session : now.session = mirror.session
  isOpen : now.session.isOpen = true
  state : now.state.1 = mirror.state

theorem visit_unrecorded (blueprint : Blueprint) (sink : Log.Sink) (now : Visit (σ × List Call))
    (project : Project) :
    let recorded := visit blueprint observer.recorded sink watched now project channel
    visit blueprint observer sink watched ⟨now.session, now.state.1⟩ project channel =
      (recorded.1, ⟨recorded.2.1.session, recorded.2.1.state.1⟩, recorded.2.2) := by
  obtain ⟨session, before, calls⟩ := now
  unfold visit
  dsimp only
  rw [process_recorded]
  generalize session.process observer sink project.name _ before channel = submission
  obtain ⟨verdict, later, after, last⟩ := submission
  cases verdict with
  | error failure => rfl
  | ok stop =>
      cases stop with
      | true => rfl
      | false =>
          dsimp only
          cases watched && last.cancelled <;> rfl

theorem visit_recorded (blueprint : Blueprint) (sink : Log.Sink) :
    Pager.Simulation (visit blueprint observer.recorded sink watched)
      (visit blueprint observer sink watched) Mirrors
      (fun first channel second other => first = second ∧ channel = other) (fun _ => False) where
  limit := by
    rintro first second channel other ⟨rfl, rfl⟩
    rfl
  turn := by
    rintro first second channel other ⟨rfl, rfl⟩ taken
    exact .inr ⟨rfl, rfl, rfl⟩
  visit := by
    rintro first second channel other ⟨⟨isOpen, seen, early⟩, before, calls⟩ ⟨_, mirror⟩ ⟨rfl, rfl⟩
      ⟨rfl, opened, rfl⟩ project
    change isOpen = true at opened
    subst opened
    obtain ⟨noted, told⟩ := visit_overlaid blueprint observer.recorded sink seen early
      (before, calls) project channel channel.journal false watched
    rw [Channel.overlaid_self] at told
    have same := visit_unrecorded observer watched channel blueprint sink
      ⟨⟨true, seen, early⟩, (before, calls)⟩ project
    rw [same]
    refine ⟨rfl, ⟨rfl, ?_, rfl⟩, rfl, rfl⟩
    rw [told]
  turnEscaped := fun escaped => escaped.elim
  visitEscaped := fun escaped => escaped.elim

variable (calls : List Call)

theorem runSession_unrecorded (sink : Log.Sink) (pager : Pager) :
    navigator.runSession observer sink watched pager state channel =
      viewed Prod.fst
        (navigator.runSession observer.recorded sink watched pager (state, calls) channel) := by
  have simulation := visit_recorded observer watched
    (navigator.blueprint pager.client.endpoint pager.client.authenticated) sink
  let opened : Channel :=
    { channel with journal := (Session.fresh.enter sink channel.journal).2 }
  let session := (Session.fresh.enter sink channel.journal).1
  have alike : Mirrors ⟨session, (state, calls)⟩ ⟨session, state⟩ := ⟨rfl, rfl, rfl⟩
  have related : pager.restarted = pager.restarted ∧ opened = opened := ⟨rfl, rfl⟩
  rcases simulation.walk_fresh related alike with impossible | ⟨ending, mirror, samePager, same⟩
  · exact impossible.elim
  · unfold runSession
    dsimp only
    generalize Pager.walk (visit _ observer.recorded sink watched) pager .fresh _ _ = recorded
      at ending mirror samePager same ⊢
    generalize Pager.walk (visit _ observer sink watched) pager .fresh _ _ = plain
      at ending mirror samePager same ⊢
    obtain ⟨ended, ⟨last, after⟩, turned, later⟩ := recorded
    obtain ⟨ended', ⟨last', after'⟩, turned', later'⟩ := plain
    obtain ⟨sameSession, _, sameState⟩ := mirror
    cases ending
    cases sameSession
    cases sameState
    cases samePager
    cases same
    cases ended <;> rfl

theorem discover_unrecorded :
    navigator.discover observer watched state channel =
      viewed Prod.fst (navigator.discover observer.recorded watched (state, calls) channel) := by
  have sameSink : (observer.recorded.sink.getD ownSink) = observer.sink.getD ownSink := rfl
  unfold discover
  rw [sameSink]
  generalize (observer.sink.getD ownSink).forScan navigator.id = sink
  cases Endpoint.resolve navigator.serverUrl with
  | error fault => rfl
  | ok endpoint =>
      dsimp only
      generalize navigator.lookupCredential channel.journal = looked
      obtain ⟨found, journal⟩ := looked
      cases found with
      | error failure => rfl
      | ok credential =>
          dsimp only
          generalize navigator.noteCredential credential sink journal = noted
          cases noted with
          | error failure => rfl
          | ok journal =>
              unfold scanEndpoint
              dsimp only
              generalize Client.create _ _ _ _ _ _ _ = created
              obtain ⟨made, journal⟩ := created
              cases made with
              | error failure => rfl
              | ok client =>
                  dsimp only
                  generalize Pager.create _ _ _ _ = checked
                  cases checked with
                  | error failure => rfl
                  | ok pager => exact navigator.runSession_unrecorded observer watched state _ calls sink pager

theorem discover_recorded :
    let scan := navigator.discover observer watched state channel
    let told := navigator.discover observer.recorded watched (state, []) channel
    told.outcome = scan.outcome ∧ told.state.1 = scan.state ∧
      told.channel.requests = scan.channel.requests := by
  dsimp only
  rw [navigator.discover_unrecorded observer watched state channel []]
  exact ⟨rfl, rfl, rfl⟩

end Recorded

def plain : Navigator := ⟨some "http://h", false, none, [], .empty, 1, 2, 30, 3⟩

def untilSecond : Observer Nat where
  sink := none
  observe seen _ _ _ := ⟨.ok (1 ≤ seen), seen + 1, [], false⟩

end Navigator

end ProjectScan
