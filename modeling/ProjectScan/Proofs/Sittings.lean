import Mathlib.Data.List.Induction
import ProjectScan.Proofs.Observation

/-!
Sessions in use. A session may be opened, given projects and left any number of times and in any
order. All that it knows follows from what was done with it, and its client is closed when it is
left for the first time.
-/

namespace ProjectScan

namespace Session

/-- What is done with a session: it is opened, a project is submitted to it, or it is left, with the
name of a failure if there is one. -/
inductive Act where
  | enter
  | process (name : String) (candidate : Candidate)
  | exit (failure : Option String)

namespace Act

/-- Whether the act opens the session or leaves it; to submit a project does neither. -/
def opens? : Act → Option Bool
  | .enter => some true
  | .process _ _ => none
  | .exit _ => some false

def leaves : Act → Bool
  | .exit _ => true
  | .enter | .process _ _ => false

/-- The call of the observer that the act brings about, given whether the session is open. -/
def call? (isOpen : Bool) : Act → Option Call
  | .process name candidate => if isOpen then some ⟨name, candidate, true⟩ else none
  | .enter | .exit _ => none

def leftOpen (acts : List Act) : Bool := (acts.filterMap opens?).getLast? == some true

def staged (acts : List Act) : List (List Act × Act) :=
  acts.mapIdx fun place act => (acts.take place, act)

/-- The projects that are submitted while the session is open, as calls of the observer. -/
def submissions (acts : List Act) : List Call :=
  (staged acts).filterMap fun (before, act) => act.call? (leftOpen before)

theorem mem_staged {acts before : List Act} {act : Act} :
    (before, act) ∈ staged acts ↔ ∃ after, acts = before ++ act :: after := by
  simp only [staged, List.mem_mapIdx, Prod.mk.injEq]
  constructor
  · rintro ⟨place, within, rfl, rfl⟩
    exact ⟨acts.drop (place + 1), by simp⟩
  · rintro ⟨after, rfl⟩
    exact ⟨before.length, by simp, by simp⟩

section Concat

variable (acts : List Act) (act : Act)

theorem leftOpen_concat : leftOpen (acts ++ [act]) = act.opens?.getD (leftOpen acts) := by
  cases act <;> simp [leftOpen, opens?]

theorem staged_concat : staged (acts ++ [act]) = staged acts ++ [(acts, act)] := by
  have sooner : (acts.mapIdx fun place earlier => ((acts ++ [act]).take place, earlier)) =
      staged acts := by
    rw [staged, List.mapIdx_eq_mapIdx_iff]
    intro place within
    rw [List.take_append_of_le_length (Nat.le_of_lt within)]
  rw [staged, List.mapIdx_concat, sooner, List.take_left]

theorem submissions_concat :
    submissions (acts ++ [act]) = submissions acts ++ (act.call? (leftOpen acts)).toList := by
  rw [submissions, staged_concat, List.filterMap_append, submissions]
  cases made : act.call? (leftOpen acts) <;> simp [made]

end Concat

end Act

end Session

/-- A session in use, with its client, the state of its observer and the channel. -/
structure Sitting (σ : Type) where
  session : Session
  client : Client
  state : σ
  channel : Channel

namespace Sitting

open Session Session.Act Navigator

variable {σ : Type} (observer : Observer σ) (sink : Log.Sink)

/-- Does what the act says. Only a project that is submitted comes to a verdict. -/
def perform (sitting : Sitting σ) : Act → Option (Except Failure Bool) × Sitting σ
  | .enter =>
      let (session, journal) := sitting.session.enter sink sitting.channel.journal
      (none, { sitting with session, channel := { sitting.channel with journal } })
  | .process name candidate =>
      let submission :=
        sitting.session.process observer sink name candidate sitting.state sitting.channel
      (some submission.verdict,
        ⟨submission.session, sitting.client, submission.state, submission.channel⟩)
  | .exit failure =>
      let (session, client, journal) :=
        sitting.session.exit sitting.client failure sink sitting.channel.journal
      (none, { sitting with session, client, channel := { sitting.channel with journal } })

def run (sitting : Sitting σ) (acts : List Act) : Sitting σ :=
  acts.foldl (fun now act => (now.perform observer sink act).2) sitting

theorem run_concat (sitting : Sitting σ) (acts : List Act) (act : Act) :
    sitting.run observer sink (acts ++ [act]) =
      ((sitting.run observer sink acts).perform observer sink act).2 := by
  simp [run]

inductive Performs (sitting : Sitting σ) :
    Act → Option (Except Failure Bool) × Sitting σ → Prop
  | enters (later : Channel) :
      Performs sitting .enter
        (none, { sitting with session.isOpen := true, channel := later })
  | refuses (name : String) (candidate : Candidate) (closed : sitting.session.isOpen = false) :
      Performs sitting (.process name candidate) (some (.error .sessionClosed), sitting)
  | tells (name : String) (candidate : Candidate) (isOpen : sitting.session.isOpen = true)
      (told : Observation σ) (later : Channel)
      (observed : observer.observe sitting.state name candidate true = told) :
      Performs sitting (.process name candidate)
        (some told.verdict,
          { sitting with
            session := ⟨true, sitting.session.projectsSeen + 1,
              stops told.verdict || sitting.session.stoppedEarly⟩
            state := told.state
            channel := later })
  | leaves (failure : Option String) (later : Channel) :
      Performs sitting (.exit failure)
        (none, { sitting with
          session.isOpen := false
          client := sitting.client.close
          channel := later })

variable (sitting : Sitting σ) (act : Act)

theorem perform_performs :
    Performs observer sitting act (sitting.perform observer sink act) := by
  cases act with
  | enter => exact .enters _
  | exit failure => exact .leaves failure _
  | process name candidate =>
      obtain ⟨⟨isOpen, seen, early⟩, client, state, channel⟩ := sitting
      cases isOpen with
      | false => exact .refuses name candidate rfl
      | true =>
          obtain ⟨noted, same⟩ := process_overlaid observer sink seen early state channel
            channel.journal false name candidate
          rw [Channel.overlaid_self] at same
          dsimp only [perform]
          rw [same]
          exact .tells name candidate rfl _ _ rfl

theorem perform_isOpen :
    (sitting.perform observer sink act).2.session.isOpen =
      act.opens?.getD sitting.session.isOpen := by
  have performs := sitting.perform_performs observer sink act
  generalize sitting.perform observer sink act = done at performs ⊢
  cases performs with
  | tells name candidate isOpen told later observed => exact isOpen.symm
  | _ => rfl

theorem perform_projectsSeen :
    (sitting.perform observer sink act).2.session.projectsSeen =
      sitting.session.projectsSeen + (act.call? sitting.session.isOpen).toList.length := by
  have performs := sitting.perform_performs observer sink act
  generalize sitting.perform observer sink act = done at performs ⊢
  cases performs <;> simp [call?, *]

theorem perform_stoppedEarly :
    (sitting.perform observer sink act).2.session.stoppedEarly = true ↔
      sitting.session.stoppedEarly = true ∨
        (sitting.perform observer sink act).1 = some (.ok true) := by
  have performs := sitting.perform_performs observer sink act
  generalize sitting.perform observer sink act = done at performs ⊢
  cases performs with
  | tells name candidate isOpen told later observed =>
      cases told.verdict <;> simp [stops, or_comm]
  | _ => simp

theorem perform_client :
    (sitting.perform observer sink act).2.client =
      if act.leaves then sitting.client.close else sitting.client := by
  have performs := sitting.perform_performs observer sink act
  generalize sitting.perform observer sink act = done at performs ⊢
  cases performs <;> simp [Act.leaves]

theorem submits_of_perform (stop : (sitting.perform observer sink act).1 = some (.ok true)) :
    sitting.session.isOpen = true ∧ ∃ name candidate, act = .process name candidate := by
  have performs := sitting.perform_performs observer sink act
  generalize sitting.perform observer sink act = done at performs stop
  cases performs with
  | tells name candidate isOpen told later observed => exact ⟨isOpen, name, candidate, rfl⟩
  | _ => cases stop

theorem perform_of_closed (closed : sitting.session.isOpen = false) (name : String)
    (candidate : Candidate) :
    sitting.perform observer sink (.process name candidate) =
      (some (.error .sessionClosed), sitting) := by
  have performs := sitting.perform_performs observer sink (.process name candidate)
  generalize sitting.perform observer sink (.process name candidate) = done at performs ⊢
  cases performs with
  | refuses => rfl
  | tells _ _ isOpen =>
      rw [closed] at isOpen
      cases isOpen

theorem perform_of_isOpen (isOpen : sitting.session.isOpen = true) (name : String)
    (candidate : Candidate) :
    (sitting.perform observer sink (.process name candidate)).1 =
      some (observer.observe sitting.state name candidate true).verdict := by
  have performs := sitting.perform_performs observer sink (.process name candidate)
  generalize sitting.perform observer sink (.process name candidate) = done at performs ⊢
  cases performs with
  | tells _ _ _ told later observed => rw [observed]
  | refuses _ _ closed =>
      rw [isOpen] at closed
      cases closed

/-! ### Whole runs -/

section Runs

variable {observer sink} {start : Sitting σ} {acts : List Act}

structure Reflects (observer : Observer σ) (sink : Log.Sink) (start : Sitting σ)
    (acts : List Act) (now : Sitting σ) : Prop where
  isOpen : now.session.isOpen = leftOpen acts
  seen : now.session.projectsSeen = (submissions acts).length
  stopped : now.session.stoppedEarly = true ↔ ∃ before act, (before, act) ∈ staged acts ∧
    ((start.run observer sink before).perform observer sink act).1 = some (.ok true)
  client : now.client = if acts.any Act.leaves then start.client.close else start.client

theorem Reflects.of_fresh (fresh : start.session = .fresh) :
    Reflects observer sink start [] start where
  isOpen := by rw [fresh]; rfl
  seen := by rw [fresh]; rfl
  stopped := by simp [fresh, staged, Session.fresh]
  client := rfl

theorem Reflects.concat
    (reflects : Reflects observer sink start acts (start.run observer sink acts)) (act : Act) :
    Reflects observer sink start (acts ++ [act])
      ((start.run observer sink acts).perform observer sink act).2 where
  isOpen := by rw [perform_isOpen, reflects.isOpen, leftOpen_concat]
  seen := by
    rw [perform_projectsSeen, reflects.isOpen, reflects.seen, submissions_concat,
      List.length_append]
  stopped := by
    rw [perform_stoppedEarly, reflects.stopped, staged_concat]
    constructor
    · rintro (⟨before, earlier, sooner, stop⟩ | stop)
      · exact ⟨before, earlier, List.mem_append_left _ sooner, stop⟩
      · exact ⟨acts, act, List.mem_append_right _ (List.mem_singleton.mpr rfl), stop⟩
    · rintro ⟨before, other, member, stop⟩
      rcases List.mem_append.mp member with sooner | last
      · exact .inl ⟨before, other, sooner, stop⟩
      · cases List.mem_singleton.mp last
        exact .inr stop
  client := by
    -- A client that is closed again stays as it is.
    rw [perform_client, reflects.client, List.any_append, List.any_cons, List.any_nil,
      Bool.or_false]
    cases acts.any Act.leaves <;> cases act.leaves <;> simp

theorem run_reflects (fresh : start.session = .fresh) (acts : List Act) :
    Reflects observer sink start acts (start.run observer sink acts) := by
  induction acts using List.reverseRecOn with
  | nil => exact .of_fresh fresh
  | append_singleton acts act ih =>
      rw [run_concat]
      exact ih.concat act

end Runs

def recording (sitting : Sitting σ) (calls : List Call) : Sitting (σ × List Call) :=
  ⟨sitting.session, sitting.client, (sitting.state, calls), sitting.channel⟩

def calls (acts : List Act) : List Call :=
  ((sitting.recording []).run observer.recorded sink acts).state.2

theorem perform_recorded (sofar : List Call) :
    let done := sitting.perform observer sink act
    (sitting.recording sofar).perform observer.recorded sink act =
      (done.1, done.2.recording (sofar ++ (act.call? sitting.session.isOpen).toList)) := by
  cases act with
  | enter | exit failure =>
      rw [call?, Option.toList_none, List.append_nil]
      rfl
  | process name candidate =>
      dsimp only [perform, recording]
      rw [process_recorded, call?]
      cases sitting.session.isOpen <;> rfl

theorem run_recorded {start : Sitting σ} (fresh : start.session = .fresh) (acts : List Act) :
    (start.recording []).run observer.recorded sink acts =
      (start.run observer sink acts).recording (submissions acts) := by
  induction acts using List.reverseRecOn with
  | nil => rfl
  | append_singleton acts act ih =>
      rw [run_concat, ih, perform_recorded, run_concat, (run_reflects fresh acts).isOpen,
        submissions_concat]

theorem calls_eq_submissions {start : Sitting σ} (fresh : start.session = .fresh)
    (acts : List Act) : start.calls observer sink acts = submissions acts := by
  rw [calls, run_recorded observer sink fresh]
  rfl

/-- A session is open exactly if it was entered since it was last left. A project submitted to it
while it is not open is refused: the observer is not called, and nothing changes. While it is open
the verdict is the observer's, and the session counts the project whatever the verdict. It knows of
an early stop exactly if one of these verdicts was to stop. The connection of its client is closed
when the session is left for the first time, and never again. -/
theorem run_reflects_acts (client : Client) (isOpen : client.closed = false)
    (unclosed : client.connection.closings = 0) (state : σ) (channel : Channel)
    (acts : List Act) :
    let start : Sitting σ := ⟨.fresh, client, state, channel⟩
    let now := start.run observer sink acts
    now.session.isOpen = leftOpen acts ∧
    (leftOpen acts = false → ∀ name candidate, ∃ failure : Failure,
      failure.name = "RuntimeError" ∧
        now.perform observer sink (.process name candidate) = (some (.error failure), now) ∧
        start.calls observer sink (acts ++ [.process name candidate]) =
          start.calls observer sink acts) ∧
    (leftOpen acts = true → ∀ name candidate,
      (now.perform observer sink (.process name candidate)).1 =
        some (observer.observe now.state name candidate true).verdict) ∧
    start.calls observer sink acts = submissions acts ∧
    now.session.projectsSeen = (submissions acts).length ∧
    (now.session.stoppedEarly = true ↔ ∃ before name candidate after,
      acts = before ++ .process name candidate :: after ∧ leftOpen before = true ∧
        ((start.run observer sink before).perform observer sink (.process name candidate)).1 =
          some (.ok true)) ∧
    now.client.connection.closings = (acts.any Act.leaves).toNat := by
  intro start now
  have fresh : start.session = .fresh := rfl
  have reflects : Reflects observer sink start acts now := run_reflects fresh acts
  have called := calls_eq_submissions observer sink fresh
  refine ⟨reflects.isOpen, ?_, ?_, called acts, reflects.seen, ?_, ?_⟩
  · intro closed name candidate
    refine ⟨.sessionClosed, rfl, ?_, ?_⟩
    · exact now.perform_of_closed observer sink (reflects.isOpen.trans closed) name candidate
    · rw [called, called, submissions_concat, closed]
      exact List.append_nil _
  · intro opened name candidate
    exact now.perform_of_isOpen observer sink (reflects.isOpen.trans opened) name candidate
  · rw [reflects.stopped]
    constructor
    · rintro ⟨before, act, member, stop⟩
      obtain ⟨after, split⟩ := mem_staged.mp member
      obtain ⟨submitted, name, candidate, rfl⟩ := submits_of_perform observer sink _ _ stop
      rw [(run_reflects fresh before).isOpen] at submitted
      exact ⟨before, name, candidate, after, split, submitted, stop⟩
    · rintro ⟨before, name, candidate, after, split, _, stop⟩
      exact ⟨before, .process name candidate, mem_staged.mpr ⟨after, split⟩, stop⟩
  · rw [reflects.client]
    cases acts.any Act.leaves <;> simp [start, isOpen, unclosed]

def failingOnce : Observer Nat where
  sink := none
  observe seen _ _ _ :=
    ⟨if seen = 0 then .error (.outside .key "boom") else .ok true, seen + 1, [], false⟩

def reopened : List Act :=
  let submit (name : String) : Act :=
    .process name ((plain.blueprint Pager.plain.client.endpoint false).candidate name)
  [submit "early", .enter, submit "a", .exit (some "KeyError"), submit "between", .enter,
    submit "b", .exit none, .exit none]

theorem run_reflects_acts_reopened :
    Pager.plain.client.closed = false ∧ Pager.plain.client.connection.closings = 0 ∧
      let start : Sitting Nat := ⟨.fresh, Pager.plain.client, 0, .twoPages⟩
      let now := start.run failingOnce Client.ownSink reopened
      (start.calls failingOnce Client.ownSink reopened).map (·.name) = ["a", "b"] ∧
        now.session = ⟨false, 2, true⟩ ∧ now.client.connection.closings = 1 := by
  refine ⟨rfl, rfl, ?_⟩
  intro start now
  obtain ⟨isOpen, _, _, called, seen, stopped, closings⟩ := run_reflects_acts failingOnce
    Client.ownSink Pager.plain.client rfl rfl 0 .twoPages reopened
  have early : now.session.stoppedEarly = true :=
    stopped.mpr ⟨reopened.take 6, "b", _, reopened.drop 7, rfl, rfl, rfl⟩
  refine ⟨?_, ?_, closings⟩
  · rw [called]
    rfl
  · change now.session = ⟨leftOpen reopened, (submissions reopened).length, true⟩
    rw [← isOpen, ← seen, ← early]

end Sitting

end ProjectScan
