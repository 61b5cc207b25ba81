import ProjectScan.Proofs.Course
import ProjectScan.Proofs.EnvironmentCredential
import ProjectScan.Proofs.Overriding

/-!
Settings that are loaded can be scanned with. The address is checked when they are loaded, brought
into its form there and again by the navigator, and resolved by the scan; the numbers are checked by
the settings, the client and the pager. What the first of these checks accepts the later ones accept.
-/

namespace ProjectScan

theorem Number.tooLongText_ne_empty (digits : Nat) : tooLongText digits ≠ "" := by
  unfold tooLongText
  intro none
  rw [String.append_eq_empty_iff] at none
  exact absurd none.2 (by simp only [String.reduceEq, not_false_eq_true])

namespace Address

theorem SplitFault.message_ne_empty (fault : SplitFault) : fault.message ≠ "" := by
  unfold message
  intro none
  cases fault with
  | portLength digits => exact Number.tooLongText_ne_empty digits none
  | _ => simp only [String.append_eq_empty_iff, String.reduceEq, false_and, and_false] at none

theorem SiteFault.reason_ne_empty (fault : SiteFault) : fault.reason ≠ "" := by
  unfold reason
  intro none
  cases fault with
  | parts fault => exact fault.message_ne_empty none
  | _ => simp only [String.append_eq_empty_iff, String.reduceEq, false_and] at none

end Address

theorem Endpoint.problem?_ne_empty {url : Option String} {reason : String}
    (refused : problem? url = some reason) : reason ≠ "" := by
  unfold problem? at refused
  cases resolves : resolve url with
  | ok endpoint =>
      rw [resolves] at refused
      cases refused
  | error fault =>
      rw [resolves] at refused
      cases refused
      exact fault.reason_ne_empty

namespace Settings

theorem resolve_of_checkServerUrl {url kept : String} (checks : checkServerUrl url = .ok kept) :
    ∃ endpoint, Endpoint.resolve (some kept) = .ok endpoint := by
  unfold checkServerUrl at checks
  split at checks
  · cases checks
  · split at checks
    · rename_i fine
      cases checks
      exact (Endpoint.problem?_eq_none_iff _).mp fine
    · cases checks

structure Usable (settings : Settings) : Prop where
  address : ∃ endpoint, Endpoint.resolve (some settings.serverUrl) = .ok endpoint
  pageSize : 1 ≤ settings.pageSize
  maxPages : 1 ≤ settings.maxPages
  maxRetries : 1 ≤ settings.maxRetries

theorem usable_of_checked {homes : Homes} {given settings : Settings}
    (checks : given.checked homes = .ok settings) : settings.Usable := by
  unfold checked at checks
  cases address : checkServerUrl given.serverUrl with
  | error fault =>
      rw [address] at checks
      cases checks
  | ok serverUrl =>
      cases fits : given.tooSmall? with
      | some bound =>
          rw [address, fits] at checks
          cases checks
      | none =>
          rw [address, fits] at checks
          dsimp only at checks
          split at checks
          · cases checks
          · cases checks
            obtain ⟨size, pages, _, retries⟩ := (tooSmall?_eq_none_iff given).mp fits
            exact ⟨resolve_of_checkServerUrl address, size, pages, retries⟩

theorem usable_of_load {homes : Homes} {environment : Environment} {overrides : Overrides}
    {room : Nat} {settings : Settings}
    (loads : load homes environment overrides room = .ok settings) : settings.Usable := by
  unfold load at loads
  split at loads
  · cases loads
  · exact usable_of_checked loads

end Settings

/-! ### Scans that get to their listing -/

theorem Fetch.exists_request (pager : Pager) {fetches : List Fetch} (some : fetches ≠ [])
    (sent : ∀ fetch ∈ fetches, 0 < fetch.attempts) :
    ∃ request more, requests pager fetches = request :: more := by
  cases fetches with
  | nil => exact absurd rfl some
  | cons fetch rest =>
      obtain ⟨count, attempts⟩ := Nat.exists_eq_succ_of_ne_zero
        (Nat.ne_of_gt (sent fetch List.mem_cons_self))
      unfold requests
      rw [List.flatMap_cons, attempts, List.replicate_succ]
      exact ⟨_, _, rfl⟩

theorem Ended.fetches_ne_nil {start pager : Pager} {channel later : Channel} {fetches : List Fetch}
    {step : Step} (ended : Ended start channel fetches step pager later)
    (pages : 0 < start.maxPages) : fetches ≠ [] := by
  cases ended with
  | exhausted => exact List.concat_ne_nil _ _
  | failed => exact List.concat_ne_nil _ _
  | limited _ _ _ count =>
      rintro rfl
      rw [List.length_nil] at count
      omega

theorem Ended.ne_resolution {start pager : Pager} {channel later : Channel} {fetches : List Fetch}
    {step : Step} (ended : Ended start channel fetches step pager later)
    (foreign : channel.IsForeign) (cause : Failure) : step ≠ .failed (.resolution cause) := by
  cases ended with
  | exhausted => nofun
  | limited => nofun
  | failed progress _ _ failed =>
      rintro ⟨⟩
      have plain := (progress.made.isPlain foreign).1 _ List.mem_concat_self
      exact Fetch.result_ne_resolution plain cause failed

namespace Navigator

variable {σ : Type} (navigator : Navigator) (observer : Observer σ) (watched : Bool) (state : σ)
  (channel : Channel)

theorem failureOf_eq_resolution {baseUrl : String} {failure cause : Failure}
    (same : failureOf baseUrl failure = .resolution cause) : failure = .resolution cause := by
  unfold failureOf at same
  split at same
  · cases same
  · exact same

theorem request_of_pager {pager : Pager}
    (ready : navigator.prepared (navigator.scanSink observer) = .ok pager)
    (pages : 0 < pager.maxPages) :
    ∃ request sent, (navigator.discover observer watched state channel).channel.requests.toList =
      channel.requests.toList ++ request :: sent := by
  have isOpen := (navigator.client_of_prepared ready).1
  -- A project that was told of stood on a page; without one the traversal came to its end, which is
  -- never before its first page.
  have fetched : ∃ fetches client later, fetches ≠ [] ∧
      Progress pager channel fetches client later ∧ ∃ noted uttered,
        (navigator.discover observer watched state channel).channel =
          later.overlaid noted uttered := by
    rcases navigator.course_of_pager observer watched state channel ready with
      ⟨index, answer, here, _, concludes⟩ | ⟨_, concludes⟩
    · have within := (List.getElem?_eq_some_iff.mp here).1
      rw [Observer.length_answers] at within
      obtain ⟨fetches, stands⟩ := pager.run_standing channel within
      have told : (pager.drain .fresh channel).state.take (index + 1) ≠ [] := by
        apply List.ne_nil_of_length_pos
        rw [List.length_take]
        omega
      exact ⟨fetches, _, _, (stands.allRead told).1, stands.progress, concludes.line⟩
    · obtain ⟨fetches, step, ended, _, _⟩ := pager.drain_ended channel
      exact ⟨fetches, _, _, ended.fetches_ne_nil pages, ended.progress, concludes.line⟩
  obtain ⟨fetches, client, later, some, progress, noted, uttered, line⟩ := fetched
  obtain ⟨request, sent, asked⟩ :=
    Fetch.exists_request pager some (progress.made.attempts_pos isOpen)
  refine ⟨request, sent, ?_⟩
  rw [line, ← asked]
  exact progress.made.requests

/-- A scan with a pager fails for an address of its own only if its observer says so. -/
theorem resolution_of_pager {pager : Pager}
    (ready : navigator.prepared (navigator.scanSink observer) = .ok pager)
    (foreign : channel.IsForeign) {cause : Failure}
    (failed : (navigator.discover observer watched state channel).outcome =
      .error (.resolution cause)) :
    ∃ before name candidate, (observer.observe before name candidate true).verdict =
      .error (.resolution cause) := by
  rcases navigator.course_of_pager observer watched state channel ready with
    ⟨index, answer, here, _, concludes⟩ | ⟨_, concludes⟩
  · rw [concludes.outcome] at failed
    obtain ⟨before, name, candidate, said⟩ :=
      observer.verdict_of_answer _ _ (List.mem_of_getElem? here)
    refine ⟨before, name, candidate, said.trans ?_⟩
    dsimp only [concluded] at failed
    cases verdict : answer.verdict with
    | error failure =>
        rw [verdict] at failed
        dsimp only [ending] at failed
        rw [failureOf_eq_resolution (Except.error.inj failed)]
    | ok stop =>
        rw [verdict] at failed
        cases stop with
        | true => cases failed
        | false => cases failureOf_eq_resolution (Except.error.inj failed)
  · rw [concludes.outcome] at failed
    obtain ⟨fetches, step, ended, ends, _⟩ := pager.drain_ended channel
    dsimp only [concluded] at failed
    cases ending : (pager.drain .fresh channel).ending with
    | exhausted =>
        rw [ending] at failed
        cases failed
    | stopped =>
        rw [ending] at failed
        cases failed
    | failed failure =>
        rw [ending] at failed ends
        have own := failureOf_eq_resolution (Except.error.inj failed)
        subst own
        cases step with
        | failed other =>
            cases ends
            exact absurd rfl (ended.ne_resolution foreign cause)
        | _ => cases ends

end Navigator

theorem Client.exists_create {maxRetries : Int} (retries : 1 ≤ maxRetries) (endpoint : Endpoint)
    (credential : Option Credential) (insecure : Bool) (timeout : Int) (sink : Log.Sink)
    (journal : Log.Journal) : ∃ client noted,
      create endpoint credential insecure timeout maxRetries sink journal =
        (.ok client, noted) := by
  unfold create
  rw [if_neg (Int.not_lt.mpr retries)]
  exact ⟨_, _, rfl⟩

theorem Pager.exists_create {pageSize maxPages : Int} (size : 1 ≤ pageSize) (pages : 1 ≤ maxPages)
    (client : Client) (projectType : Option String) :
    ∃ pager, create client pageSize maxPages projectType = .ok pager := by
  unfold create
  rw [if_neg (Int.not_lt.mpr size), if_neg (Int.not_lt.mpr pages)]
  exact ⟨_, rfl⟩

namespace Command

/-- The navigator has the server of the settings, and a client and a pager take its numbers. -/
structure Serves (navigator : Navigator) (settings : Settings) : Prop where
  server : ∃ endpoint, Endpoint.resolve (some settings.serverUrl) = .ok endpoint ∧
    Endpoint.resolve navigator.serverUrl = .ok endpoint
  client : ∀ endpoint credential sink journal, ∃ client noted, Client.create endpoint credential
    navigator.insecure navigator.timeout navigator.maxRetries sink journal = (.ok client, noted)
  pager : ∀ client projectType, ∃ pager,
    Pager.create client navigator.pageSize navigator.maxPages projectType = .ok pager

theorem serves_of_usable {settings : Settings} (usable : settings.Usable) (store : Store)
    (choice : Choice) : Serves (Plan.navigator ⟨settings, store, choice⟩) settings where
  server := by
    obtain ⟨endpoint, resolves⟩ := usable.address
    exact ⟨endpoint, resolves, (Navigator.stripped?_of_resolve resolves).2⟩
  client endpoint credential sink journal :=
    Client.exists_create usable.maxRetries endpoint credential _ _ sink journal
  pager := Pager.exists_create usable.pageSize usable.maxPages

/-- Settings that are loaded can be scanned with: the navigator of a run has their server, and its
numbers are accepted. With texts in the store its scan sends a request and never fails for its own
address, unless the observer says so. An address is found fault with exactly if it does not resolve,
and then there is something to say. -/
theorem load_scans :
    (∀ homes environment overrides room settings,
      Settings.load homes environment overrides room = .ok settings → ∀ store choice,
      let navigator := Plan.navigator ⟨settings, store, choice⟩
      Serves navigator settings ∧ (store.IsTextual →
        ∀ {σ : Type} (observer : Observer σ) (watched : Bool) (state : σ) (channel : Channel),
          let scan := navigator.discover observer watched state channel
          (∃ request sent,
            scan.channel.requests.toList = channel.requests.toList ++ request :: sent) ∧
          (channel.IsForeign → ∀ cause, scan.outcome = .error (.resolution cause) →
            ∃ before name candidate, (observer.observe before name candidate true).verdict =
              .error (.resolution cause)))) ∧
    ∀ url, (Endpoint.problem? url = none ↔ ∃ endpoint, Endpoint.resolve url = .ok endpoint) ∧
      ∀ reason, Endpoint.problem? url = some reason → reason ≠ "" := by
  constructor
  · intro homes environment overrides room settings loads store choice
    have usable := Settings.usable_of_load loads
    have serves := serves_of_usable usable store choice
    refine ⟨serves, ?_⟩
    intro textual σ observer watched state channel
    obtain ⟨endpoint, _, resolves⟩ := serves.server
    have ready := Navigator.prepared_eq_ok _ ((Plan.navigator ⟨settings, store, choice⟩).scanSink
      observer) resolves textual usable.maxRetries usable.pageSize usable.maxPages
    constructor
    · apply Navigator.request_of_pager _ observer watched state channel ready
      have pages := usable.maxPages
      change 0 < settings.maxPages.toNat
      omega
    · intro foreign cause failed
      exact Navigator.resolution_of_pager _ observer watched state channel ready foreign failed
  · intro url
    exact ⟨Endpoint.problem?_eq_none_iff url, fun reason => Endpoint.problem?_ne_empty⟩

theorem load_scans_given :
    (∃ settings, Settings.load ⟨"/root", []⟩ (Settings.sizedEnvironment "7")
        { serverUrl := some " http://h ", pageSize := some 1 } = .ok settings ∧
      let navigator := Plan.navigator ⟨settings, .empty, ⟨⟨[], [], none⟩, false, false⟩⟩
      let scan := navigator.discover Navigator.untilSecond true 0 Channel.twoPages
      Serves navigator settings ∧ (∃ request sent, scan.channel.requests.toList = request :: sent) ∧
        ∀ cause, scan.outcome ≠ .error (.resolution cause)) ∧
    Endpoint.problem? (some "http://") = some "missing host" ∧ "missing host" ≠ "" := by
  have textual : Store.empty.IsTextual := nofun
  have foreign := Channel.twoPages_isForeign
  have host : Endpoint.problem? (some "http://") = some "missing host" := by decide
  have isOk : (Settings.load ⟨"/root", []⟩ (Settings.sizedEnvironment "7")
      { serverUrl := some " http://h ", pageSize := some 1 }).isOk = true := by decide
  cases loads : Settings.load ⟨"/root", []⟩ (Settings.sizedEnvironment "7")
      { serverUrl := some " http://h ", pageSize := some 1 } with
  | error failure =>
      rw [loads] at isOk
      cases isOk
  | ok settings =>
      obtain ⟨serves, scans⟩ :=
        load_scans.1 _ _ _ _ settings loads .empty ⟨⟨[], [], none⟩, false, false⟩
      obtain ⟨requested, own⟩ := scans textual Navigator.untilSecond true 0 Channel.twoPages
      refine ⟨⟨settings, rfl, serves, requested, ?_⟩, host, (load_scans.2 _).2 _ host⟩
      intro cause failed
      obtain ⟨before, name, candidate, said⟩ := own foreign cause failed
      cases said

end Command

end ProjectScan
