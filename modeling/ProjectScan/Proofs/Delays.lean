import ProjectScan.Proofs.Hiccups
import ProjectScan.Proofs.Observation

/-!
Scans of a server with hiccups. Next to a scan of the same responses without them, every request is
repeated for the hiccups in front of its response, with a pause and a call each; the observer is told
the same and the scan comes to the same end.
-/

namespace ProjectScan

/-- A response and the hiccups that stand in front of it. -/
structure Delayed where
  hiccups : List Reply
  response : Response

namespace Delayed

/-- The response ends its request, which has attempts enough for the hiccups. -/
structure Fits (delayed : Delayed) (maxRetries : Int) : Prop where
  steady : Client.isTransient delayed.response.status = false
  areHiccups : ∀ hiccup ∈ delayed.hiccups, hiccup.IsHiccup
  few : delayed.hiccups.length ≤ maxRetries - 1

def smooth (script : List Delayed) : List Turn :=
  script.map fun delayed => .once (.response delayed.response)

def rough (script : List Delayed) : List Turn :=
  script.flatMap fun delayed => delayed.hiccups.map .once ++ [.once (.response delayed.response)]

def hiccupCount (script : List Delayed) : Nat := (script.flatMap (·.hiccups)).length

def repeated (requests : List Request) (script : List Delayed) : List Request :=
  (List.zipWith (fun request delayed => List.replicate (delayed.hiccups.length + 1) request)
    requests script).flatten

theorem rough_cons (delayed : Delayed) (rest : List Delayed) :
    rough (delayed :: rest) =
      delayed.hiccups.map .once ++ .once (.response delayed.response) :: rough rest := by
  unfold rough
  rw [List.flatMap_cons, List.append_assoc]
  rfl

theorem hiccupCount_concat (script : List Delayed) (delayed : Delayed) :
    hiccupCount (script ++ [delayed]) = hiccupCount script + delayed.hiccups.length := by
  unfold hiccupCount
  rw [List.flatMap_append, List.length_append, List.flatMap_singleton]

theorem repeated_concat {requests : List Request} {script : List Delayed}
    (same : requests.length = script.length) (request : Request) (delayed : Delayed) :
    repeated (requests ++ [request]) (script ++ [delayed]) =
      repeated requests script ++ List.replicate (delayed.hiccups.length + 1) request := by
  unfold repeated
  rw [List.zipWith_append same, List.flatten_append]
  simp

end Delayed

/-! ### Scans side by side -/

def Channel.before (turns : List Turn) (afterwards : Reply) (journal : Log.Journal)
    (cancelled : Bool) : Channel :=
  { Channel.fresh turns afterwards journal with cancelled }

open Delayed (smooth rough hiccupCount repeated)

/-- Two scans stand at the same place of a script, the second with the hiccups. -/
structure Abreast (done rest : List Delayed) (maxRetries : Int) (first : Pager) (channel : Channel)
    (second : Pager) (other : Channel) : Prop where
  pager : second = { first with client := second.client }
  client : first.client.Recounts second.client
  isOpen : first.client.closed = false
  retries : first.client.maxRetries = maxRetries
  total : second.client.tally.total = first.client.tally.total + hiccupCount done
  left : channel.turns = smooth rest
  otherLeft : other.turns = rough rest
  sent : channel.requests.size = done.length
  resent : other.requests.toList = repeated channel.requests.toList done
  pauses : channel.pauses.size = 0
  otherPauses : other.pauses.size = hiccupCount done
  cancelled : other.cancelled = channel.cancelled

namespace Abreast

variable {done rest : List Delayed} {maxRetries : Int} {first second : Pager}
  {channel other : Channel}

theorem overlaid (abreast : Abreast done rest maxRetries first channel second other)
    (journal noted : Log.Journal) (wish : Bool) :
    Abreast done rest maxRetries first (channel.overlaid journal wish) second
      (other.overlaid noted wish) :=
  { abreast with
    cancelled := by
      rw [Channel.cancelled_overlaid, Channel.cancelled_overlaid, abreast.cancelled] }

theorem get {delayed : Delayed}
    (abreast : Abreast done (delayed :: rest) maxRetries first channel second other)
    (fits : delayed.Fits maxRetries) (few : maxRetries ≤ 1024) (path : String)
    (params : List (String × Json)) :
    ∃ answer after later after' later',
      first.client.get path params channel = (answer, after, later) ∧
      second.client.get path params other = (answer, after', later') ∧
      Abreast (done ++ [delayed]) rest maxRetries { first with client := after } later
        { second with client := after' } later' := by
  have firstFew : first.client.maxRetries ≤ 1024 := by
    have same := abreast.retries
    omega
  have enough : delayed.hiccups.length ≤ first.client.maxRetries - 1 := by
    have same := abreast.retries
    have bound := fits.few
    omega
  have sameRetries := abreast.client.maxRetries
  have noHiccup : ∀ hiccup ∈ ([] : List Reply), hiccup.IsHiccup := nofun
  obtain ⟨after, later, got, recounts, total, moved⟩ := first.client.get_delayed abreast.isOpen
    abreast.left noHiccup fits.steady (Nat.zero_le _) firstFew path params
  obtain ⟨after', later', got', recounts', total', moved'⟩ := second.client.get_delayed
    (abreast.client.closed.trans abreast.isOpen)
    (abreast.otherLeft.trans (Delayed.rough_cons delayed rest)) fits.areHiccups fits.steady
    (sameRetries ▸ enough) (sameRetries ▸ firstFew) path params
  have request : second.client.requestFor path params = first.client.requestFor path params :=
    abreast.client.requestFor path params
  have asked : later.requests.toList =
      channel.requests.toList ++ [first.client.requestFor path params] := moved.requests
  have sent : channel.requests.toList.length = done.length := abreast.sent
  refine ⟨_, after, later, after', later', got, got', ?_⟩
  exact
    { pager := by rw [abreast.pager]
      client := (recounts.symm.trans abreast.client).trans recounts'
      isOpen := recounts.closed.trans abreast.isOpen
      retries := by rw [recounts.maxRetries, abreast.retries]
      total := by
        rw [total', total, abreast.total, Delayed.hiccupCount_concat, List.length_nil]
        omega
      left := moved.turns
      otherLeft := moved'.turns
      sent := by
        rw [← Array.length_toList, asked, List.length_append, List.length_append, sent,
          List.length_singleton, List.length_singleton]
      resent := by
        rw [moved'.requests, abreast.resent, asked, Delayed.repeated_concat sent, request]
      pauses := by rw [moved.pauses, abreast.pauses, List.length_nil]
      otherPauses := by rw [moved'.pauses, abreast.otherPauses, Delayed.hiccupCount_concat]
      cancelled := by rw [moved'.cancelled, moved.cancelled, abreast.cancelled] }

theorem turnedBy {after after' : Client}
    (abreast : Abreast done rest maxRetries { first with client := after } channel
      { second with client := after' } other)
    (same : second = { first with client := second.client }) (result : Except Failure Page) :
    Abreast done rest maxRetries (first.turnedBy result after) channel
      (second.turnedBy result after') other := by
  cases result with
  | error failure => exact abreast
  | ok page =>
      refine { abreast with pager := ?_ }
      unfold Pager.turnedBy
      rw [same]

theorem turnPage (abreast : Abreast done rest maxRetries first channel second other)
    (fits : ∀ delayed ∈ rest, delayed.Fits maxRetries) (few : maxRetries ≤ 1024) (taken : Nat) :
    (done ++ rest).length < (first.turnPage taken channel).2.2.requests.size ∨
      (first.turnPage taken channel).1 = (second.turnPage taken other).1 ∧
        ∃ passed left, passed ++ left = done ++ rest ∧
          Abreast passed left maxRetries (first.turnPage taken channel).2.1
            (first.turnPage taken channel).2.2 (second.turnPage taken other).2.1
            (second.turnPage taken other).2.2 := by
  have samePages : second.pagesFetched = first.pagesFetched := by rw [abreast.pager]
  have sameLimit : second.maxPages = first.maxPages := by rw [abreast.pager]
  have sameParams : second.pageParams taken = first.pageParams taken := by
    rw [abreast.pager]
    rfl
  rcases Nat.lt_or_ge first.pagesFetched first.maxPages with allowed | reached
  · cases rest with
    | nil =>
        -- No response is left: whatever the request meets, it is one more than there are responses.
        left
        obtain ⟨count, positive, asked⟩ := first.turnPage_requests taken channel
        have sizes := congrArg List.length asked
        rw [List.length_append, List.length_replicate, Array.length_toList, Array.length_toList,
          abreast.sent] at sizes
        have begun := positive allowed abreast.isOpen
        rw [List.append_nil]
        omega
    | cons delayed rest =>
        right
        obtain ⟨answer, after, later, after', later', got, got', onwards⟩ := abreast.get
          (fits delayed List.mem_cons_self) few Pager.listingPath (first.pageParams taken)
        obtain ⟨journal, turns⟩ := first.turnPage_of_get taken 0 allowed got
        rw [← sameParams] at got'
        obtain ⟨noted, turns'⟩ := second.turnPage_of_get taken 0
          (by rw [samePages, sameLimit]; exact allowed) got'
        rw [turns, turns', samePages]
        refine ⟨rfl, done ++ [delayed], rest, ?_, ?_⟩
        · rw [List.append_assoc]
          rfl
        · rw [Channel.journal_eq_overlaid, Channel.journal_eq_overlaid]
          exact (onwards.turnedBy abreast.pager _).overlaid journal noted false
  · right
    have reached' : second.maxPages ≤ second.pagesFetched := by
      rw [samePages, sameLimit]
      exact reached
    rw [Pager.turnPage_limit reached, Pager.turnPage_limit reached', sameLimit]
    exact ⟨rfl, done, rest, rfl, abreast⟩

end Abreast

namespace Navigator

variable {σ : Type}

theorem visit_abreast {script : List Delayed} {maxRetries : Int}
    (fits : ∀ delayed ∈ script, delayed.Fits maxRetries) (few : maxRetries ≤ 1024)
    (blueprint : Blueprint) (observer : Observer σ) (sink : Log.Sink) (watched : Bool) :
    Pager.Simulation (visit blueprint observer sink watched)
      (visit blueprint observer sink watched)
      (fun now mirror => mirror = now ∧ now.session.isOpen = true)
      (fun first channel second other => ∃ done rest, done ++ rest = script ∧
        Abreast done rest maxRetries first channel second other)
      (fun channel => script.length < channel.requests.size) where
  limit := by
    rintro first second channel other ⟨done, rest, _, abreast⟩
    rw [abreast.pager]
  turn := by
    rintro first second channel other ⟨done, rest, rfl, abreast⟩ taken
    exact abreast.turnPage (fun delayed member => fits delayed (List.mem_append_right done member))
      few taken
  visit := by
    rintro first second channel other ⟨⟨isOpen, seen, early⟩, state⟩ _
      ⟨done, rest, whole, abreast⟩ ⟨rfl, rfl⟩ project
    obtain ⟨noted, same⟩ := visit_overlaid blueprint observer sink seen early state project channel
      channel.journal false watched
    obtain ⟨others, image⟩ := visit_overlaid blueprint observer sink seen early state project other
      other.journal false watched
    rw [Channel.overlaid_self] at same image
    rw [same, image, abreast.cancelled]
    exact ⟨rfl, ⟨rfl, rfl⟩, done, rest, whole, abreast.overlaid noted others _⟩
  turnEscaped := by
    intro channel escaped pager taken
    obtain ⟨count, _, asked⟩ := pager.turnPage_requests taken channel
    have sizes := congrArg List.length asked
    rw [List.length_append, Array.length_toList, Array.length_toList] at sizes
    omega
  visitEscaped := by
    intro channel escaped state project
    rw [visit_requests]
    exact escaped

variable (navigator : Navigator) (observer : Observer σ) (watched : Bool) (state : σ)
  {script : List Delayed} (afterwards others : Reply) (journal noted : Log.Journal)
  (cancelled : Bool)

theorem abreast_pagerFor (retries : 1 ≤ navigator.maxRetries) (endpoint : Endpoint)
    (credential : Option Credential) (sink : Log.Sink) :
    Abreast [] script navigator.maxRetries (navigator.pagerFor endpoint credential sink).restarted
      (.before (smooth script) afterwards journal cancelled)
      (navigator.pagerFor endpoint credential sink).restarted
      (.before (rough script) others noted cancelled) where
  pager := rfl
  client := .refl _
  isOpen := rfl
  retries := Int.toNat_of_nonneg (Int.le_trans (by decide) retries)
  total := rfl
  left := rfl
  otherLeft := rfl
  sent := rfl
  resent := rfl
  pauses := rfl
  otherPauses := rfl
  cancelled := rfl

section Rough

variable (fits : ∀ delayed ∈ script, delayed.Fits navigator.maxRetries)
  (few : navigator.maxRetries ≤ 1024)
include fits few

/-- A scan and the scan with the hiccups leave the observer in the same state and come to the same
end. -/
theorem discover_abreast
    (within : (navigator.discover observer watched state
      (.before (smooth script) afterwards journal cancelled)).channel.requests.size ≤
        script.length) :
    let first := navigator.discover observer watched state
      (.before (smooth script) afterwards journal cancelled)
    let second := navigator.discover observer watched state
      (.before (rough script) others noted cancelled)
    let met := script.take first.channel.requests.size
    second.state = first.state ∧
      second.outcome = first.outcome.map (fun summary =>
        { summary with apiCalls := summary.apiCalls + hiccupCount met }) ∧
      second.channel.requests.toList = repeated first.channel.requests.toList met ∧
      first.channel.pauses.size = 0 ∧ second.channel.pauses.size = hiccupCount met := by
  dsimp only
  cases ready : navigator.prepared (navigator.scanSink observer) with
  | error failed =>
      obtain ⟨failure, client⟩ := failed
      obtain ⟨_, first⟩ := navigator.discover_of_error observer watched state
        (.before (smooth script) afterwards journal cancelled) ready
      obtain ⟨_, second⟩ := navigator.discover_of_error observer watched state
        (.before (rough script) others noted cancelled) ready
      rw [first, second]
      exact ⟨rfl, rfl, rfl, rfl, rfl⟩
  | ok pager =>
      obtain ⟨retries, endpoint, credential, made⟩ := navigator.eq_pagerFor_of_prepared ready
      obtain ⟨opened, closed, outcome, after, later⟩ := navigator.discover_of_pager observer watched
        state (.before (smooth script) afterwards journal cancelled) ready
      obtain ⟨begun, ended, outcome', after', later'⟩ := navigator.discover_of_pager observer watched
        state (.before (rough script) others noted cancelled) ready
      have begins : Abreast [] script navigator.maxRetries pager.restarted _ pager.restarted _ :=
        made ▸ (navigator.abreast_pagerFor afterwards others journal noted cancelled retries endpoint
          credential (navigator.scanSink observer)).overlaid opened begun false
      have simulation := visit_abreast fits few
        (navigator.blueprint pager.client.endpoint pager.client.authenticated) observer
        (navigator.scanSink observer) watched
      have opens (start : Visit σ) (isOpen : start.session.isOpen = true) :
          start = start ∧ start.session.isOpen = true := ⟨rfl, isOpen⟩
      rw [later] at within
      rcases simulation.walk_fresh ⟨[], script, rfl, begins⟩ (opens ⟨⟨true, 0, false⟩, state⟩ rfl) with
        beyond | ⟨ending, ⟨states, _⟩, done, rest, whole, abreast⟩
      · exact absurd within (Nat.not_le.mpr beyond)
      · rw [later, later', outcome, outcome', after, after', states]
        dsimp only [Channel.requests_overlaid, Channel.pauses_overlaid]
        have met : script.take done.length = done := by rw [← whole, List.take_left]
        rw [abreast.sent, met]
        refine ⟨rfl, ?_, abreast.resent, abreast.pauses, abreast.otherPauses⟩
        exact navigator.concluded_of_recounts ending (by rw [states]) abreast.pager abreast.client
          abreast.total

/-- Hiccups are invisible to the observer. As long as the scan of the responses alone does not run out
of them, the scan with the hiccups makes the same calls of the observer and comes to the same end; it
repeats every request for the hiccups in front of its response, and counts and pauses for them. -/
theorem discover_rough
    (within : (navigator.discover observer watched state
      (.before (smooth script) afterwards journal cancelled)).channel.requests.size ≤
        script.length) :
    let alone := Channel.before (smooth script) afterwards journal cancelled
    let delayed := Channel.before (rough script) others noted cancelled
    let first := navigator.discover observer watched state alone
    let second := navigator.discover observer watched state delayed
    let met := script.take first.channel.requests.size
    navigator.calls observer watched state delayed = navigator.calls observer watched state alone ∧
      second.state = first.state ∧
      second.outcome = first.outcome.map (fun summary =>
        { summary with apiCalls := summary.apiCalls + hiccupCount met }) ∧
      second.channel.requests.toList = repeated first.channel.requests.toList met ∧
      first.channel.pauses.size = 0 ∧ second.channel.pauses.size = hiccupCount met := by
  -- The calls are a state of the recorded observer, for which the same holds.
  have unrecorded := navigator.discover_abreast observer watched state afterwards others journal
    noted cancelled fits few within
  obtain ⟨_, _, sameRequests⟩ := navigator.discover_recorded observer watched state
    (.before (smooth script) afterwards journal cancelled)
  have recorded := navigator.discover_abreast observer.recorded watched (state, []) afterwards others
    journal noted cancelled fits few (by rw [sameRequests]; exact within)
  exact ⟨congrArg Prod.snd recorded.1, unrecorded⟩

end Rough

/-- A scan whose first reply is too deep comes to nothing else, even if the reply is worth another
attempt. -/
theorem discover_tooDeep {pager : Pager} {channel : Channel} {response : Response}
    {excess : Json.Excess} (ready : navigator.prepared (navigator.scanSink observer) = .ok pager)
    (pages : 1 ≤ navigator.maxPages) (meets : channel.reply 0 = .response response)
    (deep : response.excess? = some excess) :
    (navigator.discover observer watched state channel).outcome =
      .error (.json (.tooDeep excess)) := by
  obtain ⟨_, endpoint, credential, made⟩ := navigator.eq_pagerFor_of_prepared ready
  obtain ⟨opened, _, outcome, _⟩ := navigator.discover_of_pager observer watched state channel ready
  have some : pager.maxPages = pager.maxPages - 1 + 1 := by
    rw [made]
    change navigator.maxPages.toNat = navigator.maxPages.toNat - 1 + 1
    omega
  have isOpen : pager.client.closed = false := by rw [made]; rfl
  have allowed : pager.restarted.pagesFetched < pager.restarted.maxPages := by
    change 0 < pager.maxPages
    omega
  have here : (channel.overlaid opened false).reply 0 = .response response := meets
  obtain ⟨_, got⟩ := pager.restarted.client.get_tooDeep here isOpen deep Pager.listingPath
    (pager.restarted.pageParams 0)
  obtain ⟨_, turns⟩ := pager.restarted.turnPage_of_get 0 0 allowed got
  rw [outcome]
  unfold Pager.walk
  dsimp only
  rw [some, Pager.walkPages, turns]
  rfl

def bumpy : List Delayed :=
  [⟨[.failure (.transport .connection "refused"), .response (.prompt 503 "")],
      .prompt 200 "\x7b\"a\": \x7b\"_more_projects\": true\x7d\x7d"⟩,
    ⟨[.response (.prompt 429 "" [("Retry-After", "7")])],
      .prompt 200 "\x7b\"b\": \x7b\x7d\x7d"⟩]

theorem bumpy_fits : ∀ delayed ∈ bumpy, delayed.Fits plain.maxRetries := by
  have empty : Json.excess? Json.usualRoom [] = none := by decide +kernel
  intro delayed member
  rcases List.mem_cons.mp member with rfl | last
  · refine ⟨by decide, ?_, by decide⟩
    intro hiccup among
    rcases List.mem_cons.mp among with rfl | second
    · trivial
    · rw [List.mem_singleton.mp second]
      exact ⟨by decide, nofun, empty⟩
  · rw [List.mem_singleton.mp last]
    refine ⟨by decide, ?_, by decide⟩
    intro hiccup among
    rw [List.mem_singleton.mp among]
    refine ⟨by decide, ?_, empty⟩
    have asked : Client.wantedPause [("Retry-After", "7")] = some 7 := by decide +kernel
    intro seconds wanted
    cases asked.symm.trans wanted
    decide +kernel

theorem discover_rough_bumpy :
    let afterwards := Reply.failure (.transport .connection "script exhausted")
    let alone := Channel.before (smooth bumpy) afterwards (.empty Log.Level.info) false
    let delayed := Channel.before (rough bumpy) afterwards (.empty Log.Level.info) false
    let second := plain.discover untilSecond true 0 delayed
    plain.calls untilSecond true 0 delayed = plain.calls untilSecond true 0 alone ∧
      second.outcome.map (·.apiCalls) = .ok 5 ∧ second.channel.requests.size = 5 ∧
      second.channel.pauses.size = 3 := by
  intro afterwards alone delayed second
  have two : (plain.discover untilSecond true 0 alone).channel.requests.size = 2 := by
    decide +kernel
  obtain ⟨calls, _, outcome, requests, _, pauses⟩ := plain.discover_rough untilSecond true 0
    afterwards afterwards (.empty Log.Level.info) (.empty Log.Level.info) false bumpy_fits (by decide)
    (Nat.le_of_eq two)
  refine ⟨calls, ?_, ?_, ?_⟩
  · rw [outcome]
    decide +kernel
  · rw [← Array.length_toList, requests]
    decide +kernel
  · rw [pauses, two]
    rfl

def stumble : List Delayed :=
  [⟨[.response (.brackets 503)], .prompt 200 "\x7b\"a\": \x7b\x7d\x7d"⟩]

/-- A reply that is worth another attempt is not invisible if it is too deep. -/
theorem deep_hiccup_visible :
    let afterwards := Reply.failure (.transport .connection "script exhausted")
    let alone := Channel.before (smooth stumble) afterwards (.empty Log.Level.info) false
    let delayed := Channel.before (rough stumble) afterwards (.empty Log.Level.info) false
    Client.isTransient (Response.brackets 503).status = true ∧
      Client.wantedPause (Response.brackets 503).headers = none ∧
      (plain.discover untilSecond true 0 alone).outcome.map (·.projectsSeen) = .ok 1 ∧
      (plain.discover untilSecond true 0 delayed).outcome = .error (.json (.tooDeep .list)) := by
  intro afterwards alone delayed
  refine ⟨by decide, by decide, by decide +kernel, ?_⟩
  cases ready : plain.prepared (plain.scanSink untilSecond) with
  | error failed => cases ready
  | ok pager =>
      exact plain.discover_tooDeep untilSecond true 0 ready (by decide) rfl
        (Response.excess?_brackets 503)

end Navigator

end ProjectScan
