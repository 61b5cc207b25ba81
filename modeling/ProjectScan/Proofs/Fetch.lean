import ProjectScan.Proofs.Exchange
import ProjectScan.Proofs.Listing

/-!
The fetches of pages that a client makes one after the other. What was sent is what the fetches
asked for; a failure among replies from outside is never one that only listings report, so a
failure that names a page names the page that was fetched.
-/

namespace ProjectScan

/-- One fetch of a page: the number it was given, the projects it skips, how often the client sent
the request, and what the client brought. -/
structure Fetch where
  number : Nat
  skip : Nat
  attempts : Nat
  answer : Except Failure Client.Answer

namespace Fetch

def result (fetch : Fetch) : Except Failure Page :=
  match fetch.answer with
  | .error failure => .error (Pager.pageFailure fetch.number failure)
  | .ok answer => Page.ofAnswer fetch.number answer.status answer.value

def projects (fetch : Fetch) : List Project :=
  match fetch.result with
  | .ok page => page.projects
  | .error _ => []

def goesOn (fetch : Fetch) : Bool :=
  match fetch.result with
  | .ok page => page.more
  | .error _ => false

def listed (fetches : List Fetch) : List Project := fetches.flatMap projects

def requests (pager : Pager) (fetches : List Fetch) : List Request :=
  fetches.flatMap fun fetch => List.replicate fetch.attempts
    (pager.client.requestFor Pager.listingPath (pager.pageParams fetch.skip))

theorem projects_of_ok {fetch : Fetch} {page : Page} (found : fetch.result = .ok page) :
    fetch.projects = page.projects := by
  unfold projects
  rw [found]

theorem projects_of_error {fetch : Fetch} {failure : Failure}
    (failed : fetch.result = .error failure) : fetch.projects = [] := by
  unfold projects
  rw [failed]

theorem goesOn_of_ok {fetch : Fetch} {page : Page} (found : fetch.result = .ok page) :
    fetch.goesOn = page.more := by
  unfold goesOn
  rw [found]

theorem goesOn_of_error {fetch : Fetch} {failure : Failure}
    (failed : fetch.result = .error failure) : fetch.goesOn = false := by
  unfold goesOn
  rw [failed]

theorem projects_ne_nil {fetch : Fetch} (more : fetch.goesOn = true) : fetch.projects ≠ [] := by
  cases found : fetch.result with
  | error failure =>
      rw [goesOn_of_error found] at more
      cases more
  | ok page =>
      rw [goesOn_of_ok found] at more
      rw [projects_of_ok found]
      exact page.nonempty_of_more more

theorem listed_append (first second : List Fetch) :
    listed (first ++ second) = listed first ++ listed second := List.flatMap_append

@[simp] theorem listed_singleton (fetch : Fetch) : listed [fetch] = fetch.projects := by
  unfold listed
  rw [List.flatMap_singleton]

theorem cases_of_getElem?_concat {fetches : List Fetch} {fetch other : Fetch} {index : Nat}
    (found : (fetches ++ [fetch])[index]? = some other) :
    fetches[index]? = some other ∨ (index = fetches.length ∧ other = fetch) := by
  rcases Nat.lt_or_ge index fetches.length with before | atEnd
  · rw [List.getElem?_append_left before] at found
    exact .inl found
  · rw [List.getElem?_append_right atEnd] at found
    have here : index = fetches.length := by
      have bound := (List.getElem?_eq_some_iff.mp found).1
      rw [List.length_singleton] at bound
      omega
    subst here
    rw [Nat.sub_self] at found
    cases found
    exact .inr ⟨rfl, rfl⟩

/-- Calls of the client that were made one after the other, from a client and a channel to those
after them. Between two calls something may be noted. -/
inductive Made (pager : Pager) (client : Client) (channel : Channel) :
    List Fetch → Client → Channel → Prop
  | none : Made pager client channel [] client channel
  | noted {fetches : List Fetch} {before : Client} {earlier : Channel} (journal : Log.Journal) :
      Made pager client channel fetches before earlier →
      Made pager client channel fetches before { earlier with journal := journal }
  | fetched {fetches : List Fetch} {before after : Client} {earlier later : Channel} (fetch : Fetch) :
      Made pager client channel fetches before earlier →
      before.get Pager.listingPath (pager.pageParams fetch.skip) earlier =
        (fetch.answer, after, later) →
      later.requests.size = earlier.requests.size + fetch.attempts →
      Made pager client channel (fetches ++ [fetch]) after later

namespace Made

variable {pager : Pager} {client after : Client} {channel later : Channel} {fetches : List Fetch}

theorem recounts (made : Made pager client channel fetches after later) :
    client.Recounts after := by
  induction made with
  | none => exact .refl client
  | noted journal _ ih => exact ih
  | @fetched fetches before after earlier later fetch _ got _ ih =>
      have once := before.get_recounts earlier Pager.listingPath (pager.pageParams fetch.skip)
      rw [got] at once
      exact ih.trans once

theorem requests (made : Made pager pager.client channel fetches after later) :
    later.requests.toList = channel.requests.toList ++ Fetch.requests pager fetches := by
  induction made with
  | none => exact (List.append_nil _).symm
  | noted journal _ ih => exact ih
  | @fetched fetches before after earlier later fetch made got counted ih =>
      have same := made.recounts
      obtain ⟨count, _, sent⟩ :=
        before.get_requests earlier Pager.listingPath (pager.pageParams fetch.skip)
      rw [got] at sent
      change later.requests.toList = _ at sent
      have attempts : count = fetch.attempts := by
        have sizes := congrArg List.length sent
        simp only [Array.length_toList, List.length_append, List.length_replicate] at sizes
        omega
      have request : before.requestFor Pager.listingPath (pager.pageParams fetch.skip) =
          pager.client.requestFor Pager.listingPath (pager.pageParams fetch.skip) :=
        same.requestFor _ _
      rw [sent, ih, attempts, request, List.append_assoc]
      unfold Fetch.requests
      rw [List.flatMap_append, List.flatMap_singleton]

theorem attempts_pos (made : Made pager client channel fetches after later)
    (isOpen : client.closed = false) : ∀ fetch ∈ fetches, 0 < fetch.attempts := by
  induction made with
  | none => nofun
  | noted journal _ ih => exact ih
  | @fetched fetches before after earlier later fetch made got counted ih =>
      intro other member
      rcases List.mem_append.mp member with among | new
      · exact ih other among
      · rw [List.mem_singleton.mp new]
        obtain ⟨count, positive, sent⟩ :=
          before.get_requests earlier Pager.listingPath (pager.pageParams fetch.skip)
        rw [got] at sent
        have sizes := congrArg List.length sent
        simp only [Array.length_toList, List.length_append, List.length_replicate] at sizes
        have atLeastOnce := positive (made.recounts.closed.trans isOpen)
        omega

end Made

end Fetch

/-- The failure is not that of a page, of a listing without end or of a scan's own address. -/
structure Failure.IsPlain (failure : Failure) : Prop where
  noPage : failure.page? = none
  noLimit : ∀ maxPages, failure ≠ .pageLimit maxPages
  noResolution : ∀ cause, failure ≠ .resolution cause

/-- A response, or a failure of the transport, of JSON text or from elsewhere outside. -/
def Reply.IsForeign : Reply → Prop
  | .response _ | .failure (.transport _ _) | .failure (.outside _ _) | .failure (.json _) => True
  | .failure _ => False

theorem Reply.IsForeign.met {reply : Reply} (foreign : reply.IsForeign) : reply.met.IsForeign := by
  cases reply with
  | failure cause => exact foreign
  | response sent =>
      cases deep : sent.excess? with
      | none =>
          rw [Reply.met_of_readable deep]
          trivial
      | some excess =>
          rw [Reply.met_of_excess deep]
          trivial

def Channel.IsForeign (channel : Channel) : Prop :=
  (∀ turn ∈ channel.turns, turn.reply.IsForeign) ∧ channel.afterwards.IsForeign

theorem Channel.IsForeign.send {channel : Channel} (foreign : channel.IsForeign)
    (request : Request) :
    (channel.send request).1.IsForeign ∧ (channel.send request).2.IsForeign := by
  obtain ⟨replies, afterwards⟩ := foreign
  unfold Channel.send
  dsimp only
  split
  · rename_i turns
    refine ⟨afterwards, ?_, afterwards⟩
    intro turn member
    rw [turns] at member
    cases member
  · rename_i turn rest turns
    rw [turns] at replies
    refine ⟨replies turn List.mem_cons_self, ?_, afterwards⟩
    intro other member
    change other ∈ (if turn.stays then turn :: rest else rest) at member
    split at member
    · exact replies other member
    · exact replies other (List.mem_cons_of_mem turn member)

theorem Channel.IsForeign.pause {channel : Channel} (foreign : channel.IsForeign)
    (seconds : Number.Binary64) : (channel.pause seconds).2.IsForeign := by
  unfold Channel.pause
  split <;> exact foreign

theorem Failure.isPlain_outside (kind : FaultKind) (message : String) :
    (Failure.outside kind message).IsPlain := ⟨rfl, nofun, nofun⟩

namespace Client

variable (client : Client) (request : Request) (attempt : Nat) {channel : Channel}

theorem pauseAfter_isPlain {number : Int} {wanted : Option Int} {failure : Failure}
    (failed : pauseAfter number wanted = .error failure) : failure.IsPlain := by
  unfold pauseAfter at failed
  dsimp only at failed
  split at failed
  · cases failed
    exact ⟨rfl, nofun, nofun⟩
  · cases failed

theorem pauseFor_isPlain {reason : String} {seconds : Number.Binary64} {failure : Failure}
    {later : Channel}
    (failed : client.pauseFor reason attempt seconds channel = (.error failure, later)) :
    failure.IsPlain := by
  unfold pauseFor Channel.pause at failed
  split at failed
  · rename_i fault refused
    cases failed
    unfold Channel.pauseFault? at refused
    split at refused
    · cases refused
      exact ⟨rfl, nofun, nofun⟩
    · split at refused
      · cases refused
        exact ⟨rfl, nofun, nofun⟩
      · cases refused
  · cases failed

private theorem pausing_isPlain (foreign : channel.IsForeign) (counted : Client) (reason : String)
    (seconds : Number.Binary64) {trial : Option (Except Failure Answer) × Client × Channel}
    (paused : trial = match client.pauseFor reason attempt seconds channel with
      | (.error failure, channel) => (some (.error failure), counted, channel)
      | (.ok _, channel) => (none, counted, channel)) :
    (∀ failure, trial.1 = some (.error failure) → failure.IsPlain) ∧ trial.2.2.IsForeign := by
  have noted : (channel.note client.sink Log.Level.warning
      (reason ++ client.retryText attempt seconds)).IsForeign := foreign
  have later : (client.pauseFor reason attempt seconds channel).2.IsForeign := noted.pause seconds
  cases went : client.pauseFor reason attempt seconds channel with
  | mk verdict after =>
      rw [went] at paused later
      subst paused
      cases verdict with
      | error failure =>
          refine ⟨?_, later⟩
          intro other failed
          cases failed
          exact client.pauseFor_isPlain attempt went
      | ok _ => exact ⟨nofun, later⟩

theorem sendOnce_isForeign (foreign : channel.IsForeign) :
    (client.sendOnce request attempt channel).1.IsForeign ∧
      (client.sendOnce request attempt channel).2.IsForeign := by
  unfold sendOnce
  have noted : (channel.note client.sink Log.Level.debug
      ("GET " ++ request.url ++ " params=" ++ (Json.object request.params).displayed ++
        " (attempt " ++ Number.naturalText (attempt + 1) ++ ")")).IsForeign := foreign
  have sent := noted.send request
  have met := sent.1.met
  dsimp only
  split
  · exact ⟨trivial, sent.2⟩
  · rename_i failure same
    rw [same] at met
    exact ⟨met, sent.2⟩

theorem lastAttempt_isPlain (foreign : channel.IsForeign) :
    (∀ failure, (client.lastAttempt request attempt channel).1 = .error failure →
      failure.IsPlain) ∧ (client.lastAttempt request attempt channel).2.2.IsForeign := by
  have sent := client.counted.sendOnce_isForeign request attempt foreign
  unfold lastAttempt
  dsimp only
  generalize client.counted.sendOnce request attempt channel = exchange at sent ⊢
  obtain ⟨reply, after⟩ := exchange
  cases reply with
  | response response => exact ⟨nofun, sent.2⟩
  | failure failure =>
      cases failure with
      | transport kind message =>
          refine ⟨?_, sent.2⟩
          intro failure failed
          cases failed
          exact ⟨rfl, nofun, nofun⟩
      | outside kind message =>
          refine ⟨?_, sent.2⟩
          intro failure failed
          cases failed
          exact Failure.isPlain_outside kind message
      | json fault =>
          refine ⟨?_, sent.2⟩
          intro failure failed
          cases failed
          exact ⟨rfl, nofun, nofun⟩
      | _ => exact sent.1.elim

theorem earlierAttempt_isPlain (foreign : channel.IsForeign) :
    (∀ failure, (client.earlierAttempt request attempt channel).1 = some (.error failure) →
      failure.IsPlain) ∧ (client.earlierAttempt request attempt channel).2.2.IsForeign := by
  have sent := client.counted.sendOnce_isForeign request attempt foreign
  unfold earlierAttempt
  dsimp only
  generalize client.counted.sendOnce request attempt channel = exchange at sent ⊢
  obtain ⟨reply, after⟩ := exchange
  cases reply with
  | response response =>
      dsimp only
      split
      · cases asked : pauseAfter attempt (wantedPause response.headers) with
        | error failure =>
            refine ⟨?_, sent.2⟩
            intro failure failed
            cases failed
            exact pauseAfter_isPlain asked
        | ok seconds => exact client.counted.pausing_isPlain attempt sent.2 _ _ seconds rfl
      · exact ⟨nofun, sent.2⟩
  | failure failure =>
      cases failure with
      | transport kind message =>
          dsimp only
          cases asked : pauseAfter attempt none with
          | error failure =>
              refine ⟨?_, sent.2⟩
              intro failure failed
              cases failed
              exact pauseAfter_isPlain asked
          | ok seconds => exact client.counted.pausing_isPlain attempt sent.2 _ _ seconds rfl
      | outside kind message =>
          refine ⟨?_, sent.2⟩
          intro failure failed
          cases failed
          exact Failure.isPlain_outside kind message
      | json fault =>
          refine ⟨?_, sent.2⟩
          intro failure failed
          cases failed
          exact ⟨rfl, nofun, nofun⟩
      | _ => exact sent.1.elim

theorem attempts_isPlain (foreign : channel.IsForeign) (left : Nat) :
    (∀ failure, (client.attempts request attempt channel left).1 = .error failure →
      failure.IsPlain) ∧ (client.attempts request attempt channel left).2.2.IsForeign := by
  induction left generalizing client attempt channel with
  | zero => exact client.lastAttempt_isPlain request attempt foreign
  | succ left ih =>
      have once := client.earlierAttempt_isPlain request attempt foreign
      unfold attempts
      generalize client.earlierAttempt request attempt channel = trial at once ⊢
      obtain ⟨ended, after, later⟩ := trial
      cases ended with
      | none => exact ih after (attempt + 1) once.2
      | some answer =>
          refine ⟨?_, once.2⟩
          intro failure failed
          exact once.1 failure (congrArg some failed)

theorem get_isPlain (foreign : channel.IsForeign) (path : String)
    (params : List (String × Json)) :
    (∀ failure, (client.get path params channel).1 = .error failure → failure.IsPlain) ∧
      (client.get path params channel).2.2.IsForeign := by
  unfold get
  split
  · refine ⟨?_, foreign⟩
    intro failure failed
    cases failed
    exact ⟨rfl, nofun, nofun⟩
  · exact client.attempts_isPlain _ 0 foreign _

end Client

namespace Fetch

theorem Made.isPlain {pager : Pager} {client after : Client} {channel later : Channel}
    {fetches : List Fetch} (made : Made pager client channel fetches after later)
    (foreign : channel.IsForeign) :
    (∀ fetch ∈ fetches, ∀ failure, fetch.answer = .error failure → failure.IsPlain) ∧
      later.IsForeign := by
  induction made with
  | none => exact ⟨nofun, foreign⟩
  | noted journal _ ih => exact ih
  | @fetched fetches before after earlier later fetch made got counted ih =>
      have plain := before.get_isPlain ih.2 Pager.listingPath (pager.pageParams fetch.skip)
      rw [got] at plain
      refine ⟨?_, plain.2⟩
      intro other member
      rcases List.mem_append.mp member with among | new
      · exact ih.1 other among
      · rw [List.mem_singleton.mp new]
        exact plain.1

theorem result_failure {fetch : Fetch} {failure : Failure}
    (failed : fetch.result = .error failure) :
    failure.page? = some (fetch.number : Int) ∨ (∃ kind, failure = .misfit kind) ∨
      fetch.answer = .error failure := by
  unfold result at failed
  cases answered : fetch.answer with
  | error cause =>
      rw [answered] at failed
      cases failed
      cases cause with
      | clientClosed => exact .inl rfl
      | exhausted url attempts last => exact .inl rfl
      | _ => exact .inr (.inr rfl)
  | ok answer =>
      rw [answered] at failed
      dsimp only at failed
      unfold Page.ofAnswer at failed
      split at failed
      · cases failed
        exact .inl rfl
      · split at failed
        · rcases Page.isFailure_of_ofEntries failed with ⟨kind, misfits⟩ | ⟨_, own⟩
          · exact .inr (.inl ⟨_, misfits⟩)
          · exact .inl own
        · cases failed
          exact .inl rfl

theorem page?_of_result {fetch : Fetch} {failure : Failure}
    (plain : ∀ cause, fetch.answer = .error cause → cause.IsPlain)
    (failed : fetch.result = .error failure) :
    (failure.page? = none ∨ failure.page? = some (fetch.number : Int)) ∧
      ∀ maxPages, failure ≠ .pageLimit maxPages := by
  rcases result_failure failed with own | ⟨kind, rfl⟩ | same
  · refine ⟨.inr own, ?_⟩
    rintro maxPages rfl
    cases own
  · exact ⟨.inl rfl, nofun⟩
  · have cause := plain failure same
    exact ⟨.inl cause.noPage, cause.noLimit⟩

theorem result_ne_resolution {fetch : Fetch}
    (plain : ∀ cause, fetch.answer = .error cause → cause.IsPlain) (cause : Failure) :
    fetch.result ≠ .error (.resolution cause) := by
  intro failed
  rcases result_failure failed with own | ⟨kind, misfits⟩ | same
  · cases own
  · cases misfits
  · exact (plain _ same).noResolution cause rfl

end Fetch

/-! ### Turning pages -/

namespace Pager

def turnedBy (pager : Pager) (result : Except Failure Page) (client : Client) : Pager :=
  match result with
  | .ok _ => { pager with client, pagesFetched := pager.pagesFetched + 1 }
  | .error _ => { pager with client }

@[simp] theorem client_turnedBy (pager : Pager) (result : Except Failure Page) (client : Client) :
    (pager.turnedBy result client).client = client := by
  cases result <;> rfl

theorem turnPage_of_get (pager : Pager) (taken attempts : Nat) {channel later : Channel}
    {answer : Except Failure Client.Answer} {client : Client}
    (allowed : pager.pagesFetched < pager.maxPages)
    (got : pager.client.get listingPath (pager.pageParams taken) channel =
      (answer, client, later)) :
    let fetch : Fetch := ⟨pager.pagesFetched + 1, taken, attempts, answer⟩
    ∃ journal, pager.turnPage taken channel =
      (fetch.result, pager.turnedBy fetch.result client, { later with journal := journal }) := by
  unfold turnPage fetchPage Fetch.result
  rw [if_neg (Nat.not_le_of_lt allowed)]
  simp only [got]
  cases answer with
  | error failure => exact ⟨later.journal, rfl⟩
  | ok answer =>
      dsimp only
      cases Page.ofAnswer ↑(pager.pagesFetched + 1) answer.status answer.value with
      | error failure => exact ⟨later.journal, rfl⟩
      | ok page => exact ⟨_, rfl⟩

theorem turnPage_limit {pager : Pager} (reached : pager.maxPages ≤ pager.pagesFetched)
    (taken : Nat) (channel : Channel) :
    pager.turnPage taken channel = (.error (.pageLimit pager.maxPages), pager, channel) := by
  unfold turnPage
  rw [if_pos reached]

theorem turnPage_requests (pager : Pager) (taken : Nat) (channel : Channel) : ∃ count,
    (pager.pagesFetched < pager.maxPages → pager.client.closed = false → 0 < count) ∧
      (pager.turnPage taken channel).2.2.requests.toList = channel.requests.toList ++
        List.replicate count (pager.client.requestFor listingPath (pager.pageParams taken)) := by
  rcases Nat.lt_or_ge pager.pagesFetched pager.maxPages with allowed | reached
  · obtain ⟨count, positive, sent⟩ :=
      pager.client.get_requests channel listingPath (pager.pageParams taken)
    refine ⟨count, fun _ => positive, ?_⟩
    obtain ⟨journal, turns⟩ := pager.turnPage_of_get taken count allowed rfl
    rw [turns]
    exact sent
  · refine ⟨0, fun allowed => absurd allowed (Nat.not_lt_of_le reached), ?_⟩
    rw [turnPage_limit reached, List.replicate_zero, List.append_nil]

theorem turnPage_recounts (pager : Pager) (taken : Nat) (channel : Channel) :
    pager.client.Recounts (pager.turnPage taken channel).2.1.client := by
  have once := pager.client.get_recounts channel listingPath (pager.pageParams taken)
  rcases Nat.lt_or_ge pager.pagesFetched pager.maxPages with allowed | reached
  · obtain ⟨journal, turns⟩ := pager.turnPage_of_get taken 0 allowed rfl
    rw [turns, client_turnedBy]
    exact once
  · rw [turnPage_limit reached]
    exact .refl pager.client

end Pager

end ProjectScan
