import ProjectScan.Proofs.GuardedBodies
import ProjectScan.Proofs.Lifecycle
import ProjectScan.Proofs.Retries

/-!
What a request of an open client comes to. It is sent until a response comes that is not worth
another attempt, or until all attempts are made, with a pause between two of them. It fails in another
way than the client reports of itself exactly if a pause is asked for that cannot be made.
-/

namespace ProjectScan

open Number (Binary64)

namespace Reply

/-- A response that is not worth another attempt: it neither refuses for too many requests nor tells of
an error of the server, or there is no stack to read its body. -/
def isLasting : Reply → Bool
  | .response sent => sent.excess?.isSome ||
      (sent.status ≠ 429 && !(500 ≤ sent.status && sent.status ≤ 599))
  | .failure _ => false

def backoff (attempt : Nat) : Reply → Nat
  | .response sent => Client.backoff attempt (Client.wantedPause sent.headers)
  | .failure _ => Client.backoff attempt none

/-- A failure of the transport, or a response that asks for no pause, for none that could be read, or
for one of no more than `10 ^ 300` seconds. -/
def IsRegular : Reply → Prop
  | .response sent => Client.IsPayable (Client.wantedPause sent.headers)
  | .failure (.transport _ _) => True
  | .failure _ => False

/-- What a request comes to if this is the last reply that it meets. A body that stands for no value
is brought as a text, unless there is no stack to read it. -/
def outcome (url : String) (attempts : Nat) : Reply → Except Failure Client.Answer
  | .response sent => match Body.decode sent.body.toList sent.room with
      | .ok value => .ok ⟨sent.status, value, sent.headers⟩
      | .error (.tooDeep excess) => .error (.json (.tooDeep excess))
      | .error _ => .ok ⟨sent.status, .text sent.body, sent.headers⟩
  | .failure cause => .error (.exhausted url attempts cause)

def isSuccess : Reply → Bool
  | .response sent => sent.excess?.isNone && sent.status < 400
  | .failure _ => false

/-- The reply is counted as a failure: a response that could be read and whose status is an error, or
a failure of the transport. -/
def isFailure : Reply → Bool
  | .response sent => sent.excess?.isNone && 400 ≤ sent.status
  | .failure _ => true

theorem IsRegular.isUsual {reply : Reply} (regular : reply.IsRegular) : reply.IsUsual := by
  cases reply with
  | response sent => trivial
  | failure cause =>
      cases cause with
      | transport kind message => trivial
      | _ => cases regular

theorem isLasting_readable {sent : Response} (readable : sent.excess? = none) :
    (response sent).isLasting = !Client.isTransient sent.status := by
  unfold isLasting Client.isTransient
  rw [Bool.eq_iff_iff]
  simp only [readable, Option.isSome_none, Bool.false_or, ne_eq, decide_not, Bool.and_eq_true,
    Bool.not_eq_true', decide_eq_false_iff_not, Bool.and_eq_false_iff, Bool.or_eq_false_iff]
  omega

theorem outcome_response (url : String) (attempts : Nat) (sent : Response) :
    (response sent).outcome url attempts = sent.answer := by
  unfold outcome
  dsimp only
  cases deep : sent.excess? with
  | some excess =>
      have decoded : Body.decode sent.body.toList sent.room = _ :=
        Response.decoded_eq_tooDeep_iff.mpr deep
      rw [decoded, Response.answer_deep deep]
  | none =>
      rw [Response.answer_readable deep]
      unfold Response.value
      have shallow (excess : Json.Excess) : sent.decoded ≠ .error (.tooDeep excess) := by
        rw [ne_eq, Response.decoded_eq_tooDeep_iff, deep]
        nofun
      change (match sent.decoded with
        | .ok value => _
        | .error (.tooDeep excess) => _
        | .error _ => _) = _
      cases decoded : sent.decoded with
      | ok value => rfl
      | error fault =>
          cases fault with
          | tooDeep excess => exact absurd decoded (shallow excess)
          | _ => rfl

theorem wait?_eq_none_iff {reply : Reply} (attempt : Nat) :
    reply.wait? attempt = none ↔ reply.isLasting = true := by
  cases reply with
  | response sent =>
      cases deep : sent.excess? with
      | some excess => simp [wait?, isLasting, deep]
      | none =>
          rw [isLasting_readable deep]
          unfold wait?
          cases transient : Client.isTransient sent.status <;> simp [transient, deep]
  | failure cause => simp [wait?, isLasting]

theorem wait?_of_isRegular {reply : Reply} {attempt : Nat} (regular : reply.IsRegular)
    (few : attempt < 1024) (passing : reply.isLasting = false) :
    reply.wait? attempt = some (.ok (reply.backoff attempt)) := by
  cases reply with
  | response sent =>
      cases deep : sent.excess? with
      | some excess => simp [isLasting, deep] at passing
      | none =>
          rw [isLasting_readable deep, Bool.not_eq_false'] at passing
          exact wait?_of_transient few deep passing regular
  | failure cause => exact wait?_of_failure few cause

end Reply

/-- The number of calls that a request takes: up to the first lasting response, and no more than
`limit`. -/
def Channel.calls (channel : Channel) (limit : Nat) : Nat :=
  min limit ((List.range limit).findIdx (fun index => (channel.reply index).isLasting) + 1)

theorem Channel.calls_eq {channel : Channel} {limit last : Nat} (within : last < limit)
    (passing : ∀ index < last, (channel.reply index).isLasting = false)
    (ends : last + 1 < limit → (channel.reply last).isLasting = true) :
    channel.calls limit = last + 1 := by
  have size : (List.range limit).length = limit := List.length_range
  unfold calls
  rcases Nat.lt_or_ge (last + 1) limit with more | atEnd
  · have found : (List.range limit).findIdx (fun index => (channel.reply index).isLasting) = last := by
      refine (List.findIdx_eq (by rw [size]; exact within)).mpr ⟨?_, fun index before => ?_⟩
      · rw [List.getElem_range]
        exact ends more
      · rw [List.getElem_range]
        exact passing index before
    rw [found, Nat.min_eq_right (Nat.le_of_lt more)]
  · have found : last ≤
        (List.range limit).findIdx (fun index => (channel.reply index).isLasting) := by
      refine List.le_findIdx_of_not (by rw [size]; exact within) fun index before => ?_
      rw [List.getElem_range]
      exact passing index before
    omega

namespace Client

variable (client : Client) (request : Request) {attempt : Nat} {channel : Channel}

def ended (client : Client) : Reply → Client
  | .response sent => if sent.excess?.isSome then client else client.countedEnd sent.status
  | .failure _ => client.countedFailure

theorem ended_deep {sent : Response} {excess : Json.Excess} (deep : sent.excess? = some excess) :
    client.ended (.response sent) = client :=
  if_pos (by rw [deep]; rfl)

theorem ended_readable {sent : Response} (readable : sent.excess? = none) :
    client.ended (.response sent) = client.countedEnd sent.status :=
  if_neg (by rw [readable]; nofun)

/-- The last attempt, and an attempt that meets a lasting response, end the request. -/
theorem attempts_end (attempt : Nat) (channel : Channel) (left : Nat)
    (usual : (channel.reply 0).IsUsual)
    (last : left = 0 ∨ (channel.reply 0).isLasting = true) : ∃ later,
    client.attempts request attempt channel left =
      ((channel.reply 0).outcome request.url client.maxRetries,
        client.counted.ended (channel.reply 0), later) ∧
      later.requests.toList = channel.requests.toList ++ [request] ∧
      later.pauses = channel.pauses := by
  have sent : (channel.send request).2.requests.toList = channel.requests.toList ++ [request] := by
    rw [Channel.send_requests, Array.toList_push]
  have pauses := channel.send_pauses request
  cases met : channel.reply 0 with
  | response response =>
      rw [Reply.outcome_response]
      cases deep : response.excess? with
      | some excess =>
          rw [Response.answer_deep deep, ended_deep _ deep]
          obtain ⟨noted, fails⟩ := client.attempts_tooDeep request attempt met deep left
          exact ⟨_, fails, sent, pauses⟩
      | none =>
          rw [Response.answer_readable deep, ended_readable _ deep]
          rcases last with rfl | lasting
          · obtain ⟨noted, tried⟩ := client.counted.sendOnce_eq request attempt channel
            rw [met, Reply.met_of_readable deep] at tried
            unfold attempts lastAttempt
            dsimp only
            rw [tried]
            exact ⟨_, rfl, sent, pauses⟩
          · rw [met, Reply.isLasting_readable deep, Bool.not_eq_true'] at lasting
            obtain ⟨noted, steady⟩ := client.attempts_steady request attempt met deep lasting left
            exact ⟨_, steady, sent, pauses⟩
  | failure cause =>
      rw [met] at usual last
      obtain rfl : left = 0 := last.resolve_right Bool.false_ne_true
      obtain ⟨noted, tried⟩ := client.counted.sendOnce_eq request attempt channel
      unfold attempts lastAttempt
      dsimp only
      rw [tried, met]
      cases cause with
      | transport kind message => exact ⟨_, rfl, sent, pauses⟩
      | _ => cases usual

def accounted (client : Client) (calls : Nat) (last : Reply) : Client :=
  { client with tally :=
    { total := client.tally.total + calls
      successful := client.tally.successful + last.isSuccess.toNat
      retried := client.tally.retried + (calls - 1)
      failed := client.tally.failed + last.isFailure.toNat } }

theorem ended_repeated (times : Nat) (last : Reply) :
    (client.repeated times).counted.ended last = client.accounted (times + 1) last := by
  cases last with
  | response sent =>
      unfold accounted Reply.isSuccess Reply.isFailure
      dsimp only
      cases deep : sent.excess? with
      | some excess =>
          rw [ended_deep _ deep]
          rfl
      | none =>
          rw [ended_readable _ deep]
          unfold countedEnd
          by_cases fine : sent.status < 400
          · rw [if_pos fine, decide_eq_true fine, decide_eq_false (Int.not_le.mpr fine)]
            rfl
          · rw [if_neg fine, decide_eq_false fine, decide_eq_true (Int.not_lt.mp fine)]
            rfl
  | failure cause => rfl

theorem get_repeats (isOpen : client.closed = false)
    (usual : ∀ index < client.maxRetries, (channel.reply index).IsUsual) (path : String)
    (params : List (String × Json)) :
    let request := client.requestFor path params
    ∃ waits later, waits.length ≤ client.maxRetries - 1 ∧ channel.Repeats later request waits ∧
      client.get path params channel = (client.repeated waits.length).attempts request waits.length
        later (client.maxRetries - 1 - waits.length) ∧
      (∀ index seconds, waits[index]? = some seconds →
        (channel.reply index).wait? index = some (.ok seconds)) ∧
      (waits.length < client.maxRetries - 1 → ∀ seconds,
        (channel.reply waits.length).wait? waits.length ≠ some (.ok seconds)) := by
  have earlier := client.attempts_repeat (client.requestFor path params) 0 channel
    (client.maxRetries - 1) (fun index within => usual index (by omega))
  simp only [Nat.zero_add] at earlier
  unfold get
  rw [isOpen]
  exact earlier

/-- A request is sent until a lasting response comes, or as often as the client may send it. Between
two calls the client pauses, as long as the server asks for or twice as long each time, and never for
more than a minute. The last reply settles what the request comes to. -/
theorem get_calls (isOpen : client.closed = false) (retries : 1 ≤ client.maxRetries)
    (few : client.maxRetries ≤ 1024)
    (regular : ∀ index < client.maxRetries, (channel.reply index).IsRegular) (path : String)
    (params : List (String × Json)) :
    let request := client.requestFor path params
    let calls := channel.calls client.maxRetries
    let last := channel.reply (calls - 1)
    ∃ later, client.get path params channel =
        (last.outcome request.url client.maxRetries, client.accounted calls last, later) ∧
      later.requests.toList = channel.requests.toList ++ List.replicate calls request ∧
      later.pauses.toList = channel.pauses.toList ++
        (List.range (calls - 1)).map fun index =>
          Binary64.ofNatural ((channel.reply index).backoff index) := by
  obtain ⟨waits, between, within, repeats, onwards, all, ends⟩ := client.get_repeats isOpen
    (fun index before => (regular index before).isUsual) path params
  have meets : between.reply 0 = channel.reply waits.length := repeats.replies 0
  have here := regular waits.length (by omega)
  have passing (index : Nat) (before : index < waits.length) :
      (channel.reply index).isLasting = false := by
    have waited := all index _ (List.getElem?_eq_getElem before)
    rw [Bool.eq_false_iff, ne_eq, ← Reply.wait?_eq_none_iff index, waited]
    nofun
  have lasting (more : waits.length + 1 < client.maxRetries) :
      (channel.reply waits.length).isLasting = true := by
    cases last : (channel.reply waits.length).isLasting with
    | true => rfl
    | false => exact absurd (Reply.wait?_of_isRegular here (by omega) last) (ends (by omega) _)
  have calls := Channel.calls_eq (by omega) passing lasting
  have backoffs : waits = (List.range waits.length).map fun index =>
      (channel.reply index).backoff index := by
    refine List.ext_getElem (by simp) fun index before _ => ?_
    have waited := all index _ (List.getElem?_eq_getElem before)
    rw [Reply.wait?_of_isRegular (regular index (by omega)) (by omega) (passing index before)]
      at waited
    rw [List.getElem_map, List.getElem_range]
    exact (Except.ok.inj (Option.some.inj waited)).symm
  obtain ⟨later, ended, sent, pauses⟩ := (client.repeated waits.length).attempts_end
    (client.requestFor path params) waits.length between (client.maxRetries - 1 - waits.length)
    (meets ▸ here.isUsual) (by
      rw [meets]
      rcases Nat.lt_or_ge (waits.length + 1) client.maxRetries with more | atEnd
      · exact .inr (lasting more)
      · exact .inl (by omega))
  dsimp only
  rw [calls, Nat.add_sub_cancel]
  refine ⟨later, ?_, ?_, ?_⟩
  · rw [onwards, ended, meets, ended_repeated]
    rfl
  · rw [sent, repeats.requests, List.append_assoc, List.replicate_succ']
  · rw [pauses, repeats.pauses]
    have whole := congrArg (List.map Binary64.ofNatural) backoffs
    rw [List.map_map] at whole
    exact congrArg (channel.pauses.toList ++ ·) whole

def bumps : Channel :=
  .fresh [.once (.failure (.transport .connection "refused")),
      .once (.response (.prompt 503 "" [("Retry-After", "7")])),
      .once (.response (.prompt 200 "\x7b\x7d"))]
    (.failure (.transport .connection "script exhausted")) (.empty 0)

theorem get_calls_bumps : ∃ later,
    Pager.plain.client.get "/projects/" [] bumps =
        (.ok ⟨200, .object [], []⟩, { Pager.plain.client with tally := ⟨3, 1, 2, 0⟩ }, later) ∧
      later.requests.size = 3 ∧
      later.pauses.toList = [Binary64.ofNatural 1, Binary64.ofNatural 7] := by
  have asked : wantedPause [("Retry-After", "7")] = some 7 := by decide +kernel
  have regular : ∀ index < 3, (bumps.reply index).IsRegular := by
    intro index within
    match index with
    | 0 => trivial
    | 1 =>
        intro seconds wanted
        cases asked.symm.trans wanted
        decide +kernel
    | 2 => exact nofun
  have calls : bumps.calls Pager.plain.client.maxRetries = 3 := by decide +kernel
  have decoded : (Response.prompt 200 "\x7b\x7d").decoded = .ok (.object []) :=
    Response.decoded_of_written (by decide +kernel) (.object List.nodup_nil nofun) (by decide +kernel)
  obtain ⟨later, fetched, requests, pauses⟩ :=
    get_calls Pager.plain.client rfl (by decide) (by decide) regular "/projects/" []
  have last : bumps.reply 2 = .response (.prompt 200 "\x7b\x7d") := rfl
  have success : (bumps.reply 2).isSuccess = true := by decide +kernel
  have failure : (bumps.reply 2).isFailure = false := by decide +kernel
  rw [calls] at fetched requests pauses
  refine ⟨later, ?_, ?_, ?_⟩
  · rw [fetched]
    unfold accounted
    rw [success, failure, last, Reply.outcome_response,
      Response.answer_readable (Response.readable_of_decoded decoded),
      Response.value_of_decoded decoded]
    rfl
  · rw [← Array.length_toList, requests]
    rfl
  · rw [pauses]
    decide +kernel

def deepBody : Channel :=
  .fresh [.once (.response (.brackets 200))] (.failure (.transport .connection "script exhausted"))
    (.empty 0)

/-- The body of a response that is not worth another attempt is not always brought, be it as a value
or as a text. -/
theorem get_brings_no_body :
    (∀ index, (deepBody.reply index).IsRegular) ∧
      deepBody.reply 0 = .response (.brackets 200) ∧ isTransient (Response.brackets 200).status = false ∧
      (Pager.plain.client.get "/projects/" [] deepBody).1 = .error (.json (.tooDeep .list)) := by
  refine ⟨fun index => ?_, rfl, by decide, ?_⟩
  · match index with
    | 0 => exact nofun
    | index + 1 =>
        cases index <;> trivial
  · have meets : deepBody.reply 0 = .response (.brackets 200) := rfl
    obtain ⟨_, fails⟩ :=
      Pager.plain.client.get_tooDeep meets rfl (Response.excess?_brackets 200) "/projects/" []
    rw [fails]

/-! ### Failures that are not the client's own -/

theorem wait?_failure {reply : Reply} {attempt : Nat} {failure : Failure}
    (refused : reply.wait? attempt = some (.error failure)) :
    failure = .negativePause ∨ failure = .pauseOutOfRange ∨ failure = .endlessPause := by
  have unmade {wanted : Option Int} (refused : wait attempt wanted = .error failure) :
      failure = .negativePause ∨ failure = .pauseOutOfRange ∨ failure = .endlessPause := by
    unfold wait at refused
    split at refused
    · split at refused
      · cases refused
        exact .inr (.inr rfl)
      · split at refused
        · cases refused
          exact .inr (.inl rfl)
        · split at refused
          · cases refused
            exact .inl rfl
          · cases refused
    · split at refused
      · cases refused
        exact .inr (.inr rfl)
      · cases refused
  unfold Reply.wait? at refused
  split at refused
  · split at refused
    · exact unmade (Option.some.inj refused)
    · cases refused
  · exact unmade (Option.some.inj refused)

theorem isSettled_answer {response : Response} (readable : response.excess? = none) :
    isSettled response.answer = true := by
  rw [Response.answer_readable readable]
  rfl

end Client

/-- The reply makes its request fail in a way that is none of the client's own: there is no stack to
read its body, or a pause that cannot be made is due before another attempt. -/
inductive Reply.Escapes (limit index : Nat) : Reply → Failure → Prop where
  | tooDeep {sent : Response} {excess : Json.Excess} (deep : sent.excess? = some excess) :
      Escapes limit index (.response sent) (.json (.tooDeep excess))
  | unpaused {reply : Reply} {failure : Failure} (early : index + 1 < limit)
      (refused : reply.wait? index = some (.error failure)) : Escapes limit index reply failure

theorem Reply.Escapes.wait?_ne {limit index : Nat} {reply : Reply} {failure : Failure}
    (escapes : reply.Escapes limit index failure) (seconds : Nat) :
    reply.wait? index ≠ some (.ok seconds) := by
  cases escapes with
  | tooDeep deep => simp [wait?, deep]
  | unpaused early refused =>
      rw [refused]
      nofun

theorem Reply.Escapes.isSettled_eq_false {limit index : Nat} {reply : Reply} {failure : Failure}
    (escapes : reply.Escapes limit index failure) : Client.isSettled (.error failure) = false := by
  cases escapes with
  | tooDeep deep => rfl
  | unpaused early refused => rcases Client.wait?_failure refused with rfl | rfl | rfl <;> rfl

/-- The client could wait after all replies before the one with this index, which makes the request
fail in a way that is none of the client's own. -/
structure Channel.EscapesAt (channel : Channel) (limit index : Nat) (failure : Failure) : Prop where
  within : index < limit
  before : ∀ earlier < index, ∃ seconds,
    (channel.reply earlier).wait? earlier = some (.ok seconds)
  escapes : (channel.reply index).Escapes limit index failure

theorem Channel.EscapesAt.index_eq {channel : Channel} {limit index count : Nat} {failure : Failure}
    (escapes : channel.EscapesAt limit index failure)
    (waits : ∀ earlier < count, ∃ seconds,
      (channel.reply earlier).wait? earlier = some (.ok seconds))
    (ends : count + 1 < limit → ∀ seconds, (channel.reply count).wait? count ≠ some (.ok seconds)) :
    index = count := by
  have within := escapes.within
  rcases Nat.lt_trichotomy index count with fewer | same | more
  · obtain ⟨seconds, waited⟩ := waits index fewer
    exact absurd waited (escapes.escapes.wait?_ne seconds)
  · exact same
  · obtain ⟨seconds, waited⟩ := escapes.before count more
    exact absurd waited (ends (by omega) seconds)

/-- Between the two the client has paused for whole seconds, and never for more than a minute. -/
def Channel.PausesBriefly (before after : Channel) : Prop :=
  ∃ waits : List Nat, after.pauses.toList =
    before.pauses.toList ++ waits.map Binary64.ofNatural ∧ ∀ seconds ∈ waits, seconds ≤ 60

theorem Channel.pausesBriefly_of_waits {before between after : Channel} {request : Request}
    {waits : List Nat} (repeats : before.Repeats between request waits)
    (all : ∀ index seconds, waits[index]? = some seconds →
      (before.reply index).wait? index = some (.ok seconds))
    (same : after.pauses = between.pauses) : before.PausesBriefly after := by
  refine ⟨waits, same ▸ repeats.pauses, ?_⟩
  intro seconds member
  obtain ⟨index, within, rfl⟩ := List.getElem_of_mem member
  exact Reply.wait?_le (all index _ (List.getElem?_eq_getElem within))

namespace Client

section Escapes

variable (client : Client) {channel : Channel} (isOpen : client.closed = false)
  (retries : 1 ≤ client.maxRetries)
  (usual : ∀ index < client.maxRetries, (channel.reply index).IsUsual) (path : String)
  (params : List (String × Json))
include isOpen usual

theorem get_of_escape {index : Nat} {failure : Failure}
    (escapes : channel.EscapesAt client.maxRetries index failure) : ∃ after later,
    client.get path params channel = (.error failure, after, later) ∧
      channel.PausesBriefly later := by
  obtain ⟨waits, between, _, repeats, onwards, all, ends⟩ :=
    client.get_repeats isOpen usual path params
  have within := escapes.within
  have here : index = waits.length := escapes.index_eq
    (fun earlier before => ⟨_, all earlier _ (List.getElem?_eq_getElem before)⟩)
    (fun more => ends (by omega))
  have meets : between.reply 0 = channel.reply index := by
    rw [here]
    exact repeats.replies 0
  have reason := escapes.escapes
  rw [← meets] at reason
  generalize met : between.reply 0 = reply at reason
  cases reason with
  | tooDeep deep =>
      obtain ⟨noted, fails⟩ := (client.repeated waits.length).attempts_tooDeep
        (client.requestFor path params) waits.length met deep _
      exact ⟨_, _, onwards.trans fails, Channel.pausesBriefly_of_waits repeats all
        (between.send_pauses _)⟩
  | unpaused early refused =>
      rw [here] at refused early
      obtain ⟨left, more⟩ : ∃ left, client.maxRetries - 1 - waits.length = left + 1 :=
        Nat.exists_eq_succ_of_ne_zero (by omega)
      obtain ⟨after, later, tried, pauses⟩ :=
        (client.repeated waits.length).earlierAttempt_of_no_wait
          (client.requestFor path params) (meets ▸ usual index within) (met ▸ refused)
      refine ⟨after, later, ?_, Channel.pausesBriefly_of_waits repeats all pauses⟩
      rw [onwards, more, attempts, tried]

include retries

theorem get_of_no_escape
    (never : ∀ index failure, ¬ channel.EscapesAt client.maxRetries index failure) :
    ∃ answer after later, client.get path params channel = (answer, after, later) ∧
      isSettled answer = true ∧ channel.PausesBriefly later := by
  obtain ⟨waits, between, within, repeats, onwards, all, ends⟩ :=
    client.get_repeats isOpen usual path params
  have meets : between.reply 0 = channel.reply waits.length := repeats.replies 0
  have waited (earlier : Nat) (before : earlier < waits.length) : ∃ seconds,
      (channel.reply earlier).wait? earlier = some (.ok seconds) :=
    ⟨_, all earlier _ (List.getElem?_eq_getElem before)⟩
  have last : client.maxRetries - 1 - waits.length = 0 ∨
      (channel.reply waits.length).isLasting = true := by
    rcases Nat.lt_or_ge waits.length (client.maxRetries - 1) with more | atEnd
    · right
      rw [← Reply.wait?_eq_none_iff waits.length]
      cases after : (channel.reply waits.length).wait? waits.length with
      | none => rfl
      | some wait =>
          cases wait with
          | ok seconds => exact absurd after (ends more seconds)
          | error failure =>
              exact absurd ⟨by omega, waited, .unpaused (by omega) after⟩ (never waits.length failure)
    · exact .inl (by omega)
  obtain ⟨later, ended, _, pauses⟩ := (client.repeated waits.length).attempts_end
    (client.requestFor path params) waits.length between _
    (meets ▸ usual waits.length (by omega)) (meets ▸ last)
  refine ⟨_, _, later, onwards.trans ended, ?_, Channel.pausesBriefly_of_waits repeats all pauses⟩
  rw [meets]
  cases final : channel.reply waits.length with
  | failure cause => rfl
  | response sent =>
      rw [Reply.outcome_response]
      refine isSettled_answer ?_
      cases deep : sent.excess? with
      | none => rfl
      | some excess =>
          exact absurd ⟨by omega, waited, by rw [final]; exact .tooDeep deep⟩
            (never waits.length (.json (.tooDeep excess)))

end Escapes

/-- A request that meets responses and failures of the transport pauses for whole seconds, and never
for more than a minute. It is answered or fails in a way that the client reports of itself, unless the
client is open and one of the replies that it comes to has a body for which there is no stack, or asks
before the last attempt for a pause that cannot be made: below zero, or too long for a float. What is
wrong with this reply is then the failure of the request. -/
theorem get_contained (client : Client) {channel : Channel} (retries : 1 ≤ client.maxRetries)
    (usual : ∀ index < client.maxRetries, (channel.reply index).IsUsual) (path : String)
    (params : List (String × Json)) :
    let fetched := client.get path params channel
    channel.PausesBriefly fetched.2.2 ∧
      (isSettled fetched.1 = true ↔ client.closed = true ∨
        ∀ index failure, ¬ channel.EscapesAt client.maxRetries index failure) ∧
      (client.closed = false → ∀ index failure,
        channel.EscapesAt client.maxRetries index failure → fetched.1 = .error failure) := by
  cases closed : client.closed with
  | true =>
      rw [client.get_of_closed channel closed]
      refine ⟨⟨[], (List.append_nil _).symm, by simp⟩, iff_of_true rfl (.inl rfl), ?_⟩
      intro isOpen
      cases isOpen
  | false =>
      have fails {index : Nat} {failure : Failure}
          (escapes : channel.EscapesAt client.maxRetries index failure) :
          (client.get path params channel).1 = .error failure := by
        obtain ⟨after, later, fetched, _⟩ := client.get_of_escape closed usual path params escapes
        rw [fetched]
      by_cases escape : ∃ index failure, channel.EscapesAt client.maxRetries index failure
      · obtain ⟨index, failure, escapes⟩ := escape
        obtain ⟨after, later, fetched, pauses⟩ :=
          client.get_of_escape closed usual path params escapes
        refine ⟨fetched ▸ pauses, iff_of_false ?_ ?_, fun _ _ _ => fails⟩
        · rw [fails escapes, escapes.escapes.isSettled_eq_false]
          exact Bool.false_ne_true
        · rintro (closed | never)
          · cases closed
          · exact never _ _ escapes
      · have never : ∀ index failure, ¬ channel.EscapesAt client.maxRetries index failure :=
          fun index failure escapes => escape ⟨index, failure, escapes⟩
        obtain ⟨answer, after, later, fetched, settled, pauses⟩ :=
          client.get_of_no_escape closed retries usual path params never
        rw [fetched]
        exact ⟨pauses, iff_of_true settled (.inr never),
          fun _ index failure escapes => absurd escapes (never index failure)⟩

def setback : Channel :=
  .fresh [.once (.response (.prompt 503 "" [("Retry-After", "7")])),
      .once (.response (.prompt 503 "" [("Retry-After", "-1")]))]
    (.failure (.transport .connection "script exhausted")) (.empty 0)

theorem setback_isUsual (index : Nat) : (setback.reply index).IsUsual := by
  match index with
  | 0 | 1 | 2 => trivial
  | index + 3 => exact trivial

theorem get_contained_setback :
    let fetched := Pager.plain.client.get "/projects/" [] setback
    setback.PausesBriefly fetched.2.2 ∧ fetched.1 = .error .negativePause := by
  have waits : (setback.reply 0).wait? 0 = some (.ok 7) := by decide +kernel
  have refused : (setback.reply 1).wait? 1 = some (.error .negativePause) := by decide +kernel
  have before : ∀ earlier < 1, ∃ seconds,
      (setback.reply earlier).wait? earlier = some (.ok seconds) := by
    intro earlier within
    rw [Nat.lt_one_iff.mp within]
    exact ⟨7, waits⟩
  obtain ⟨pauses, _, fails⟩ := get_contained Pager.plain.client (by decide)
    (fun index _ => setback_isUsual index) "/projects/" []
  exact ⟨pauses, fails rfl 1 .negativePause ⟨by decide, before, .unpaused (by decide) refused⟩⟩

/-- A request fails in a way that the client does not report of itself. -/
theorem get_not_contained : (∀ index, (setback.reply index).IsUsual) ∧
    isSettled (Pager.plain.client.get "/projects/" [] setback).1 = false :=
  ⟨setback_isUsual, by decide +kernel⟩

end Client

end ProjectScan
