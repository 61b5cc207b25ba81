import ProjectScan.Proofs.Nesting
import ProjectScan.Proofs.Retries

/-!
Hiccups of a server: replies after which the client pauses and sends the request again. A request
that meets fewer hiccups than it has attempts comes to what it comes to without them; the client
pauses and counts a call for every one of them.
-/

namespace ProjectScan

namespace Client

/-- The pause that is asked for is no negative number and has a finite float. -/
def IsPayable (wanted : Option Int) : Prop :=
  ∀ seconds, wanted = some seconds → 0 ≤ seconds ∧ seconds ≤ Number.tenTo 300

def backoff (attempt : Nat) : Option Int → Nat
  | some seconds => min seconds.toNat longestWait
  | none => min (Number.twoTo attempt) longestWait

theorem wait_of_isPayable {attempt : Nat} (few : attempt < 1024) {wanted : Option Int}
    (payable : IsPayable wanted) : wait attempt wanted = .ok (backoff attempt wanted) := by
  unfold wait backoff
  cases wanted with
  | none =>
      dsimp only
      rw [if_neg (Nat.not_le.mpr few)]
  | some seconds =>
      obtain ⟨positive, bound⟩ := payable seconds rfl
      have finite : Number.tenTo 300 < Number.Binary64.overflowBound := by decide +kernel
      dsimp only
      rw [if_neg (by omega), if_neg (by unfold leastSeconds; omega), if_neg (by omega)]

end Client

theorem Reply.wait?_of_transient {attempt : Nat} (few : attempt < 1024) {received : Response}
    (readable : received.excess? = none) (transient : Client.isTransient received.status = true)
    (payable : Client.IsPayable (Client.wantedPause received.headers)) :
    (Reply.response received).wait? attempt =
      some (.ok (Client.backoff attempt (Client.wantedPause received.headers))) := by
  unfold wait?
  dsimp only
  rw [readable, transient]
  exact congrArg some (Client.wait_of_isPayable few payable)

theorem Reply.wait?_of_failure {attempt : Nat} (few : attempt < 1024) (failure : Failure) :
    (Reply.failure failure).wait? attempt = some (.ok (Client.backoff attempt none)) := by
  have unasked : Client.IsPayable none := nofun
  exact congrArg some (Client.wait_of_isPayable few unasked)

def Turn.once (reply : Reply) : Turn := ⟨reply, false, false⟩

/-- The reply makes the client pause and try again: a failure of the transport, or a response that is
worth another attempt, asks for no pause that cannot be made, and is not too deep. -/
def Reply.IsHiccup : Reply → Prop
  | .failure (.transport _ _) => True
  | .failure _ => False
  | .response received =>
      Client.isTransient received.status = true ∧
        Client.IsPayable (Client.wantedPause received.headers) ∧ received.excess? = none

theorem Reply.IsHiccup.isUsual {hiccup : Reply} (isHiccup : hiccup.IsHiccup) : hiccup.IsUsual := by
  cases hiccup with
  | response received => trivial
  | failure failure =>
      cases failure with
      | transport kind message => trivial
      | _ => cases isHiccup

theorem Reply.IsHiccup.waits {hiccup : Reply} (isHiccup : hiccup.IsHiccup) {attempt : Nat}
    (few : attempt < 1024) : ∃ seconds, hiccup.wait? attempt = some (.ok seconds) := by
  cases hiccup with
  | response received => exact ⟨_, wait?_of_transient few isHiccup.2.2 isHiccup.1 isHiccup.2.1⟩
  | failure failure => exact ⟨_, wait?_of_failure few failure⟩

/-- The channel after a request was sent some times, with some pauses, and the turns that are left. -/
structure Channel.Moved (before after : Channel) (request : Request) (sent paused : Nat)
    (left : List Turn) : Prop where
  turns : after.turns = left
  requests : after.requests.toList = before.requests.toList ++ List.replicate sent request
  pauses : after.pauses.size = before.pauses.size + paused
  cancelled : after.cancelled = before.cancelled

theorem Channel.Moved.trans {first second third : Channel} {request : Request}
    {sent paused more others : Nat} {left rest : List Turn}
    (start : first.Moved second request sent paused left)
    (onwards : second.Moved third request more others rest) :
    first.Moved third request (sent + more) (paused + others) rest where
  turns := onwards.turns
  requests := by
    rw [onwards.requests, start.requests, List.append_assoc, List.replicate_append_replicate]
  pauses := by
    rw [onwards.pauses, start.pauses, Nat.add_assoc]
  cancelled := onwards.cancelled.trans start.cancelled

theorem Channel.reply_of_turns {channel : Channel} {turn : Turn} {rest : List Turn}
    (turns : channel.turns = turn :: rest) : channel.reply 0 = turn.reply := by
  unfold reply replyAmong
  rw [turns]

theorem Channel.moved_of_send {channel : Channel} {reply : Reply} {rest : List Turn}
    (turns : channel.turns = .once reply :: rest) (request : Request) (journal : Log.Journal) :
    channel.Moved ((channel.send request).2.overlaid journal false) request 1 0 rest := by
  obtain ⟨_, afterwards, requests, pauses, noted, cancelled⟩ := channel
  change _ = _ at turns
  subst turns
  refine ⟨rfl, ?_, rfl, ?_⟩
  · exact Array.toList_push
  · change ((cancelled || false) || false) = cancelled
    rw [Bool.or_false, Bool.or_false]

theorem Channel.moved_of_wait {channel : Channel} {reply : Reply} {rest : List Turn}
    (turns : channel.turns = .once reply :: rest) (request : Request) (journal : Log.Journal)
    (seconds : Nat) :
    channel.Moved ((channel.send request).2.waited journal seconds) request 1 1 rest := by
  have sent := Channel.moved_of_send turns request journal
  refine ⟨sent.turns, sent.requests, ?_, ?_⟩
  · change ((channel.send request).2.pauses.push _).size = _
    rw [Array.size_push, send_pauses]
  · have same := sent.cancelled
    rw [Channel.cancelled_overlaid, Bool.or_false] at same
    exact same

namespace Client

variable (client : Client) (request : Request) {attempt : Nat} {channel : Channel}

theorem earlierAttempt_hiccup {hiccup : Reply} {rest : List Turn}
    (turns : channel.turns = .once hiccup :: rest) (isHiccup : hiccup.IsHiccup)
    (few : attempt < 1024) :
    ∃ later, client.earlierAttempt request attempt channel =
        (none, client.counted.countedRetry, later) ∧ channel.Moved later request 1 1 rest := by
  have meets : channel.reply 0 = hiccup := Channel.reply_of_turns turns
  obtain ⟨seconds, waits⟩ := isHiccup.waits few
  obtain ⟨noted, tried⟩ := client.earlierAttempt_of_wait request
    (meets ▸ isHiccup.isUsual) (meets ▸ waits)
  exact ⟨_, tried, Channel.moved_of_wait turns request noted seconds⟩

@[simp] theorem total_counted : client.counted.tally.total = client.tally.total + 1 := rfl

@[simp] theorem total_countedRetry : client.countedRetry.tally.total = client.tally.total := rfl

@[simp] theorem total_countedFailure :
    client.countedFailure.tally.total = client.tally.total := rfl

@[simp] theorem total_countedEnd (status : Int) :
    (client.countedEnd status).tally.total = client.tally.total := by
  unfold countedEnd
  split <;> rfl

end Client

/-- A response with a thousand lists, each in the one before. -/
def Response.brackets (status : Int) : Response :=
  .prompt status (String.ofList (List.replicate 1000 '['))

theorem Response.excess?_brackets (status : Int) : (brackets status).excess? = some .list := by
  have body : Body.unguarded (brackets status).body.toList = List.replicate 1000 '[' := by
    unfold brackets prompt
    dsimp only
    rw [String.toList_ofList]
    decide +kernel
  have many : Json.usualRoom + Json.reportLevels < 1000 := by decide
  unfold excess?
  rw [body]
  exact Json.excess?_brackets many

/-- What a request comes to with a response that is not worth another attempt. -/
def Response.answer (response : Response) : Except Failure Client.Answer :=
  match response.excess? with
  | some excess => .error (.json (.tooDeep excess))
  | none => .ok ⟨response.status, response.value, response.headers⟩

theorem Response.answer_deep {response : Response} {excess : Json.Excess}
    (deep : response.excess? = some excess) :
    response.answer = .error (.json (.tooDeep excess)) := by
  unfold answer
  rw [deep]

theorem Response.answer_readable {response : Response} (readable : response.excess? = none) :
    response.answer = .ok ⟨response.status, response.value, response.headers⟩ := by
  unfold answer
  rw [readable]

namespace Client

variable (client : Client) (request : Request) {attempt : Nat} {channel : Channel}

theorem attempts_answer {response : Response}
    (meets : channel.reply 0 = .response response)
    (steady : isTransient response.status = false) (left : Nat) : ∃ after noted,
    client.attempts request attempt channel left =
        (response.answer, after, (channel.send request).2.overlaid noted false) ∧
      client.Recounts after ∧ after.tally.total = client.tally.total + 1 := by
  cases deep : response.excess? with
  | some excess =>
      rw [Response.answer_deep deep]
      obtain ⟨noted, fails⟩ := client.attempts_tooDeep request attempt meets deep left
      exact ⟨_, noted, fails, Recounts.counted client, rfl⟩
  | none =>
      rw [Response.answer_readable deep]
      obtain ⟨noted, answers⟩ := client.attempts_steady request attempt meets deep steady left
      refine ⟨_, noted, answers, (Recounts.counted client).trans (Recounts.countedEnd _ _), ?_⟩
      rw [total_countedEnd]
      rfl

theorem attempts_delayed {hiccups : List Reply} {response : Response} {rest : List Turn} {left : Nat}
    (turns : channel.turns = hiccups.map .once ++ .once (.response response) :: rest)
    (areHiccups : ∀ hiccup ∈ hiccups, hiccup.IsHiccup)
    (steady : isTransient response.status = false) (enough : hiccups.length ≤ left)
    (few : attempt + hiccups.length ≤ 1024) :
    ∃ after later, client.attempts request attempt channel left =
        (response.answer, after, later) ∧
      client.Recounts after ∧ after.tally.total = client.tally.total + (hiccups.length + 1) ∧
      channel.Moved later request (hiccups.length + 1) hiccups.length rest := by
  -- Every hiccup takes one of the attempts left, so that one remains for the response.
  induction hiccups generalizing client attempt channel left with
  | nil =>
      obtain ⟨after, noted, answers, same, total⟩ := client.attempts_answer request
        (Channel.reply_of_turns turns) steady left
      exact ⟨after, _, answers, same, total, Channel.moved_of_send turns request noted⟩
  | cons hiccup others ih =>
      cases left with
      | zero => cases enough
      | succ left =>
          rw [List.length_cons] at few enough ⊢
          have own := areHiccups hiccup List.mem_cons_self
          obtain ⟨between, tried, moved⟩ :=
            client.earlierAttempt_hiccup request turns own (by omega : attempt < 1024)
          obtain ⟨after, later, answers, same, total, onwards⟩ := ih client.counted.countedRetry
            moved.turns (fun other member => areHiccups other (List.mem_cons_of_mem hiccup member))
            (Nat.le_of_succ_le_succ enough) (by omega : attempt + 1 + others.length ≤ 1024)
          refine ⟨after, later, ?_, ?_, ?_, ?_⟩
          · unfold attempts
            rw [tried]
            exact answers
          · exact ((Recounts.counted client).trans (Recounts.countedRetry _)).trans same
          · rw [total, total_countedRetry, total_counted]
            omega
          · have whole := moved.trans onwards
            rw [Nat.add_comm 1, Nat.add_comm 1] at whole
            exact whole

/-- A request that meets fewer hiccups than it has attempts comes to what the response after them
makes of it. -/
theorem get_delayed {hiccups : List Reply} {response : Response} {rest : List Turn}
    (isOpen : client.closed = false)
    (turns : channel.turns = hiccups.map .once ++ .once (.response response) :: rest)
    (areHiccups : ∀ hiccup ∈ hiccups, hiccup.IsHiccup)
    (steady : isTransient response.status = false)
    (enough : hiccups.length ≤ client.maxRetries - 1) (few : client.maxRetries ≤ 1024)
    (path : String) (params : List (String × Json)) :
    ∃ after later, client.get path params channel =
        (response.answer, after, later) ∧
      client.Recounts after ∧ after.tally.total = client.tally.total + (hiccups.length + 1) ∧
      channel.Moved later (client.requestFor path params) (hiccups.length + 1) hiccups.length
        rest := by
  unfold get
  rw [isOpen]
  exact client.attempts_delayed _ turns areHiccups steady enough (by omega)

end Client

end ProjectScan
