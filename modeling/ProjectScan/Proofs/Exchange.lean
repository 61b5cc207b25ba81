import ProjectScan.Pager

/-!
What a request leaves behind, whatever it meets: the client changes in its tally alone, and the
channel shows the request once and then once more for every repetition.
-/

namespace ProjectScan

/-- The client after differs from the client before in its tally alone. -/
def Client.Recounts (before after : Client) : Prop := after = { before with tally := after.tally }

namespace Client.Recounts

variable {first second third : Client}

theorem refl (client : Client) : Recounts client client := rfl

theorem trans (left : Recounts first second) (right : Recounts second third) :
    Recounts first third := by
  unfold Recounts at *
  rw [right, left]

theorem symm (same : Recounts first second) : Recounts second first := by
  unfold Recounts at *
  rw [same]

theorem baseUrl (same : Recounts first second) : second.baseUrl = first.baseUrl := by
  rw [same]
  rfl

theorem endpoint (same : Recounts first second) : second.endpoint = first.endpoint := by rw [same]

theorem closed (same : Recounts first second) : second.closed = first.closed := by rw [same]

theorem timeout (same : Recounts first second) : second.timeout = first.timeout := by rw [same]

theorem maxRetries (same : Recounts first second) : second.maxRetries = first.maxRetries := by
  rw [same]

theorem address (same : Recounts first second) (path : String) :
    second.address path = first.address path := by
  unfold Client.address
  rw [same.baseUrl]

theorem counted (client : Client) : Recounts client client.counted := rfl

theorem countedRetry (client : Client) : Recounts client client.countedRetry := rfl

theorem countedFailure (client : Client) : Recounts client client.countedFailure := rfl

theorem countedEnd (client : Client) (status : Int) : Recounts client (client.countedEnd status) := by
  unfold Client.countedEnd
  split <;> rfl

end Client.Recounts

def Response.prompt (status : Int) (body : String) (headers : List (String × String) := []) :
    Response :=
  ⟨status, body, headers, .zero false, Json.usualRoom⟩

namespace Channel

variable (channel : Channel)

theorem send_requests (request : Request) :
    (channel.send request).2.requests = channel.requests.push request := by
  unfold send
  dsimp only
  split <;> rfl

theorem pause_requests (seconds : Number.Binary64) :
    (channel.pause seconds).2.requests = channel.requests := by
  unfold pause
  split <;> rfl

end Channel

namespace Client

variable (client : Client) (request : Request) (attempt : Nat) (channel : Channel)

theorem sendOnce_requests :
    (client.sendOnce request attempt channel).2.requests = channel.requests.push request := by
  unfold sendOnce
  have sent := (channel.note client.sink Log.Level.debug
    ("GET " ++ request.url ++ " params=" ++ (Json.object request.params).displayed ++
      " (attempt " ++ Number.naturalText (attempt + 1) ++ ")")).send_requests request
  dsimp only
  split <;> exact sent

theorem pauseFor_requests (reason : String) (seconds : Number.Binary64) :
    (client.pauseFor reason attempt seconds channel).2.requests = channel.requests :=
  Channel.pause_requests _ seconds

theorem lastAttempt_requests :
    (client.lastAttempt request attempt channel).2.2.requests = channel.requests.push request := by
  unfold lastAttempt
  have sent := client.counted.sendOnce_requests request attempt channel
  dsimp only
  split <;> simp_all [answered, Channel.note]

theorem lastAttempt_recounts :
    Recounts client (client.lastAttempt request attempt channel).2.1 := by
  unfold lastAttempt
  dsimp only
  split
  · exact (Recounts.counted client).trans (.countedEnd _ _)
  · exact (Recounts.counted client).trans (.countedFailure _)
  · exact Recounts.counted client

theorem earlierAttempt_requests :
    (client.earlierAttempt request attempt channel).2.2.requests =
      channel.requests.push request := by
  unfold earlierAttempt
  have sent := client.counted.sendOnce_requests request attempt channel
  dsimp only
  generalize client.counted.sendOnce request attempt channel = exchange at sent ⊢
  obtain ⟨reply, after⟩ := exchange
  change after.requests = _ at sent
  have paused (reason : String) (seconds : Number.Binary64) :
      (client.counted.pauseFor reason attempt seconds after).2.requests =
        channel.requests.push request :=
    (client.counted.pauseFor_requests attempt after reason seconds).trans sent
  cases reply with
  | response response =>
      dsimp only
      split
      · cases pauseAfter attempt (wantedPause response.headers) with
        | error failure => exact sent
        | ok seconds =>
            have later := paused ("Request failed with " ++ Number.wholeText response.status) seconds
            dsimp only
            split <;> simp_all
      · exact sent
  | failure failure =>
      cases failure with
      | transport kind message =>
          dsimp only
          cases pauseAfter attempt none with
          | error failure => exact sent
          | ok seconds =>
              have later := paused ("Request error: " ++ message) seconds
              dsimp only
              split <;> simp_all
      | _ => exact sent

theorem earlierAttempt_recounts :
    Recounts client (client.earlierAttempt request attempt channel).2.1 := by
  have once := Recounts.counted client
  have twice := once.trans (.countedRetry client.counted)
  unfold earlierAttempt
  dsimp only
  split
  · split
    · split
      · exact once
      · split
        · exact twice
        · exact twice
    · exact once.trans (.countedEnd _ _)
  · split
    · exact twice
    · split
      · exact twice
      · exact twice
  · exact once

theorem attempts_requests (left : Nat) : ∃ repeats, repeats ≤ left ∧
    (client.attempts request attempt channel left).2.2.requests.toList =
      channel.requests.toList ++ List.replicate (repeats + 1) request := by
  induction left generalizing client attempt channel with
  | zero =>
      refine ⟨0, Nat.le_refl 0, ?_⟩
      change (client.lastAttempt request attempt channel).2.2.requests.toList = _
      rw [lastAttempt_requests, Array.toList_push]
      rfl
  | succ left ih =>
      have once := client.earlierAttempt_requests request attempt channel
      unfold attempts
      generalize client.earlierAttempt request attempt channel = trial at once ⊢
      obtain ⟨ended, after, later⟩ := trial
      change later.requests = _ at once
      cases ended with
      | some answer =>
          refine ⟨0, Nat.zero_le _, ?_⟩
          change later.requests.toList = _
          rw [once, Array.toList_push]
          rfl
      | none =>
          obtain ⟨repeats, few, sent⟩ := ih after (attempt + 1) later
          refine ⟨repeats + 1, Nat.succ_le_succ few, ?_⟩
          change (after.attempts request (attempt + 1) later left).2.2.requests.toList = _
          rw [sent, once, Array.toList_push, List.append_assoc, List.replicate_succ]
          rfl

theorem attempts_recounts (left : Nat) :
    Recounts client (client.attempts request attempt channel left).2.1 := by
  induction left generalizing client attempt channel with
  | zero => exact client.lastAttempt_recounts request attempt channel
  | succ left ih =>
      have once := client.earlierAttempt_recounts request attempt channel
      unfold attempts
      generalize client.earlierAttempt request attempt channel = trial at once ⊢
      obtain ⟨ended, after, later⟩ := trial
      change Recounts client after at once
      cases ended with
      | some answer => exact once
      | none => exact once.trans (ih after (attempt + 1) later)

def requestFor (path : String) (params : List (String × Json)) : Request :=
  ⟨client.address path, params, client.timeout⟩

theorem Recounts.requestFor {before after : Client} (same : Recounts before after) (path : String)
    (params : List (String × Json)) : after.requestFor path params = before.requestFor path params := by
  unfold Client.requestFor
  rw [same.address, same.timeout]

/-- An open client sends its request at least once, and nothing else; a closed one sends nothing. -/
theorem get_requests (path : String) (params : List (String × Json)) : ∃ count,
    (client.closed = false → 0 < count) ∧
      (client.get path params channel).2.2.requests.toList =
        channel.requests.toList ++ List.replicate count (client.requestFor path params) := by
  unfold get
  cases closed : client.closed with
  | true =>
      refine ⟨0, nofun, ?_⟩
      rw [if_pos rfl, List.replicate_zero, List.append_nil]
  | false =>
      obtain ⟨repeats, few, sent⟩ := client.attempts_requests
        (client.requestFor path params) 0 channel (client.maxRetries - 1)
      exact ⟨repeats + 1, fun _ => Nat.succ_pos repeats, sent⟩

theorem get_recounts (path : String) (params : List (String × Json)) :
    Recounts client (client.get path params channel).2.1 := by
  unfold get
  split
  · exact .refl client
  · exact client.attempts_recounts _ 0 channel _

end Client

end ProjectScan
