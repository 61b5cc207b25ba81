import ProjectScan.Client

/-!
Replies retold. Of a response a client reads the status, the body and the pause that its headers ask
for, and it does not look at the wish to cancel. When all else about the replies is retold in another
way, a request takes the same course: it sends the same, pauses and notes the same and brings the same
answer, with the headers retold.
-/

namespace ProjectScan

/-- Other headers that ask for the same pause, and whether the wishes to cancel are passed on. -/
structure Retelling where
  headers : List (String × String) → List (String × String)
  wishes : Bool
  pause : ∀ given, Client.wantedPause (headers given) = Client.wantedPause given

def Response.retold (retelling : Retelling) (response : Response) : Response :=
  { response with headers := retelling.headers response.headers }

def Reply.retold (retelling : Retelling) : Reply → Reply
  | .response received => .response (received.retold retelling)
  | .failure met => .failure met

def Turn.retold (retelling : Retelling) (turn : Turn) : Turn :=
  ⟨turn.reply.retold retelling, turn.stays, turn.cancels && retelling.wishes⟩

def Channel.retold (retelling : Retelling) (channel : Channel) : Channel :=
  { channel with
    turns := channel.turns.map (·.retold retelling)
    afterwards := channel.afterwards.retold retelling
    cancelled := channel.cancelled && retelling.wishes }

def Client.Answer.retold (retelling : Retelling) (answer : Client.Answer) : Client.Answer :=
  { answer with headers := retelling.headers answer.headers }

variable (retelling : Retelling)

theorem Reply.met_retold (reply : Reply) :
    (reply.retold retelling).met = reply.met.retold retelling := by
  cases reply with
  | failure cause => rfl
  | response sent =>
      have same : (sent.retold retelling).excess? = sent.excess? := rfl
      change (Reply.response (sent.retold retelling)).met = _
      cases deep : sent.excess? with
      | none =>
          rw [Reply.met_of_readable deep, Reply.met_of_readable (same.trans deep)]
          rfl
      | some excess =>
          rw [Reply.met_of_excess deep, Reply.met_of_excess (same.trans deep)]
          rfl

namespace Channel

variable (channel : Channel)

theorem send_retold (request : Request) : (channel.retold retelling).send request =
    ((channel.send request).1.retold retelling, (channel.send request).2.retold retelling) := by
  obtain ⟨turns, afterwards, requests, pauses, journal, cancelled⟩ := channel
  cases turns with
  | nil => rfl
  | cons turn rest =>
      obtain ⟨reply, stays, cancels⟩ := turn
      simp only [send, retold, List.map_cons, Turn.retold, Bool.and_or_distrib_right]
      cases stays <;> rfl

theorem pause_retold (seconds : Number.Binary64) : (channel.retold retelling).pause seconds =
    ((channel.pause seconds).1, (channel.pause seconds).2.retold retelling) := by
  unfold pause
  split <;> rfl

theorem note_retold (sink : Log.Sink) (level : Int) (message : String) :
    (channel.retold retelling).note sink level message =
      (channel.note sink level message).retold retelling := rfl

end Channel

namespace Client

variable (client : Client) (request : Request) (attempt : Nat) (channel : Channel)

theorem sendOnce_retold : client.sendOnce request attempt (channel.retold retelling) =
    ((client.sendOnce request attempt channel).1.retold retelling,
      (client.sendOnce request attempt channel).2.retold retelling) := by
  unfold sendOnce
  rw [Channel.note_retold, Channel.send_retold]
  obtain ⟨reply, after⟩ := Channel.send (channel.note _ _ _) request
  dsimp only
  rw [Reply.met_retold]
  cases reply.met <;> rfl

theorem pauseFor_retold (reason : String) (seconds : Number.Binary64) :
    client.pauseFor reason attempt seconds (channel.retold retelling) =
      ((client.pauseFor reason attempt seconds channel).1,
        (client.pauseFor reason attempt seconds channel).2.retold retelling) := by
  unfold pauseFor
  rw [Channel.note_retold, Channel.pause_retold]

theorem lastAttempt_retold : client.lastAttempt request attempt (channel.retold retelling) =
    ((client.lastAttempt request attempt channel).1.map (·.retold retelling),
      (client.lastAttempt request attempt channel).2.1,
      (client.lastAttempt request attempt channel).2.2.retold retelling) := by
  unfold lastAttempt
  simp only [client.counted.sendOnce_retold]
  obtain ⟨reply, after⟩ := client.counted.sendOnce request attempt channel
  cases reply with
  | response response => rfl
  | failure failure => cases failure <;> rfl

theorem earlierAttempt_retold : client.earlierAttempt request attempt (channel.retold retelling) =
    ((client.earlierAttempt request attempt channel).1.map (·.map (·.retold retelling)),
      (client.earlierAttempt request attempt channel).2.1,
      (client.earlierAttempt request attempt channel).2.2.retold retelling) := by
  unfold earlierAttempt
  simp only [client.counted.sendOnce_retold]
  obtain ⟨reply, after⟩ := client.counted.sendOnce request attempt channel
  cases reply with
  | response response =>
      dsimp only [Reply.retold, Response.retold]
      by_cases transient : isTransient response.status = true
      · rw [if_pos transient, if_pos transient, retelling.pause]
        cases pauseAfter attempt (wantedPause response.headers) with
        | error failure => rfl
        | ok seconds =>
            simp only [client.counted.pauseFor_retold]
            obtain ⟨verdict, later⟩ := client.counted.pauseFor _ attempt seconds after
            cases verdict <;> rfl
      · rw [if_neg transient, if_neg transient]
        rfl
  | failure failure =>
      cases failure with
      | transport kind message =>
          dsimp only [Reply.retold]
          cases pauseAfter attempt none with
          | error failure => rfl
          | ok seconds =>
              simp only [client.counted.pauseFor_retold]
              obtain ⟨verdict, later⟩ := client.counted.pauseFor _ attempt seconds after
              cases verdict <;> rfl
      | _ => rfl

theorem attempts_retold (left : Nat) :
    client.attempts request attempt (channel.retold retelling) left =
      ((client.attempts request attempt channel left).1.map (·.retold retelling),
        (client.attempts request attempt channel left).2.1,
        (client.attempts request attempt channel left).2.2.retold retelling) := by
  induction left generalizing client attempt channel with
  | zero => exact client.lastAttempt_retold retelling request attempt channel
  | succ left ih =>
      unfold attempts
      simp only [client.earlierAttempt_retold]
      obtain ⟨ended, after, later⟩ := client.earlierAttempt request attempt channel
      cases ended with
      | none => exact ih after (attempt + 1) later
      | some answer => rfl

theorem get_retold (path : String) (params : List (String × Json)) :
    client.get path params (channel.retold retelling) =
      ((client.get path params channel).1.map (·.retold retelling),
        (client.get path params channel).2.1,
        (client.get path params channel).2.2.retold retelling) := by
  unfold get
  split
  · rfl
  · exact client.attempts_retold retelling _ 0 channel _

end Client

end ProjectScan
