import ProjectScan.Pager

/-!
What happens on a channel depends on the replies that are still to come, and not on what was noted
so far nor on the wish to cancel. Two channels that differ in nothing else take the same way through
a request, a page and a step of a traversal.
-/

namespace ProjectScan

/-- The channel with another journal, and with the wish to cancel uttered if `wish` holds. -/
def Channel.overlaid (channel : Channel) (journal : Log.Journal) (wish : Bool) : Channel :=
  { channel with journal := journal, cancelled := channel.cancelled || wish }

namespace Channel

variable (channel : Channel) (journal : Log.Journal) (wish : Bool)

@[simp] theorem requests_overlaid :
    (channel.overlaid journal wish).requests = channel.requests := rfl

@[simp] theorem pauses_overlaid : (channel.overlaid journal wish).pauses = channel.pauses := rfl

@[simp] theorem cancelled_overlaid :
    (channel.overlaid journal wish).cancelled = (channel.cancelled || wish) := rfl

theorem overlaid_self : channel.overlaid channel.journal false = channel := by
  unfold overlaid
  rw [Bool.or_false]

theorem overlaid_overlaid (other : Log.Journal) (more : Bool) :
    (channel.overlaid journal wish).overlaid other more =
      channel.overlaid other (wish || more) := by
  unfold overlaid
  rw [Bool.or_assoc]

theorem journal_eq_overlaid : { channel with journal := journal } = channel.overlaid journal false := by
  unfold overlaid
  rw [Bool.or_false]

theorem note_overlaid (sink : Log.Sink) (level : Int) (message : String) :
    (channel.overlaid journal wish).note sink level message =
      (channel.note sink level message).overlaid (journal.note sink level message) wish := rfl

theorem send_overlaid (request : Request) :
    (channel.overlaid journal wish).send request =
      ((channel.send request).1, (channel.send request).2.overlaid journal wish) := by
  obtain ⟨turns, afterwards, requests, pauses, own, cancelled⟩ := channel
  cases turns with
  | nil => rfl
  | cons turn rest =>
      simp only [send, overlaid, Prod.mk.injEq, mk.injEq, true_and]
      rw [Bool.or_assoc, Bool.or_comm wish, ← Bool.or_assoc]

theorem pause_overlaid (seconds : Number.Binary64) :
    (channel.overlaid journal wish).pause seconds =
      ((channel.pause seconds).1, (channel.pause seconds).2.overlaid journal wish) := by
  unfold pause
  split <;> rfl

end Channel

namespace Client

variable (client : Client) (request : Request) (attempt : Nat) (channel : Channel)
  (journal : Log.Journal) (wish : Bool)

theorem sendOnce_overlaid : ∃ noted, client.sendOnce request attempt (channel.overlaid journal wish) =
    ((client.sendOnce request attempt channel).1,
      (client.sendOnce request attempt channel).2.overlaid noted wish) := by
  unfold sendOnce
  rw [Channel.note_overlaid, Channel.send_overlaid]
  obtain ⟨reply, after⟩ := Channel.send (channel.note _ _ _) request
  dsimp only
  cases reply.met with
  | response response => exact ⟨_, rfl⟩
  | failure failure => exact ⟨_, rfl⟩

theorem lastAttempt_overlaid : ∃ noted,
    client.lastAttempt request attempt (channel.overlaid journal wish) =
      ((client.lastAttempt request attempt channel).1,
        (client.lastAttempt request attempt channel).2.1,
        (client.lastAttempt request attempt channel).2.2.overlaid noted wish) := by
  unfold lastAttempt
  obtain ⟨sent, same⟩ := client.counted.sendOnce_overlaid request attempt channel journal wish
  simp only [same]
  obtain ⟨reply, after⟩ := client.counted.sendOnce request attempt channel
  cases reply with
  | response response => exact ⟨_, rfl⟩
  | failure failure => cases failure <;> exact ⟨_, rfl⟩

theorem pauseFor_overlaid (reason : String) (seconds : Number.Binary64) : ∃ noted,
    client.pauseFor reason attempt seconds (channel.overlaid journal wish) =
      ((client.pauseFor reason attempt seconds channel).1,
        (client.pauseFor reason attempt seconds channel).2.overlaid noted wish) := by
  unfold pauseFor
  rw [Channel.note_overlaid, Channel.pause_overlaid]
  exact ⟨_, rfl⟩

theorem earlierAttempt_overlaid : ∃ noted,
    client.earlierAttempt request attempt (channel.overlaid journal wish) =
      ((client.earlierAttempt request attempt channel).1,
        (client.earlierAttempt request attempt channel).2.1,
        (client.earlierAttempt request attempt channel).2.2.overlaid noted wish) := by
  unfold earlierAttempt
  obtain ⟨sent, same⟩ := client.counted.sendOnce_overlaid request attempt channel journal wish
  simp only [same]
  obtain ⟨reply, after⟩ := client.counted.sendOnce request attempt channel
  cases reply with
  | response response =>
      dsimp only
      by_cases transient : isTransient response.status = true
      · rw [if_pos transient, if_pos transient]
        cases pauseAfter attempt (wantedPause response.headers) with
        | error failure => exact ⟨_, rfl⟩
        | ok seconds =>
            obtain ⟨paused, equal⟩ := client.counted.pauseFor_overlaid attempt after sent wish
              ("Request failed with " ++ Number.wholeText response.status) seconds
            simp only [equal]
            obtain ⟨verdict, later⟩ := client.counted.pauseFor _ attempt seconds after
            cases verdict <;> exact ⟨_, rfl⟩
      · rw [if_neg transient, if_neg transient]
        exact ⟨_, rfl⟩
  | failure failure =>
      cases failure with
      | transport kind message =>
          dsimp only
          cases pauseAfter attempt none with
          | error failure => exact ⟨_, rfl⟩
          | ok seconds =>
              obtain ⟨paused, equal⟩ := client.counted.pauseFor_overlaid attempt after sent wish
                ("Request error: " ++ message) seconds
              simp only [equal]
              obtain ⟨verdict, later⟩ := client.counted.pauseFor _ attempt seconds after
              cases verdict <;> exact ⟨_, rfl⟩
      | _ => exact ⟨_, rfl⟩

theorem attempts_overlaid (left : Nat) : ∃ noted,
    client.attempts request attempt (channel.overlaid journal wish) left =
      ((client.attempts request attempt channel left).1,
        (client.attempts request attempt channel left).2.1,
        (client.attempts request attempt channel left).2.2.overlaid noted wish) := by
  induction left generalizing client attempt channel journal with
  | zero => exact client.lastAttempt_overlaid request attempt channel journal wish
  | succ left ih =>
      unfold attempts
      obtain ⟨tried, same⟩ :=
        client.earlierAttempt_overlaid request attempt channel journal wish
      simp only [same]
      obtain ⟨ended, after, later⟩ := client.earlierAttempt request attempt channel
      cases ended with
      | none => exact ih after (attempt + 1) later tried
      | some answer => exact ⟨tried, rfl⟩

theorem get_overlaid (path : String) (params : List (String × Json)) : ∃ noted,
    client.get path params (channel.overlaid journal wish) =
      ((client.get path params channel).1, (client.get path params channel).2.1,
        (client.get path params channel).2.2.overlaid noted wish) := by
  unfold get
  by_cases closed : client.closed = true
  · rw [if_pos closed, if_pos closed]
    exact ⟨journal, rfl⟩
  · rw [if_neg closed, if_neg closed]
    exact client.attempts_overlaid _ 0 channel journal wish _

end Client

namespace Pager

variable (pager : Pager) (channel : Channel) (journal : Log.Journal) (wish : Bool)

theorem fetchPage_overlaid (page skip : Int) : ∃ noted,
    pager.fetchPage page skip (channel.overlaid journal wish) =
      ((pager.fetchPage page skip channel).1, (pager.fetchPage page skip channel).2.1,
        (pager.fetchPage page skip channel).2.2.overlaid noted wish) := by
  unfold fetchPage
  obtain ⟨noted, same⟩ :=
    pager.client.get_overlaid channel journal wish listingPath (pager.pageParams skip)
  simp only [same]
  obtain ⟨answer, client, after⟩ := pager.client.get listingPath (pager.pageParams skip) channel
  cases answer <;> exact ⟨noted, rfl⟩

theorem turnPage_overlaid (taken : Nat) : ∃ noted,
    pager.turnPage taken (channel.overlaid journal wish) =
      ((pager.turnPage taken channel).1, (pager.turnPage taken channel).2.1,
        (pager.turnPage taken channel).2.2.overlaid noted wish) := by
  unfold turnPage
  by_cases reached : pager.maxPages ≤ pager.pagesFetched
  · simp only [if_pos reached]
    exact ⟨journal, rfl⟩
  · simp only [if_neg reached]
    obtain ⟨noted, same⟩ :=
      pager.fetchPage_overlaid channel journal wish (↑(pager.pagesFetched + 1)) ↑taken
    simp only [same]
    obtain ⟨result, client, after⟩ :=
      pager.fetchPage (↑(pager.pagesFetched + 1)) ↑taken channel
    cases result <;> exact ⟨_, rfl⟩

theorem stepOver_overlaid (taken : Nat) : ∃ noted,
    pager.stepOver taken (channel.overlaid journal wish) =
      ((pager.stepOver taken channel).1, (pager.stepOver taken channel).2.1,
        (pager.stepOver taken channel).2.2.1,
        (pager.stepOver taken channel).2.2.2.overlaid noted wish) := by
  unfold stepOver
  obtain ⟨noted, same⟩ := pager.turnPage_overlaid channel journal wish taken
  simp only [same]
  obtain ⟨result, turned, after⟩ := pager.turnPage taken channel
  cases result <;> exact ⟨noted, rfl⟩

theorem next_overlaid (cursor : Cursor) : ∃ noted,
    pager.next cursor (channel.overlaid journal wish) =
      ((pager.next cursor channel).1, (pager.next cursor channel).2.1,
        (pager.next cursor channel).2.2.1,
        (pager.next cursor channel).2.2.2.overlaid noted wish) := by
  cases cursor with
  | fresh => exact pager.restarted.stepOver_overlaid channel journal wish 0
  | finished => exact ⟨journal, rfl⟩
  | within pending taken more =>
      cases pending with
      | cons project pending => exact ⟨journal, rfl⟩
      | nil =>
          cases more with
          | true => exact pager.stepOver_overlaid channel journal wish taken
          | false => exact ⟨journal, rfl⟩

end Pager

end ProjectScan
