import Mathlib.Algebra.Ring.Nat
import ProjectScan.Proofs.Hiccups
import ProjectScan.Proofs.Walk

/-!
What passes over a channel, counted. A request moves the replies on by one, and a pause stands
between two requests of one fetch. Of the replies that a fetch meets only the last one can be a page,
so the pages among the replies are those that the fetches brought.
-/

namespace ProjectScan

def Reply.page? : Reply → Option Page
  | .response sent => (Page.ofAnswer 0 sent.status sent.value).toOption
  | .failure _ => none

def Client.Answer.page? (answer : Client.Answer) : Option Page :=
  (Page.ofAnswer 0 answer.status answer.value).toOption

theorem Page.toOption_ofAnswer (number other status : Int) (value : Json) :
    (ofAnswer number status value).toOption = (ofAnswer other status value).toOption := by
  apply Option.ext
  intro page
  have found (number : Int) : (ofAnswer number status value).toOption = some page ↔
      ofAnswer number status value = .ok page := by
    cases ofAnswer number status value with
    | error failure => exact ⟨nofun, nofun⟩
    | ok other => exact ⟨fun same => by cases same; rfl, fun same => by cases same; rfl⟩
  rw [found number, found other, ofAnswer_eq_ok_iff, ofAnswer_eq_ok_iff]

theorem Reply.page?_of_transient {sent : Response}
    (transient : Client.isTransient sent.status = true) : (Reply.response sent).page? = none := by
  change (Page.ofAnswer 0 sent.status sent.value).toOption = none
  cases read : Page.ofAnswer 0 sent.status sent.value with
  | error failure => rfl
  | ok page =>
      obtain ⟨success, _⟩ := Page.ofAnswer_eq_ok_iff.mp read
      unfold Client.isTransient at transient
      simp only [Bool.or_eq_true, decide_eq_true_eq, Bool.and_eq_true] at transient
      omega

theorem Reply.page?_met (reply : Reply) : reply.met.page? = reply.page? := by
  cases reply with
  | failure cause => rfl
  | response sent =>
      cases deep : sent.excess? with
      | none => rw [met_of_readable deep]
      | some excess =>
          rw [met_of_excess deep]
          unfold page?
          dsimp only
          rw [Response.value_of_excess deep]
          unfold Page.ofAnswer
          split <;> rfl

namespace Channel

def wishAmong (turns : List Turn) : Nat → Bool
  | 0 => match turns with
    | [] => false
    | turn :: _ => turn.cancels
  | index + 1 => match turns with
    | [] => false
    | turn :: rest => wishAmong (if turn.stays then turn :: rest else rest) index

/-- Whether the scan is cancelled during the request with this index, counted from now on. -/
def wish (channel : Channel) (index : Nat) : Bool := wishAmong channel.turns index

def wished (channel : Channel) (count : Nat) : Bool := (List.range count).any channel.wish

def pages (channel : Channel) (count : Nat) : List Page :=
  (List.range count).filterMap fun index => (channel.reply index).page?

structure Passes (before after : Channel) (sent paused : Nat) : Prop where
  requests : ∃ more, after.requests.toList = before.requests.toList ++ more ∧ more.length = sent
  pauses : ∃ more, after.pauses.toList = before.pauses.toList ++ more ∧ more.length = paused
  replies : ∀ index, after.reply index = before.reply (sent + index)
  wishes : ∀ index, after.wish index = before.wish (sent + index)
  cancelled : after.cancelled = (before.cancelled || before.wished sent)

namespace Passes

variable {first second third before after : Channel} {sent paused more others : Nat}

theorem refl (channel : Channel) : channel.Passes channel 0 0 where
  requests := ⟨[], (List.append_nil _).symm, rfl⟩
  pauses := ⟨[], (List.append_nil _).symm, rfl⟩
  replies index := by rw [Nat.zero_add]
  wishes index := by rw [Nat.zero_add]
  cancelled := (Bool.or_false _).symm

theorem wished_add (passes : before.Passes after sent paused) (count : Nat) :
    before.wished (sent + count) = (before.wished sent || after.wished count) := by
  unfold wished
  rw [List.range_add, List.any_append, List.any_map, funext passes.wishes]
  rfl

theorem pages_add (passes : before.Passes after sent paused) (count : Nat) :
    before.pages (sent + count) = before.pages sent ++ after.pages count := by
  unfold pages
  simp only [passes.replies]
  rw [List.range_add, List.filterMap_append, List.filterMap_map]
  rfl

theorem trans (start : first.Passes second sent paused) (onwards : second.Passes third more others) :
    first.Passes third (sent + more) (paused + others) where
  requests := by
    obtain ⟨begun, same, length⟩ := start.requests
    obtain ⟨rest, equal, count⟩ := onwards.requests
    refine ⟨begun ++ rest, ?_, ?_⟩
    · rw [equal, same, List.append_assoc]
    · rw [List.length_append, length, count]
  pauses := by
    obtain ⟨begun, same, length⟩ := start.pauses
    obtain ⟨rest, equal, count⟩ := onwards.pauses
    refine ⟨begun ++ rest, ?_, ?_⟩
    · rw [equal, same, List.append_assoc]
    · rw [List.length_append, length, count]
  replies index := by rw [onwards.replies, start.replies, Nat.add_assoc]
  wishes index := by rw [onwards.wishes, start.wishes, Nat.add_assoc]
  cancelled := by rw [onwards.cancelled, start.cancelled, start.wished_add, Bool.or_assoc]

theorem requests_size (passes : before.Passes after sent paused) :
    after.requests.size = before.requests.size + sent := by
  obtain ⟨more, same, length⟩ := passes.requests
  rw [← Array.length_toList, same, List.length_append, length, Array.length_toList]

theorem pauses_size (passes : before.Passes after sent paused) :
    after.pauses.size = before.pauses.size + paused := by
  obtain ⟨more, same, length⟩ := passes.pauses
  rw [← Array.length_toList, same, List.length_append, length, Array.length_toList]

theorem noted (passes : before.Passes after sent paused) (journal : Log.Journal) :
    before.Passes (after.overlaid journal false) sent paused where
  requests := passes.requests
  pauses := passes.pauses
  replies := passes.replies
  wishes := passes.wishes
  cancelled := by rw [cancelled_overlaid, Bool.or_false, passes.cancelled]

end Passes

variable (channel : Channel)

theorem passes_send (request : Request) : channel.Passes (channel.send request).2 1 0 := by
  refine ⟨⟨[request], ?_, rfl⟩, ⟨[], ?_, rfl⟩, ?_, ?_, ?_⟩
  · rw [send_requests, Array.toList_push]
  · obtain ⟨turns, afterwards, requests, pauses, journal, cancelled⟩ := channel
    cases turns <;> exact (List.append_nil _).symm
  · intro index
    rw [reply_send, Nat.add_comm]
  · intro index
    rw [Nat.add_comm]
    obtain ⟨turns, afterwards, requests, pauses, journal, cancelled⟩ := channel
    cases turns with
    | nil => cases index <;> rfl
    | cons turn rest => rfl
  · obtain ⟨turns, afterwards, requests, pauses, journal, cancelled⟩ := channel
    have once (turns : List Turn) : (List.range 1).any (wishAmong turns) = wishAmong turns 0 :=
      Bool.or_false _
    cases turns with
    | nil => exact (congrArg (cancelled || ·) (once [])).trans (Bool.or_false _) |>.symm
    | cons turn rest => exact (congrArg (cancelled || ·) (once (turn :: rest))).symm

theorem passes_pause (seconds : Number.Binary64) :
    ((channel.pause seconds).1 = .ok () ∧ channel.Passes (channel.pause seconds).2 0 1) ∨
      ∃ failure, (channel.pause seconds).1 = .error failure ∧
        channel.Passes (channel.pause seconds).2 0 0 := by
  unfold pause
  cases pauseFault? seconds with
  | some failure => exact .inr ⟨failure, rfl, .refl channel⟩
  | none =>
    have same := Passes.refl channel
    exact .inl ⟨rfl, same.requests, ⟨[seconds], Array.toList_push, rfl⟩, same.replies, same.wishes,
      same.cancelled⟩

end Channel

/-! ### Requests -/

/-- The channel before and after a fetch that took some repetitions: each of them came after a pause,
and only the last reply may be a page. -/
structure Channel.Brings (before after : Channel) (repeats : Nat) (page? : Option Page) : Prop where
  passes : before.Passes after (repeats + 1) repeats
  vain : ∀ index < repeats, (before.reply index).page? = none
  last : (before.reply repeats).page? = page?

theorem Channel.Brings.pages {before after : Channel} {repeats : Nat} {page? : Option Page}
    (brings : before.Brings after repeats page?) :
    before.pages (repeats + 1) = page?.toList := by
  have none : before.pages repeats = [] := by
    refine List.filterMap_eq_nil_iff.mpr ?_
    intro index member
    exact brings.vain index (List.mem_range.mp member)
  unfold Channel.pages at none ⊢
  rw [List.range_succ, List.filterMap_append, none, List.nil_append, ← brings.last]
  unfold List.filterMap
  cases (before.reply repeats).page? <;> rfl

namespace Client

variable (client : Client) (request : Request) (attempt : Nat) (channel : Channel)

theorem sendOnce_passes :
    (client.sendOnce request attempt channel).1.page? = (channel.reply 0).page? ∧
      channel.Passes (client.sendOnce request attempt channel).2 1 0 := by
  obtain ⟨noted, sent⟩ := client.sendOnce_eq request attempt channel
  rw [sent]
  exact ⟨(channel.reply 0).page?_met, (channel.passes_send request).noted noted⟩

theorem pauseFor_passes (reason : String) (seconds : Number.Binary64) :
    let paused := client.pauseFor reason attempt seconds channel
    (paused.1 = .ok () ∧ channel.Passes paused.2 0 1) ∨
      ∃ failure, paused.1 = .error failure ∧ channel.Passes paused.2 0 0 := by
  have noted : channel.Passes (channel.note client.sink Log.Level.warning
      (reason ++ client.retryText attempt seconds)) 0 0 := by
    rw [Channel.note_eq_overlaid]
    exact (Channel.Passes.refl channel).noted _
  rcases Channel.passes_pause (channel.note client.sink Log.Level.warning
      (reason ++ client.retryText attempt seconds)) seconds with ⟨made, passes⟩ | ⟨failure, refused, passes⟩
  · exact .inl ⟨made, noted.trans passes⟩
  · exact .inr ⟨failure, refused, noted.trans passes⟩

theorem lastAttempt_brings :
    let trial := client.lastAttempt request attempt channel
    channel.Brings trial.2.2 0 (trial.1.toOption.bind Answer.page?) ∧
      trial.2.1.tally.total = client.tally.total + 1 := by
  obtain ⟨meets, passes⟩ := client.counted.sendOnce_passes request attempt channel
  unfold lastAttempt
  dsimp only
  generalize client.counted.sendOnce request attempt channel = exchange at meets passes ⊢
  obtain ⟨reply, later⟩ := exchange
  change reply.page? = _ at meets
  cases reply with
  | response response =>
      refine ⟨⟨passes, nofun, ?_⟩, total_countedEnd _ _⟩
      rw [← meets]
      rfl
  | failure failure =>
      have noPage : (channel.reply 0).page? = none := by
        rw [← meets]
        rfl
      cases failure with
      | transport kind message =>
          refine ⟨⟨?_, nofun, noPage⟩, rfl⟩
          dsimp only
          rw [Channel.note_eq_overlaid]
          exact passes.noted _
      | _ => exact ⟨⟨passes, nofun, noPage⟩, rfl⟩

theorem earlierAttempt_brings :
    let trial := client.earlierAttempt request attempt channel
    trial.2.1.tally.total = client.tally.total + 1 ∧
      ((∃ answer, trial.1 = some answer ∧
          channel.Brings trial.2.2 0 (answer.toOption.bind Answer.page?)) ∨
        trial.1 = none ∧ channel.Passes trial.2.2 1 1 ∧ (channel.reply 0).page? = none) := by
  obtain ⟨meets, passes⟩ := client.counted.sendOnce_passes request attempt channel
  have refused (later : Channel) (failure : Failure) (noPage : (channel.reply 0).page? = none)
      (passes : channel.Passes later 1 0) :
      channel.Brings later 0 ((Except.error failure : Except Failure Answer).toOption.bind Answer.page?) :=
    ⟨passes, nofun, noPage⟩
  unfold earlierAttempt
  dsimp only
  generalize client.counted.sendOnce request attempt channel = exchange at meets passes ⊢
  obtain ⟨reply, later⟩ := exchange
  change reply.page? = _ at meets
  change channel.Passes later 1 0 at passes
  cases reply with
  | response response =>
      dsimp only
      by_cases transient : isTransient response.status = true
      · have noPage : (channel.reply 0).page? = none := by
          rw [← meets]
          exact Reply.page?_of_transient transient
        rw [if_pos transient]
        cases pauseAfter attempt (wantedPause response.headers) with
        | error failure => exact ⟨rfl, .inl ⟨_, rfl, refused later failure noPage passes⟩⟩
        | ok seconds =>
            dsimp only
            have pausing := client.counted.pauseFor_passes attempt later
              ("Request failed with " ++ Number.wholeText response.status) seconds
            generalize client.counted.pauseFor _ attempt seconds later = paused at pausing ⊢
            obtain ⟨verdict, last⟩ := paused
            rcases pausing with ⟨rfl, made⟩ | ⟨failure, rfl, none⟩
            · exact ⟨rfl, .inr ⟨rfl, passes.trans made, noPage⟩⟩
            · exact ⟨rfl, .inl ⟨_, rfl, refused last failure noPage (passes.trans none)⟩⟩
      · rw [if_neg transient]
        refine ⟨total_countedEnd _ _, .inl ⟨_, rfl, passes, nofun, ?_⟩⟩
        rw [← meets]
        rfl
  | failure failure =>
      have noPage : (channel.reply 0).page? = none := by
        rw [← meets]
        rfl
      cases failure with
      | transport kind message =>
          dsimp only
          cases pauseAfter attempt none with
          | error failure => exact ⟨rfl, .inl ⟨_, rfl, refused later failure noPage passes⟩⟩
          | ok seconds =>
              dsimp only
              have pausing := client.counted.pauseFor_passes attempt later
                ("Request error: " ++ message) seconds
              generalize client.counted.pauseFor _ attempt seconds later = paused at pausing ⊢
              obtain ⟨verdict, last⟩ := paused
              rcases pausing with ⟨rfl, made⟩ | ⟨failure, rfl, none⟩
              · exact ⟨rfl, .inr ⟨rfl, passes.trans made, noPage⟩⟩
              · exact ⟨rfl, .inl ⟨_, rfl, refused last failure noPage (passes.trans none)⟩⟩
      | _ => exact ⟨rfl, .inl ⟨_, rfl, refused later _ noPage passes⟩⟩

theorem attempts_brings (left : Nat) :
    let fetched := client.attempts request attempt channel left
    ∃ repeats, channel.Brings fetched.2.2 repeats (fetched.1.toOption.bind Answer.page?) ∧
      fetched.2.1.tally.total = client.tally.total + (repeats + 1) := by
  induction left generalizing client attempt channel with
  | zero => exact ⟨0, client.lastAttempt_brings request attempt channel⟩
  | succ left ih =>
      obtain ⟨counted, once⟩ := client.earlierAttempt_brings request attempt channel
      unfold attempts
      generalize client.earlierAttempt request attempt channel = trial at counted once ⊢
      obtain ⟨ended, after, later⟩ := trial
      change after.tally.total = _ at counted
      rcases once with ⟨answer, rfl, brings⟩ | ⟨rfl, passes, noPage⟩
      · exact ⟨0, brings, counted⟩
      · obtain ⟨repeats, onwards, total⟩ := ih after (attempt + 1) later
        refine ⟨repeats + 1, ⟨?_, ?_, ?_⟩, ?_⟩
        · have whole := passes.trans onwards.passes
          rw [Nat.add_comm 1 (repeats + 1), Nat.add_comm 1 repeats] at whole
          exact whole
        · intro index before
          cases index with
          | zero => exact noPage
          | succ index =>
              have vain := onwards.vain index (Nat.lt_of_succ_lt_succ before)
              rw [passes.replies, Nat.add_comm] at vain
              exact vain
        · have last := onwards.last
          rw [passes.replies, Nat.add_comm] at last
          exact last
        · dsimp only
          rw [total, counted]
          omega

/-- An open client sends its request once more than it pauses, and counts a call each time. -/
theorem get_brings (isOpen : client.closed = false) (path : String)
    (params : List (String × Json)) :
    let fetched := client.get path params channel
    ∃ repeats, channel.Brings fetched.2.2 repeats (fetched.1.toOption.bind Answer.page?) ∧
      fetched.2.1.tally.total = client.tally.total + (repeats + 1) := by
  unfold get
  rw [isOpen]
  exact client.attempts_brings _ 0 channel _

theorem get_passes (path : String) (params : List (String × Json)) :
    ∃ sent paused, channel.Passes (client.get path params channel).2.2 sent paused := by
  by_cases closed : client.closed = true
  · unfold get
    rw [if_pos closed]
    exact ⟨0, 0, .refl channel⟩
  · obtain ⟨repeats, brings, _⟩ :=
      client.get_brings channel (Bool.eq_false_iff.mpr closed) path params
    exact ⟨repeats + 1, repeats, brings.passes⟩

end Client

namespace Fetch

theorem toOption_result (fetch : Fetch) :
    fetch.result.toOption = fetch.answer.toOption.bind Client.Answer.page? := by
  unfold result
  cases fetch.answer with
  | error failure => rfl
  | ok answer => exact Page.toOption_ofAnswer _ 0 _ _

def sent (fetches : List Fetch) : Nat := (fetches.map (·.attempts)).sum

theorem sent_concat (fetches : List Fetch) (fetch : Fetch) :
    sent (fetches ++ [fetch]) = sent fetches + fetch.attempts := by
  unfold sent
  rw [List.map_append, List.sum_append, List.map_singleton, List.sum_singleton]

variable {pager : Pager} {client after : Client} {channel later : Channel} {fetches : List Fetch}

/-- Fetches of an open client: the requests are their attempts, of which each fetch takes one more than
it pauses, and the pages among the replies are those they brought. -/
theorem Made.passes (made : Made pager client channel fetches after later)
    (isOpen : client.closed = false) :
    ∃ paused, channel.Passes later (sent fetches) paused ∧
      sent fetches = fetches.length + paused ∧
      after.tally.total = client.tally.total + sent fetches ∧
      channel.pages (sent fetches) = fetches.filterMap (·.result.toOption) := by
  induction made with
  | none => exact ⟨0, .refl channel, rfl, rfl, rfl⟩
  | noted journal _ ih =>
      obtain ⟨paused, passes, rest⟩ := ih
      rw [Channel.journal_eq_overlaid]
      exact ⟨paused, passes.noted journal, rest⟩
  | @fetched fetches before after earlier later fetch made got counted ih =>
      obtain ⟨paused, passes, count, total, pages⟩ := ih
      obtain ⟨repeats, brings, more⟩ := before.get_brings earlier (made.recounts.closed.trans isOpen)
        Pager.listingPath (pager.pageParams fetch.skip)
      rw [got] at brings more
      change after.tally.total = _ at more
      have attempts : fetch.attempts = repeats + 1 := by
        have size : later.requests.size = earlier.requests.size + (repeats + 1) :=
          brings.passes.requests_size
        omega
      rw [sent_concat, attempts]
      refine ⟨paused + repeats, passes.trans brings.passes, ?_, ?_, ?_⟩
      · rw [count, List.length_append, List.length_singleton]
        omega
      · rw [more, total, Nat.add_assoc]
      · rw [passes.pages_add, pages, brings.pages, List.filterMap_append, ← fetch.toOption_result]
        unfold List.filterMap
        cases fetch.result.toOption <;> rfl

end Fetch

/-! ### Runs -/

namespace Pager

theorem turnPage_passes (pager : Pager) (taken : Nat) (channel : Channel) :
    ∃ sent paused, channel.Passes (pager.turnPage taken channel).2.2 sent paused := by
  rcases Nat.lt_or_ge pager.pagesFetched pager.maxPages with allowed | reached
  · obtain ⟨sent, paused, passes⟩ :=
      pager.client.get_passes channel listingPath (pager.pageParams taken)
    obtain ⟨journal, turns⟩ := pager.turnPage_of_get taken 0 allowed rfl
    rw [turns]
    dsimp only
    rw [Channel.journal_eq_overlaid]
    exact ⟨sent, paused, passes.noted journal⟩
  · rw [turnPage_limit reached]
    exact ⟨0, 0, .refl channel⟩

theorem next_passes (pager : Pager) (cursor : Cursor) (channel : Channel) :
    ∃ sent paused, channel.Passes (pager.next cursor channel).2.2.2 sent paused := by
  have steps (pager : Pager) (taken : Nat) :
      ∃ sent paused, channel.Passes (pager.stepOver taken channel).2.2.2 sent paused := by
    have turned := pager.turnPage_passes taken channel
    unfold stepOver
    generalize pager.turnPage taken channel = turn at turned ⊢
    obtain ⟨result, after, later⟩ := turn
    cases result <;> exact turned
  cases cursor with
  | fresh => exact steps pager.restarted 0
  | finished => exact ⟨0, 0, .refl channel⟩
  | within pending taken more =>
      cases pending with
      | cons project pending => exact ⟨0, 0, .refl channel⟩
      | nil =>
          cases more with
          | true => exact steps pager taken
          | false => exact ⟨0, 0, .refl channel⟩

theorem run_passes (pager : Pager) (cursor : Cursor) (channel : Channel) (count more : Nat) :
    ∃ sent paused, (pager.run cursor channel count).channel.Passes
      (pager.run cursor channel (count + more)).channel sent paused := by
  induction count generalizing pager cursor channel with
  | zero =>
      rw [Nat.zero_add, run_zero]
      dsimp only
      induction more generalizing pager cursor channel with
      | zero => exact ⟨0, 0, .refl channel⟩
      | succ more ih =>
          obtain ⟨sent, paused, once⟩ := pager.next_passes cursor channel
          cases step : pager.next cursor channel with
          | mk brought rest =>
              obtain ⟨after, turned, later⟩ := rest
              rw [step] at once
              cases brought with
              | project project =>
                  obtain ⟨others, pauses, onwards⟩ := ih turned after later
                  rw [run_project step]
                  exact ⟨_, _, once.trans onwards⟩
              | done =>
                  rw [run_done step]
                  exact ⟨_, _, once⟩
              | failed failure =>
                  rw [run_failed step]
                  exact ⟨_, _, once⟩
  | succ count ih =>
      rw [Nat.add_right_comm]
      cases step : pager.next cursor channel with
      | mk brought rest =>
          obtain ⟨after, turned, later⟩ := rest
          cases brought with
          | project project =>
              rw [run_project step, run_project step]
              exact ih turned after later
          | done =>
              rw [run_done step, run_done step]
              exact ⟨0, 0, .refl later⟩
          | failed failure =>
              rw [run_failed step, run_failed step]
              exact ⟨0, 0, .refl later⟩

theorem run_passes_drain (pager : Pager) (cursor : Cursor) (channel : Channel) {count : Nat}
    (within : count ≤ (pager.drain cursor channel).state.length) :
    ∃ sent paused, (pager.run cursor channel count).channel.Passes
      (pager.drain cursor channel).channel sent paused := by
  have fewer : count ≤ (pager.drain cursor channel).state.length + 1 := Nat.le_succ_of_le within
  obtain ⟨more, enough⟩ := Nat.exists_eq_add_of_le fewer
  obtain ⟨_, whole, _⟩ := pager.run_drain cursor channel
  rw [← whole, enough]
  exact pager.run_passes cursor channel count more

end Pager

end ProjectScan
