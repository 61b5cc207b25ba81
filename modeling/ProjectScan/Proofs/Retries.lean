import ProjectScan.Proofs.Replies
import ProjectScan.Proofs.WholeFloats

/-!
The attempts of a request, reply by reply. After a reply that is worth another attempt the client
pauses for whole seconds, or it cannot pause as long as it should. As long as it can pause and
attempts are left, it sends the request again; what the request comes to is settled by the first
reply after which it does not.
-/

namespace ProjectScan

open Number (Binary64)

def Reply.IsUsual : Reply → Prop
  | .response _ | .failure (.transport _ _) => True
  | .failure _ => False

namespace Channel

theorem leastTime_eq : leastTime = .finite true 4835703278458517 (-19) := by decide +kernel

theorem pauseFault?_negative {n : Nat} (some : 0 < n) :
    pauseFault? (.ofQuotient true n 1) =
      .some (if 9223372037 ≤ n then .pauseOutOfRange else .negativePause) := by
  have value : Binary64.quotient 4835703278458517 (-19) = (4835703278458517, 524288) := by
    decide +kernel
  unfold pauseFault?
  rw [leastTime_eq, Binary64.less_ofQuotient_negative n value (by decide +kernel),
    Binary64.lessThanWhole_ofQuotient_negative some]
  by_cases uncounted : 9223372037 ≤ n
  · rw [if_pos uncounted, if_pos (decide_eq_true (by omega))]
  · rw [if_neg uncounted, if_neg (by rw [decide_eq_true_iff]; omega), if_pos rfl]

theorem pauseFault?_ofNatural (n : Nat) : pauseFault? (.ofNatural n) = none := by
  unfold pauseFault?
  rw [leastTime_eq, Binary64.less_ofNatural_negative, Binary64.lessThanWhole_ofNatural]
  rfl

end Channel

namespace Client

def longestWait : Nat := 60

def leastSeconds : Int := -9223372036

/-- The seconds to wait after an attempt: as many as the server asks for, else twice as many after
each attempt, and never more than those of the longest pause. There is no pause of less than no time,
be it counted by a clock or not, and none whose seconds have no float. -/
def wait (attempt : Nat) : Option Int → Except Failure Nat
  | some seconds =>
      if Binary64.overflowBound ≤ seconds.natAbs then .error .endlessPause
      else if seconds < leastSeconds then .error .pauseOutOfRange
      else if seconds < 0 then .error .negativePause
      else .ok (min seconds.toNat longestWait)
  | none =>
      if 1024 ≤ attempt then .error .endlessPause
      else .ok (min (Number.twoTo attempt) longestWait)

theorem wait_le {attempt seconds : Nat} {wanted : Option Int}
    (waits : wait attempt wanted = .ok seconds) : seconds ≤ longestWait := by
  unfold wait at waits
  split at waits
  · split at waits
    · cases waits
    · split at waits
      · cases waits
      · split at waits
        · cases waits
        · cases waits
          exact Nat.min_le_right _ _
  · split at waits
    · cases waits
    · cases waits
      exact Nat.min_le_right _ _

theorem lesser_longestPause (n : Nat) :
    (Binary64.ofNatural n).lesser longestPause = .ofNatural (min n longestWait) :=
  Binary64.lesser_ofNatural n (by decide : longestWait < Number.twoTo 53)

theorem pauseAfter_of_wait {attempt seconds : Nat} {wanted : Option Int}
    (waits : wait attempt wanted = .ok seconds) :
    pauseAfter attempt wanted = .ok (.ofNatural seconds) := by
  unfold wait at waits
  unfold pauseAfter
  cases wanted with
  | some asked =>
      dsimp only at waits ⊢
      split at waits
      · cases waits
      · rename_i finite
        split at waits
        · cases waits
        · split at waits
          · cases waits
          · rename_i positive
            cases waits
            have size : asked.natAbs = asked.toNat := by omega
            rw [Binary64.ofWhole?_eq, if_neg finite, decide_eq_false positive, size]
            exact congrArg Except.ok (lesser_longestPause _)
  | none =>
      dsimp only at waits ⊢
      split at waits
      · cases waits
      · cases waits
        unfold Binary64.powerOfTwo?
        rw [if_neg (by omega), if_neg (by unfold Binary64.leastExponent; omega),
          if_pos (Int.natCast_nonneg _)]
        exact congrArg Except.ok (lesser_longestPause _)

theorem pauseAfter_of_no_wait {attempt : Nat} {wanted : Option Int} {failure : Failure}
    (refused : wait attempt wanted = .error failure) :
    pauseAfter attempt wanted = .error failure ∨
      ∃ number, pauseAfter attempt wanted = .ok number ∧
        Channel.pauseFault? number = some failure := by
  unfold wait at refused
  unfold pauseAfter
  cases wanted with
  | some asked =>
      dsimp only at refused ⊢
      split at refused
      · rename_i overflows
        cases refused
        rw [Binary64.ofWhole?_eq, if_pos overflows]
        exact .inl rfl
      · rename_i finite
        rw [Binary64.ofWhole?_eq, if_neg finite]
        by_cases negative : asked < 0
        · have some : 0 < asked.natAbs := Int.natAbs_pos.mpr (Int.ne_of_lt negative)
          have below := Binary64.lessThanWhole_ofQuotient_negative some
          have kept : (Binary64.ofQuotient true asked.natAbs 1).lesser longestPause = _ :=
            Binary64.lesser_ofNatural_negative below (by decide : longestWait < Number.twoTo 53)
          rw [decide_eq_true negative]
          refine .inr ⟨_, rfl, ?_⟩
          rw [kept, Channel.pauseFault?_negative some]
          unfold leastSeconds at refused
          by_cases uncounted : asked < -9223372036
          · rw [if_pos uncounted] at refused
            cases refused
            rw [if_pos (by omega)]
          · rw [if_neg uncounted, if_pos negative] at refused
            cases refused
            rw [if_neg (by omega)]
        · rw [if_neg (by unfold leastSeconds; omega), if_neg negative] at refused
          cases refused
  | none =>
      dsimp only at refused ⊢
      split at refused
      · rename_i many
        cases refused
        unfold Binary64.powerOfTwo?
        rw [if_pos (by omega)]
        exact .inl rfl
      · cases refused

end Client

/-- What comes after a reply that other attempts may follow: nothing if it ends the request, else the
seconds to wait. A response that is too deep ends it. -/
def Reply.wait? (attempt : Nat) : Reply → Option (Except Failure Nat)
  | .response sent =>
      if sent.excess?.isNone && Client.isTransient sent.status then
        some (Client.wait attempt (Client.wantedPause sent.headers))
      else none
  | .failure _ => some (Client.wait attempt none)

theorem Reply.wait?_le {reply : Reply} {attempt seconds : Nat}
    (waits : reply.wait? attempt = some (.ok seconds)) : seconds ≤ Client.longestWait := by
  unfold wait? at waits
  split at waits
  · split at waits
    · exact Client.wait_le (Option.some.inj waits)
    · cases waits
  · exact Client.wait_le (Option.some.inj waits)

/-! ### Repetitions on the channel -/

/-- The request was sent once for each of these waits, and each wait was kept. -/
structure Channel.Repeats (before after : Channel) (request : Request) (waits : List Nat) :
    Prop where
  requests : after.requests.toList =
    before.requests.toList ++ List.replicate waits.length request
  pauses : after.pauses.toList = before.pauses.toList ++ waits.map Binary64.ofNatural
  replies : ∀ index, after.reply index = before.reply (waits.length + index)

namespace Channel.Repeats

variable {first second third : Channel} {request : Request} {waits more : List Nat}

theorem refl (channel : Channel) (request : Request) : channel.Repeats channel request [] where
  requests := (List.append_nil _).symm
  pauses := (List.append_nil _).symm
  replies index := by rw [List.length_nil, Nat.zero_add]

theorem trans (start : first.Repeats second request waits)
    (onwards : second.Repeats third request more) :
    first.Repeats third request (waits ++ more) where
  requests := by
    rw [onwards.requests, start.requests, List.append_assoc, List.replicate_append_replicate,
      List.length_append]
  pauses := by
    rw [onwards.pauses, start.pauses, List.append_assoc, List.map_append]
  replies index := by
    rw [onwards.replies, start.replies, List.length_append, Nat.add_assoc]

end Channel.Repeats

namespace Channel

def waited (channel : Channel) (journal : Log.Journal) (seconds : Nat) : Channel :=
  { channel with journal, pauses := channel.pauses.push (.ofNatural seconds) }

variable (channel : Channel) (request : Request)

theorem send_pauses : (channel.send request).2.pauses = channel.pauses := by
  unfold send
  dsimp only
  split <;> rfl

theorem repeats_once (journal : Log.Journal) (seconds : Nat) :
    channel.Repeats ((channel.send request).2.waited journal seconds) request [seconds] where
  requests := by
    change (channel.send request).2.requests.toList = _
    rw [send_requests, Array.toList_push]
    rfl
  pauses := by
    change ((channel.send request).2.pauses.push _).toList = _
    rw [send_pauses, Array.toList_push]
    rfl
  replies index := by
    rw [List.length_singleton, Nat.add_comm]
    exact channel.reply_send request index

end Channel

namespace Client

variable (client : Client) (request : Request) {attempt : Nat} {channel : Channel}

def repeated (client : Client) (times : Nat) : Client :=
  { client with tally := { client.tally with
      total := client.tally.total + times
      retried := client.tally.retried + times } }

theorem repeated_succ (times : Nat) :
    client.counted.countedRetry.repeated times = client.repeated (times + 1) := by
  simp only [repeated, countedRetry, counted, Nat.add_assoc, Nat.add_comm 1]

theorem pauseFor_ofNatural (reason : String) (attempt seconds : Nat) (channel : Channel) :
    ∃ noted, client.pauseFor reason attempt (.ofNatural seconds) channel =
      (.ok (), channel.waited noted seconds) := by
  unfold pauseFor Channel.pause
  rw [Channel.pauseFault?_ofNatural]
  exact ⟨_, rfl⟩

theorem pauseFor_of_fault (reason : String) (attempt : Nat) {number : Binary64} {failure : Failure}
    (fault : Channel.pauseFault? number = some failure) (channel : Channel) :
    ∃ later, client.pauseFor reason attempt number channel = (.error failure, later) ∧
      later.pauses = channel.pauses := by
  unfold pauseFor Channel.pause
  rw [fault]
  exact ⟨_, rfl, rfl⟩

def pausing (client : Client) (reason : String) (attempt : Nat) (wanted : Option Int)
    (unpaused : Client) (channel : Channel) : Option (Except Failure Answer) × Client × Channel :=
  match pauseAfter attempt wanted with
  | .error failure => (some (.error failure), unpaused, channel)
  | .ok seconds =>
      match client.pauseFor reason attempt seconds channel with
      | (.error failure, channel) => (some (.error failure), client.countedRetry, channel)
      | (.ok _, channel) => (none, client.countedRetry, channel)

section Pausing

variable {wanted : Option Int} (reason : String) (unpaused : Client) (channel : Channel)

theorem pausing_of_wait {seconds : Nat} (waits : wait attempt wanted = .ok seconds) :
    ∃ noted, client.pausing reason attempt wanted unpaused channel =
      (none, client.countedRetry, channel.waited noted seconds) := by
  obtain ⟨noted, paused⟩ := client.pauseFor_ofNatural reason attempt seconds channel
  unfold pausing
  rw [pauseAfter_of_wait waits]
  dsimp only
  rw [paused]
  exact ⟨noted, rfl⟩

theorem pausing_of_no_wait {failure : Failure} (refused : wait attempt wanted = .error failure) :
    ∃ after later, client.pausing reason attempt wanted unpaused channel =
        (some (.error failure), after, later) ∧ later.pauses = channel.pauses := by
  unfold pausing
  rcases pauseAfter_of_no_wait refused with endless | ⟨number, floats, fault⟩
  · rw [endless]
    exact ⟨_, _, rfl, rfl⟩
  · obtain ⟨later, paused, rest⟩ := client.pauseFor_of_fault reason attempt fault channel
    rw [floats]
    dsimp only
    rw [paused]
    exact ⟨_, later, rfl, rest⟩

end Pausing

theorem earlierAttempt_usual (usual : (channel.reply 0).IsUsual) (attempt : Nat) : ∃ noted,
    let sent := (channel.send request).2.overlaid noted false
    (∃ reason wanted unpaused, (channel.reply 0).wait? attempt = some (wait attempt wanted) ∧
      client.earlierAttempt request attempt channel =
        client.counted.pausing reason attempt wanted unpaused sent) ∨
    (channel.reply 0).wait? attempt = none := by
  obtain ⟨noted, sent⟩ := client.counted.sendOnce_eq request attempt channel
  refine ⟨noted, ?_⟩
  unfold earlierAttempt
  dsimp only
  rw [sent]
  cases met : channel.reply 0 with
  | response response =>
      unfold Reply.wait?
      dsimp only
      cases deep : response.excess? with
      | some excess => exact .inr rfl
      | none =>
          rw [Reply.met_of_readable deep, Option.isNone_none, Bool.true_and]
          dsimp only
          by_cases transient : isTransient response.status = true
          · rw [if_pos transient, if_pos transient]
            exact .inl ⟨_, _, _, rfl, rfl⟩
          · rw [if_neg transient]
            exact .inr rfl
  | failure failure =>
      rw [met] at usual
      cases failure with
      | transport kind message => exact .inl ⟨_, _, _, rfl, rfl⟩
      | _ => cases usual

theorem earlierAttempt_of_wait (usual : (channel.reply 0).IsUsual) {seconds : Nat}
    (waits : (channel.reply 0).wait? attempt = some (.ok seconds)) :
    ∃ noted, client.earlierAttempt request attempt channel =
      (none, client.counted.countedRetry, (channel.send request).2.waited noted seconds) := by
  obtain ⟨sent, ⟨reason, wanted, unpaused, same, tried⟩ | ends⟩ :=
    client.earlierAttempt_usual request usual attempt
  · rw [same] at waits
    obtain ⟨noted, paused⟩ := client.counted.pausing_of_wait reason unpaused
      ((channel.send request).2.overlaid sent false) (Option.some.inj waits)
    rw [tried, paused]
    refine ⟨noted, ?_⟩
    unfold Channel.waited Channel.overlaid
    rw [Bool.or_false]
  · rw [ends] at waits
    cases waits

theorem earlierAttempt_of_no_wait (usual : (channel.reply 0).IsUsual) {failure : Failure}
    (refused : (channel.reply 0).wait? attempt = some (.error failure)) :
    ∃ after later, client.earlierAttempt request attempt channel =
        (some (.error failure), after, later) ∧ later.pauses = channel.pauses := by
  obtain ⟨noted, ⟨reason, wanted, unpaused, same, tried⟩ | ends⟩ :=
    client.earlierAttempt_usual request usual attempt
  · rw [same] at refused
    obtain ⟨after, later, paused, pauses⟩ :=
      client.counted.pausing_of_no_wait reason unpaused
        ((channel.send request).2.overlaid noted false) (Option.some.inj refused)
    exact ⟨after, later, tried.trans paused, pauses.trans (channel.send_pauses request)⟩
  · rw [ends] at refused
    cases refused

/-- The attempts repeat the request as long as waits follow and attempts are left; what they come to
is settled by the reply after the last of these waits. -/
theorem attempts_repeat (attempt : Nat) (channel : Channel) (left : Nat)
    (usual : ∀ index < left, (channel.reply index).IsUsual) :
    ∃ waits later, waits.length ≤ left ∧ channel.Repeats later request waits ∧
      client.attempts request attempt channel left =
        (client.repeated waits.length).attempts request (attempt + waits.length) later
          (left - waits.length) ∧
      (∀ index seconds, waits[index]? = some seconds →
        (channel.reply index).wait? (attempt + index) = some (.ok seconds)) ∧
      (waits.length < left → ∀ seconds,
        (channel.reply waits.length).wait? (attempt + waits.length) ≠ some (.ok seconds)) := by
  -- Each wait takes one of the attempts left and moves the replies on by one.
  induction left generalizing client attempt channel with
  | zero => exact ⟨[], channel, Nat.le_refl 0, .refl channel request, rfl, nofun, nofun⟩
  | succ left ih =>
      by_cases waits : ∃ seconds, (channel.reply 0).wait? attempt = some (.ok seconds)
      · obtain ⟨seconds, waits⟩ := waits
        obtain ⟨noted, tried⟩ :=
          client.earlierAttempt_of_wait request (usual 0 (Nat.succ_pos left)) waits
        have once := channel.repeats_once request noted seconds
        generalize (channel.send request).2.waited noted seconds = between at tried once
        have moved (index : Nat) : between.reply index = channel.reply (index + 1) := by
          rw [once.replies, List.length_singleton, Nat.add_comm]
        obtain ⟨others, later, few, repeats, onwards, all, ends⟩ :=
          ih client.counted.countedRetry (attempt + 1) between (by
            intro index within
            rw [moved]
            exact usual (index + 1) (Nat.succ_lt_succ within))
        refine ⟨seconds :: others, later, Nat.succ_le_succ few, once.trans repeats, ?_, ?_, ?_⟩
        · rw [List.length_cons, ← repeated_succ, Nat.succ_sub_succ, ← Nat.add_assoc,
            Nat.add_right_comm, ← onwards, attempts, tried]
        · intro index seconds found
          cases index with
          | zero =>
              cases found
              exact waits
          | succ index =>
              rw [← moved, ← Nat.add_assoc, Nat.add_right_comm]
              exact all index seconds found
        · intro more
          rw [List.length_cons, ← moved, ← Nat.add_assoc, Nat.add_right_comm]
          exact ends (Nat.lt_of_succ_lt_succ more)
      · refine ⟨[], channel, Nat.zero_le _, .refl channel request, rfl, nofun, ?_⟩
        intro _ seconds found
        exact waits ⟨seconds, found⟩

end Client

end ProjectScan
