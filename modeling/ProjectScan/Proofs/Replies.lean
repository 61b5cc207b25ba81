import ProjectScan.Proofs.Exchange
import ProjectScan.Proofs.Traffic

/-!
The replies that requests meet, one after the other. A response that is not worth another attempt
or too deep to be read ends its request at once: the request is sent once and the replies move on by
one.
-/

namespace ProjectScan

namespace Channel

def replyAmong (afterwards : Reply) (turns : List Turn) : Nat → Reply
  | 0 => match turns with
    | [] => afterwards
    | turn :: _ => turn.reply
  | index + 1 => match turns with
    | [] => afterwards
    | turn :: rest => replyAmong afterwards (if turn.stays then turn :: rest else rest) index

/-- The reply that the request with this index meets, counted from now on. -/
def reply (channel : Channel) (index : Nat) : Reply :=
  replyAmong channel.afterwards channel.turns index

variable (channel : Channel) (request : Request)

@[simp] theorem reply_overlaid (journal : Log.Journal) (wish : Bool) (index : Nat) :
    (channel.overlaid journal wish).reply index = channel.reply index := rfl

theorem send_reply : (channel.send request).1 = channel.reply 0 := by
  obtain ⟨turns, afterwards, requests, pauses, journal, cancelled⟩ := channel
  cases turns <;> rfl

theorem reply_send (index : Nat) :
    (channel.send request).2.reply index = channel.reply (index + 1) := by
  obtain ⟨turns, afterwards, requests, pauses, journal, cancelled⟩ := channel
  cases turns with
  | nil => cases index <;> rfl
  | cons turn rest => rfl

theorem note_eq_overlaid (sink : Log.Sink) (level : Int) (message : String) :
    channel.note sink level message =
      channel.overlaid (channel.journal.note sink level message) false :=
  channel.journal_eq_overlaid _

end Channel

namespace Client

variable (client : Client) (request : Request) (attempt : Nat) (channel : Channel)

theorem sendOnce_eq : ∃ noted, client.sendOnce request attempt channel =
    ((channel.reply 0).met, (channel.send request).2.overlaid noted false) := by
  unfold sendOnce
  rw [Channel.note_eq_overlaid, Channel.send_overlaid, Channel.send_reply]
  dsimp only
  cases (channel.reply 0).met with
  | failure failure => exact ⟨_, rfl⟩
  | response response =>
      dsimp only
      rw [Channel.journal_eq_overlaid, Channel.overlaid_overlaid]
      exact ⟨_, rfl⟩

variable {channel} {response : Response} (meets : channel.reply 0 = .response response)
include meets

/-- A response that is not worth another attempt is the answer, whichever attempt it meets. -/
theorem attempts_steady (readable : response.excess? = none)
    (steady : isTransient response.status = false) (left : Nat) :
    ∃ noted, client.attempts request attempt channel left =
      (.ok ⟨response.status, response.value, response.headers⟩,
        client.counted.countedEnd response.status,
        (channel.send request).2.overlaid noted false) := by
  obtain ⟨noted, sent⟩ := client.counted.sendOnce_eq request attempt channel
  rw [meets, Reply.met_of_readable readable] at sent
  refine ⟨noted, ?_⟩
  cases left with
  | zero =>
      unfold attempts lastAttempt
      dsimp only
      rw [sent]
      rfl
  | succ left =>
      unfold attempts earlierAttempt
      dsimp only
      rw [sent]
      dsimp only
      rw [steady]
      rfl

theorem attempts_tooDeep {excess : Json.Excess} (deep : response.excess? = some excess)
    (left : Nat) :
    ∃ noted, client.attempts request attempt channel left =
      (.error (.json (.tooDeep excess)), client.counted,
        (channel.send request).2.overlaid noted false) := by
  obtain ⟨noted, sent⟩ := client.counted.sendOnce_eq request attempt channel
  rw [meets, Reply.met_of_excess deep] at sent
  refine ⟨noted, ?_⟩
  cases left with
  | zero =>
      unfold attempts lastAttempt
      dsimp only
      rw [sent]
  | succ left =>
      unfold attempts earlierAttempt
      dsimp only
      rw [sent]

theorem get_steady (isOpen : client.closed = false) (readable : response.excess? = none)
    (steady : isTransient response.status = false) (path : String)
    (params : List (String × Json)) :
    ∃ noted, client.get path params channel =
      (.ok ⟨response.status, response.value, response.headers⟩,
        client.counted.countedEnd response.status,
        (channel.send (client.requestFor path params)).2.overlaid noted false) := by
  unfold get
  rw [isOpen]
  exact client.attempts_steady _ 0 meets readable steady _

theorem get_tooDeep (isOpen : client.closed = false) {excess : Json.Excess}
    (deep : response.excess? = some excess) (path : String) (params : List (String × Json)) :
    ∃ noted, client.get path params channel =
      (.error (.json (.tooDeep excess)), client.counted,
        (channel.send (client.requestFor path params)).2.overlaid noted false) := by
  unfold get
  rw [isOpen]
  exact client.attempts_tooDeep _ 0 meets deep _

end Client

end ProjectScan
