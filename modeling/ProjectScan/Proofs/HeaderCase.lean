import Mathlib.Data.List.Find
import Mathlib.Data.List.Forall2
import ProjectScan.Proofs.Retelling
import ProjectScan.Proofs.Traversal

/-!
The letter case of header names. Servers and proxies are free to write a name in letters of any case,
but a client knows the name under which a pause is asked for in two spellings only. Under these it
reads the same pause, whatever else is spelled in another way; under any other spelling it overlooks
the pause, as if it were not asked for.
-/

namespace ProjectScan

namespace Client

def pauseNames : List String := ["Retry-After", "retry-after"]

def lowered (headers : List (String × String)) : List (List Char × String) :=
  headers.map fun header => (Text.small header.1.toList, header.2)

/-- No two names differ in nothing but the case of letters. -/
def AreClear (headers : List (String × String)) : Prop :=
  ∀ first ∈ headers, ∀ second ∈ headers,
    Text.small first.1.toList = Text.small second.1.toList → first.1 = second.1

structure Recased (headers others : List (String × String)) : Prop where
  same : lowered headers = lowered others
  clear : AreClear headers
  clearToo : AreClear others

/-- A pause is asked for in a spelling under which it is read. -/
def AsksPlainly (headers : List (String × String)) : Prop :=
  ∃ header ∈ headers, header.1 ∈ pauseNames

/-- The text that asks for a pause: of the texts under the two spellings the first that says
anything. -/
def askedText (headers : List (String × String)) : Option String :=
  ((header? headers "Retry-After").filter (· ≠ "")).or
    ((header? headers "retry-after").filter (· ≠ ""))

def spokenText (headers : List (String × String)) : Option String :=
  ((lowered headers).reverse.find? (·.1 = "retry-after".toList)).map (·.2)

theorem small_pauseName {name : String} (known : name ∈ pauseNames) :
    Text.small name.toList = "retry-after".toList := by
  have each : ∀ name ∈ pauseNames, Text.small name.toList = "retry-after".toList := by decide
  exact each name known

section Names

variable {headers : List (String × String)}

theorem filter_said {text : String} (said : text ≠ "") :
    (some text).filter (· ≠ "") = some text := Option.filter_some_pos (decide_eq_true said)

theorem wantedPause_eq (headers : List (String × String)) : wantedPause headers =
    (askedText headers).bind fun text => (Number.readWhole text.toList).toOption := by
  have silent_or_said (found : Option String) :
      (found = none ∨ found = some "") ∨ ∃ text, text ≠ "" ∧ found = some text := by
    cases found with
    | none => exact .inl (.inl rfl)
    | some text =>
        by_cases empty : text = ""
        · exact .inl (.inr (congrArg some empty))
        · exact .inr ⟨text, empty, rfl⟩
  unfold wantedPause askedText
  rcases silent_or_said (header? headers "Retry-After") with first | ⟨text, said, found⟩
  · rcases silent_or_said (header? headers "retry-after") with second | ⟨text, said, found⟩
    · rcases first with first | first <;> rcases second with second | second <;>
        rw [first, second] <;> rfl
    · rcases first with first | first
      · rw [first, found, filter_said said]
        simp
      · have blank : (some "").filter (· ≠ "") = none := rfl
        rw [first, found, filter_said said, blank]
        simp
  · rw [found, filter_said said]
    simp [said]

theorem header?_eq_none {name : String} (absent : ∀ header ∈ headers, header.1 ≠ name) :
    header? headers name = none := by
  unfold header?
  rw [Option.map_eq_none_iff, List.find?_eq_none]
  intro header member same
  exact absent header (List.mem_reverse.mp member) (of_decide_eq_true same)

theorem header?_of_areClear (clear : AreClear headers) {header : String × String}
    (member : header ∈ headers) : header? headers header.1 =
      ((lowered headers).reverse.find? (·.1 = Text.small header.1.toList)).map (·.2) := by
  have alike : ∀ other ∈ headers.reverse, decide (other.1 = header.1) =
      decide (Text.small other.1.toList = Text.small header.1.toList) := by
    intro other among
    apply decide_eq_decide.mpr
    constructor
    · intro same
      rw [same]
    · exact clear other (List.mem_reverse.mp among) header member
  unfold header? lowered
  rw [List.find?_congr alike, ← List.map_reverse, List.find?_map, Option.map_map]
  rfl

theorem header?_other_spelling (clear : AreClear headers) {header : String × String}
    (member : header ∈ headers) (known : header.1 ∈ pauseNames) {name : String}
    (other : name ∈ pauseNames) (differs : header.1 ≠ name) : header? headers name = none := by
  apply header?_eq_none
  intro second among same
  apply differs
  rw [← same]
  apply clear header member second among
  rw [small_pauseName known, same, small_pauseName other]

theorem askedText_of_asksPlainly (clear : AreClear headers) (plain : AsksPlainly headers) :
    askedText headers = (spokenText headers).filter (· ≠ "") := by
  obtain ⟨header, member, known⟩ := plain
  have found : header? headers header.1 = spokenText headers := by
    rw [header?_of_areClear clear member, small_pauseName known]
    rfl
  have other {name : String} (second : name ∈ pauseNames) (differs : header.1 ≠ name) :=
    header?_other_spelling clear member known second differs
  have spelled : header.1 = "Retry-After" ∨ header.1 = "retry-after" := by
    simpa [pauseNames] using known
  unfold askedText
  rcases spelled with capital | small
  · rw [other (by decide : "retry-after" ∈ pauseNames) (by rw [capital]; decide), ← capital, found]
    exact Option.or_none
  · rw [other (by decide : "Retry-After" ∈ pauseNames) (by rw [small]; decide), ← small, found]
    rfl

theorem askedText_of_not_asksPlainly (silent : ¬AsksPlainly headers) : askedText headers = none := by
  have absent {name : String} (known : name ∈ pauseNames) : header? headers name = none :=
    header?_eq_none fun header member same => silent ⟨header, member, same ▸ known⟩
  unfold askedText
  rw [absent (by decide : "Retry-After" ∈ pauseNames), absent (by decide : "retry-after" ∈ pauseNames)]
  rfl

theorem Recased.askedText {others : List (String × String)} (recased : Recased headers others)
    (alike : AsksPlainly headers ↔ AsksPlainly others) :
    askedText headers = Client.askedText others := by
  by_cases plain : AsksPlainly headers
  · rw [askedText_of_asksPlainly recased.clear plain,
      askedText_of_asksPlainly recased.clearToo (alike.mp plain)]
    unfold spokenText
    rw [recased.same]
  · rw [askedText_of_not_asksPlainly plain, askedText_of_not_asksPlainly (plain ∘ alike.mpr)]

end Names

end Client

/-- Two replies that differ at most in the headers of a response. -/
inductive Reply.Reworded (relates : List (String × String) → List (String × String) → Prop) :
    Reply → Reply → Prop where
  | response (received : Response) {others : List (String × String)}
      (related : relates received.headers others) :
      Reworded relates (.response received) (.response { received with headers := others })
  | failure (met : Failure) : Reworded relates (.failure met) (.failure met)

structure Turn.Reworded (relates : List (String × String) → List (String × String) → Prop)
    (turn other : Turn) : Prop where
  reply : turn.reply.Reworded relates other.reply
  stays : turn.stays = other.stays
  cancels : turn.cancels = other.cancels

/-- Two channels that differ at most in the headers of the responses to come. -/
structure Channel.Reworded (relates : List (String × String) → List (String × String) → Prop)
    (channel other : Channel) : Prop where
  turns : List.Forall₂ (Turn.Reworded relates) channel.turns other.turns
  afterwards : channel.afterwards.Reworded relates other.afterwards
  past : other = { channel with turns := other.turns, afterwards := other.afterwards }

section Rewording

variable {relates : List (String × String) → List (String × String) → Prop} (retelling : Retelling)
  (alike : ∀ {headers others}, relates headers others →
    retelling.headers headers = retelling.headers others)
include alike

theorem Reply.Reworded.retold {reply other : Reply} (reworded : reply.Reworded relates other) :
    reply.retold retelling = other.retold retelling := by
  cases reworded with
  | response received related =>
      exact congrArg (fun headers => Reply.response { received with headers }) (alike related)
  | failure met => rfl

theorem Turn.Reworded.retold {turn other : Turn} (reworded : turn.Reworded relates other) :
    turn.retold retelling = other.retold retelling := by
  unfold Turn.retold
  rw [reworded.reply.retold retelling alike, reworded.stays, reworded.cancels]

theorem Turn.Reworded.map_retold {turns others : List Turn}
    (reworded : List.Forall₂ (Turn.Reworded relates) turns others) :
    turns.map (·.retold retelling) = others.map (·.retold retelling) := by
  induction reworded with
  | nil => rfl
  | cons head _ ih => rw [List.map_cons, List.map_cons, head.retold retelling alike, ih]

theorem Channel.Reworded.retold {channel other : Channel}
    (reworded : channel.Reworded relates other) :
    channel.retold retelling = other.retold retelling := by
  rw [reworded.past]
  unfold Channel.retold
  rw [Turn.Reworded.map_retold retelling alike reworded.turns,
    reworded.afterwards.retold retelling alike]

end Rewording

namespace Client

/-- Two requests take the same course: they end with the same status and value or the same failure,
the same was sent, paused and noted, and the client counted the same. -/
structure SameCourse (made other : Except Failure Answer × Client × Channel) : Prop where
  outcome : made.1.map (fun answer => (answer.status, answer.value)) =
    other.1.map (fun answer => (answer.status, answer.value))
  client : made.2.1 = other.2.1
  requests : made.2.2.requests = other.2.2.requests
  pauses : made.2.2.pauses = other.2.2.pauses
  journal : made.2.2.journal = other.2.2.journal

namespace SameCourse

variable {made other third : Except Failure Answer × Client × Channel}

theorem symm (same : SameCourse made other) : SameCourse other made :=
  ⟨same.outcome.symm, same.client.symm, same.requests.symm, same.pauses.symm, same.journal.symm⟩

theorem trans (same : SameCourse made other) (further : SameCourse other third) :
    SameCourse made third :=
  ⟨same.outcome.trans further.outcome, same.client.trans further.client,
    same.requests.trans further.requests, same.pauses.trans further.pauses,
    same.journal.trans further.journal⟩

end SameCourse

theorem sameCourse_retold (client : Client) (path : String) (params : List (String × Json))
    (channel : Channel) (retelling : Retelling) :
    SameCourse (client.get path params channel)
      (client.get path params (channel.retold retelling)) := by
  rw [client.get_retold]
  obtain ⟨answer, after, later⟩ := client.get path params channel
  cases answer <;> exact ⟨rfl, rfl, rfl, rfl, rfl⟩

def essence (headers : List (String × String)) : List (String × String) :=
  match askedText headers with
  | none => []
  | some text => [("Retry-After", text)]

theorem wantedPause_essence (headers : List (String × String)) :
    wantedPause (essence headers) = wantedPause headers := by
  rw [wantedPause_eq headers]
  unfold essence
  cases asked : askedText headers with
  | none => rfl
  | some text =>
      have said : text ≠ "" := by
        rintro rfl
        unfold askedText at asked
        rcases Option.or_eq_some_iff.mp asked with first | ⟨_, second⟩
        · exact absurd (Option.filter_eq_some_iff.mp first).2 (by decide)
        · exact absurd (Option.filter_eq_some_iff.mp second).2 (by decide)
      rw [wantedPause_eq]
      change (((some text).filter (· ≠ "")).or _).bind _ = _
      rw [filter_said said]
      rfl

end Client

def Client.known (headers : List (String × String)) : List (String × String) :=
  headers.filter (·.1 ∈ Client.pauseNames)

theorem Client.header?_known (headers : List (String × String)) {name : String}
    (known : name ∈ pauseNames) : header? (Client.known headers) name = header? headers name := by
  have only (header : String × String) : (decide (header.1 ∈ pauseNames) = true ∧
      decide (header.1 = name) = true) ↔ header.1 = name := by
    rw [decide_eq_true_eq, decide_eq_true_eq, and_iff_right_iff_imp]
    rintro rfl
    exact known
  unfold header? Client.known
  rw [← List.filter_reverse, List.find?_filter]
  simp only [only]

namespace Retelling

/-- Every response with one header at most, which says for how long to pause. -/
def essential : Retelling := ⟨Client.essence, true, Client.wantedPause_essence⟩

def known : Retelling where
  headers := Client.known
  wishes := true
  pause headers := by
    rw [Client.wantedPause_eq, Client.wantedPause_eq]
    unfold Client.askedText
    rw [Client.header?_known headers (by decide), Client.header?_known headers (by decide)]

end Retelling

namespace Client

/-- Headers in another case of letters, with a known name for the pause in both or in neither. -/
def PlainlyRecased (headers others : List (String × String)) : Prop :=
  Recased headers others ∧ (AsksPlainly headers ↔ AsksPlainly others)

/-- A request takes the same course when names of headers are written in letters of another case, as
long as the name for pauses keeps a known spelling where it has one and gets none elsewhere. Headers
under other names are not looked at, whatever their small letters are. -/
theorem get_recased (client : Client) (path : String) (params : List (String × Json))
    (channel : Channel) :
    (∀ other, channel.Reworded PlainlyRecased other →
      SameCourse (client.get path params channel) (client.get path params other)) ∧
    SameCourse (client.get path params channel)
      (client.get path params (channel.retold .known)) := by
  constructor
  · intro other reworded
    have alike {headers others : List (String × String)} (recased : PlainlyRecased headers others) :
        essence headers = essence others := by
      unfold essence
      rw [recased.1.askedText recased.2]
    have first := client.sameCourse_retold path params channel .essential
    rw [reworded.retold .essential alike] at first
    exact first.trans (client.sameCourse_retold path params other .essential).symm
  · exact client.sameCourse_retold path params channel .known

def overload (headers : List (String × String)) : Channel :=
  .fresh [⟨.response (.prompt 503 "" headers), false, false⟩,
      ⟨.response (.prompt 200 "\x7b\x7d"), false, false⟩]
    (.failure (.transport .connection "script exhausted")) (.empty 0)

theorem overload_reworded {relates : List (String × String) → List (String × String) → Prop}
    {headers others : List (String × String)} (related : relates headers others)
    (none : relates [] []) : (overload headers).Reworded relates (overload others) where
  turns := .cons ⟨.response _ related, rfl, rfl⟩ (.cons ⟨.response _ none, rfl, rfl⟩ .nil)
  afterwards := .failure _
  past := rfl

/-- The pause is asked for in small letters instead of capitals, and a type is given in capitals. -/
theorem get_recased_retryAfter :
    let capital := overload [("Retry-After", "7"), ("content-type", "text/html")]
    let small := overload [("retry-after", "7"), ("Content-Type", "text/html")]
    capital.Reworded PlainlyRecased small ∧
      SameCourse (Pager.plain.client.get "/projects/" [] capital)
        (Pager.plain.client.get "/projects/" [] small) ∧
      (Pager.plain.client.get "/projects/" [] small).2.2.pauses = #[.ofQuotient false 7 1] := by
  intro capital small
  have reworded : capital.Reworded PlainlyRecased small := by
    refine overload_reworded ⟨⟨?_, ?_, ?_⟩, iff_of_true ?_ ?_⟩ ⟨⟨rfl, nofun, nofun⟩, Iff.rfl⟩
    · decide
    · unfold AreClear
      decide
    · unfold AreClear
      decide
    · exact ⟨_, List.mem_cons_self, by decide⟩
    · exact ⟨_, List.mem_cons_self, by decide⟩
  refine ⟨reworded, (get_recased Pager.plain.client "/projects/" [] capital).1 small reworded, ?_⟩
  decide +kernel

/-- A pause that is asked for in capitals only is overlooked. -/
theorem capitals_overlooked : ¬∀ (client : Client) (path : String) (params : List (String × Json))
    (channel other : Channel), channel.Reworded Recased other →
      SameCourse (client.get path params channel) (client.get path params other) := by
  intro same
  have reworded : (overload [("Retry-After", "7")]).Reworded Recased
      (overload [("RETRY-AFTER", "7")]) := by
    refine overload_reworded ⟨?_, ?_, ?_⟩ ⟨rfl, nofun, nofun⟩
    · decide
    · unfold AreClear
      decide
    · unfold AreClear
      decide
  have pauses := (same Pager.plain.client "/projects/" [] _ _ reworded).pauses
  have capital : (Pager.plain.client.get "/projects/" []
      (overload [("Retry-After", "7")])).2.2.pauses = #[.ofQuotient false 7 1] := by decide +kernel
  have other : (Pager.plain.client.get "/projects/" []
      (overload [("RETRY-AFTER", "7")])).2.2.pauses = #[.ofQuotient false 1 1] := by decide +kernel
  rw [capital, other] at pauses
  exact absurd pauses (by decide +kernel)

end Client

end ProjectScan
