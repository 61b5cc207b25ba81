import ProjectScan.Proofs.GuardedBodies
import ProjectScan.Proofs.Lifecycle

/-!
How a fetch of a page ends. It brings a page exactly if the answer is a success with an object all of
whose entries are projects, and fails the page otherwise, unless the links of an entry are true or a
number.
-/

namespace ProjectScan

/-- The answer is a success whose value is the object of these entries. -/
def Client.Holds (answer : Except Failure Client.Answer) (entries : List (String × Json)) : Prop :=
  ∃ reply, answer = .ok reply ∧ (200 ≤ reply.status ∧ reply.status < 300) ∧
    reply.value = .object entries

theorem Client.Holds.unique {answer : Except Failure Client.Answer}
    {entries others : List (String × Json)} (first : Client.Holds answer entries)
    (second : Client.Holds answer others) : entries = others := by
  obtain ⟨reply, rfl, _, value⟩ := first
  obtain ⟨_, same, _, again⟩ := second
  cases same
  exact Json.object.inj (value.symm.trans again)

theorem Client.Holds.isSettled {answer : Except Failure Client.Answer}
    {entries : List (String × Json)} (holds : Client.Holds answer entries) :
    Client.isSettled answer = true := by
  obtain ⟨reply, rfl, _⟩ := holds
  rfl

namespace Pager

theorem fetchPage_of_not_holds (pager : Pager) (page skip : Int) {channel later : Channel}
    {answer : Except Failure Client.Answer} {after : Client}
    (got : pager.client.get listingPath (pager.pageParams skip) channel = (answer, after, later))
    (settled : Client.isSettled answer = true) (none : ∀ entries, ¬ Client.Holds answer entries) :
    ∃ failure, (pager.fetchPage page skip channel).1 = .error failure ∧
      failure.name = "PageFetchFailure" ∧ failure.page? = some page := by
  unfold fetchPage
  rw [got]
  cases answer with
  | error failure =>
      cases failure with
      | clientClosed => exact ⟨_, rfl, rfl, rfl⟩
      | exhausted url attempts last => exact ⟨_, rfl, rfl, rfl⟩
      | _ => cases settled
  | ok reply =>
      dsimp only
      unfold Page.ofAnswer
      by_cases failed : reply.status < 200 ∨ 300 ≤ reply.status
      · rw [if_pos failed]
        exact ⟨_, rfl, rfl, rfl⟩
      · rw [if_neg failed]
        have success : 200 ≤ reply.status ∧ reply.status < 300 := by omega
        cases value : reply.value with
        | object entries => exact absurd ⟨reply, rfl, success, value⟩ (none entries)
        | _ => exact ⟨_, rfl, rfl, rfl⟩

theorem fetchPage_of_holds (pager : Pager) (page skip : Int) {channel later : Channel}
    {answer : Except Failure Client.Answer} {after : Client} {entries : List (String × Json)}
    (got : pager.client.get listingPath (pager.pageParams skip) channel = (answer, after, later))
    (holds : Client.Holds answer entries) : ∃ status,
    (pager.fetchPage page skip channel).1 = Page.ofEntries page status entries := by
  obtain ⟨reply, rfl, success, value⟩ := holds
  unfold fetchPage
  rw [got]
  dsimp only
  unfold Page.ofAnswer
  rw [if_neg (by omega), value]
  exact ⟨_, rfl⟩

/-- If the client answers or fails in a way of its own, a fetch brings a page exactly if the answer
is a success with an object all of whose entries are projects. If it brings none, the failure is that
of the page which was asked for, unless the first entry that is no project is an object with a bare
value as its links. -/
theorem fetchPage_contained (pager : Pager) (page skip : Int) {channel later : Channel}
    {answer : Except Failure Client.Answer} {after : Client}
    (got : pager.client.get listingPath (pager.pageParams skip) channel = (answer, after, later))
    (settled : Client.isSettled answer = true) :
    let result := (pager.fetchPage page skip channel).1
    ((∃ listing, result = .ok listing) ↔
        ∃ entries, Client.Holds answer entries ∧ ∀ entry ∈ entries, Page.IsProject entry) ∧
      (∀ kind, result = .error (.misfit (.notIterable kind)) ↔
        ∃ entries, Client.Holds answer entries ∧ Page.StraysAtLinks entries kind) ∧
      ∀ failure, result = .error failure → Page.IsFailure page failure := by
  by_cases holds : ∃ entries, Client.Holds answer entries
  · obtain ⟨entries, holds⟩ := holds
    -- The answer fixes the entries, so that what is said of some is said of these.
    have held {property : List (String × Json) → Prop} :
        (∃ others, Client.Holds answer others ∧ property others) ↔ property entries :=
      ⟨fun ⟨_, also, has⟩ => also.unique holds ▸ has, fun has => ⟨entries, holds, has⟩⟩
    obtain ⟨status, read⟩ := pager.fetchPage_of_holds page skip got holds
    dsimp only
    rw [read]
    refine ⟨?_, fun kind => ?_, fun failure => Page.isFailure_of_ofEntries⟩
    · rw [held, Page.exists_ofEntries_iff]
    · rw [held, Page.ofEntries_eq_misfit_iff]
  · obtain ⟨failure, failed, named, own⟩ := pager.fetchPage_of_not_holds page skip got settled
      fun entries held => holds ⟨entries, held⟩
    dsimp only
    rw [failed]
    refine ⟨iff_of_false nofun ?_, fun kind => iff_of_false ?_ ?_, ?_⟩
    · rintro ⟨entries, held, _⟩
      exact holds ⟨entries, held⟩
    · intro misfit
      cases misfit
      cases own
    · rintro ⟨entries, held, _⟩
      exact holds ⟨entries, held⟩
    · intro _ same
      cases same
      exact .inr ⟨named, own⟩

theorem holds_of_decoded (pager : Pager) (isOpen : pager.client.closed = false) (skip : Int)
    (channel : Channel) {response : Response} {entries : List (String × Json)}
    (meets : channel.reply 0 = .response response)
    (success : 200 ≤ response.status ∧ response.status < 300)
    (decoded : response.decoded = .ok (.object entries)) :
    Client.Holds (pager.client.get listingPath (pager.pageParams skip) channel).1 entries := by
  have steady : Client.isTransient response.status = false := by
    unfold Client.isTransient
    rw [decide_eq_false (by omega), decide_eq_false (by omega)]
    rfl
  obtain ⟨_, got⟩ := pager.client.get_steady meets isOpen (Response.readable_of_decoded decoded)
    steady listingPath (pager.pageParams skip)
  rw [got]
  exact ⟨_, rfl, success, Response.value_of_decoded decoded⟩

/-- The first page of two is fetched. -/
theorem fetchPage_contained_twoPages :
    ∃ listing, (Pager.plain.fetchPage 1 0 .twoPages).1 = .ok listing := by
  have decoded : (Response.prompt 200 "\x7b\"a\": \x7b\"_more_projects\": true\x7d\x7d").decoded =
      .ok (.object [("a", .object [("_more_projects", .bool true)])]) :=
    Response.decoded_of_written (by decide +kernel) (.single (.single (.bool true))) (by decide +kernel)
  have holds := Pager.plain.holds_of_decoded rfl 0 .twoPages rfl (by decide) decoded
  obtain ⟨brings, _⟩ := fetchPage_contained Pager.plain 1 0 rfl holds.isSettled
  refine brings.mpr ⟨_, holds, fun entry member => ?_⟩
  rw [List.mem_singleton.mp member]
  exact ⟨_, rfl, rfl⟩

def numberedLinks : Channel :=
  .fresh [.once (.response (.prompt 200 "\x7b\"a\": \x7b\"web_links\": 5\x7d\x7d"))]
    (.failure (.transport .connection "script exhausted")) (.empty 0)

/-- All entries of the page are objects, and yet the fetch fails, with a failure of no page. -/
theorem fetchPage_not_contained :
    let answer := (Pager.plain.client.get listingPath (Pager.plain.pageParams 0) numberedLinks).1
    Client.Holds answer [("a", .object [("web_links", .whole 5)])] ∧
      (Pager.plain.fetchPage 1 0 numberedLinks).1 = .error (.misfit (.notIterable .whole)) := by
  have decoded : (Response.prompt 200 "\x7b\"a\": \x7b\"web_links\": 5\x7d\x7d").decoded =
      .ok (.object [("a", .object [("web_links", .whole 5)])]) :=
    Response.decoded_of_written (by decide +kernel) (.single (.single (.whole (by decide))))
      (by decide +kernel)
  have holds := Pager.plain.holds_of_decoded rfl 0 numberedLinks rfl (by decide) decoded
  obtain ⟨status, read⟩ := Pager.plain.fetchPage_of_holds 1 0 rfl holds
  exact ⟨holds, read⟩

end Pager

end ProjectScan
