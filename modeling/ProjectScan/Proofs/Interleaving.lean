import Mathlib.Data.List.Induction
import Mathlib.Logic.Function.Basic
import ProjectScan.Proofs.Traversal

/-!
Several iterators over one pager, advanced in any order. Every iterator keeps its own place in the
listing. The count of pages is the pager's: it is set back whenever an iterator begins and goes up with
every page, whichever iterator it is for. So what holds of a traversal alone holds of an iterator as
long as no other one begins or brings a page.
-/

namespace ProjectScan

/-- A page is due: the first one, for which the count of pages is set back, or the one after a page that
says there are more. -/
inductive Cursor.Due (pager : Pager) : Cursor → (taken : Nat) → (counting : Pager) → Prop
  | first : Due pager .fresh 0 pager.restarted
  | next (taken : Nat) : Due pager (.within [] taken true) taken pager

def Cursor.isFresh : Cursor → Bool
  | .fresh => true
  | _ => false

namespace Pager

def turning? (pager : Pager) (taken : Nat) (channel : Channel) : Option Fetch :=
  if pager.maxPages ≤ pager.pagesFetched then none
  else
    let (answer, _, later) := pager.client.get listingPath (pager.pageParams taken) channel
    some ⟨pager.pagesFetched + 1, taken, later.requests.size - channel.requests.size, answer⟩

def fetch? (pager : Pager) (cursor : Cursor) (channel : Channel) : Option Fetch :=
  match cursor with
  | .fresh => pager.restarted.turning? 0 channel
  | .within [] taken true => pager.turning? taken channel
  | _ => none

structure Makes (pager : Pager) (fetch : Fetch) (channel : Channel) (client : Client)
    (later : Channel) : Prop where
  allowed : pager.pagesFetched < pager.maxPages
  number : fetch.number = pager.pagesFetched + 1
  got : ∃ journal, pager.client.get listingPath (pager.pageParams fetch.skip) channel =
    (fetch.answer, client, { later with journal := journal })
  attempts : later.requests.size = channel.requests.size + fetch.attempts

/-- The steps of an iterator: it is at its end; it gives a project of its page; or a page is due, and
then as many as allowed were fetched, or the page is fetched without or with success. -/
inductive Moves (pager : Pager) (channel : Channel) :
    Cursor → Option Fetch → Step × Cursor × Pager × Channel → Prop
  | finished : Moves pager channel .finished none (.done, .finished, pager, channel)
  | last (taken : Nat) :
      Moves pager channel (.within [] taken false) none (.done, .finished, pager, channel)
  | gives (project : Project) (pending : List Project) (taken : Nat) (more : Bool) :
      Moves pager channel (.within (project :: pending) taken more) none
        (.project project, .within pending (taken + 1) more, pager, channel)
  | limited {cursor : Cursor} {taken : Nat} {counting : Pager} (due : cursor.Due pager taken counting)
      (reached : counting.maxPages ≤ counting.pagesFetched) :
      Moves pager channel cursor none
        (.failed (.pageLimit counting.maxPages), .finished, counting, channel)
  | fails {cursor : Cursor} {counting : Pager} {fetch : Fetch} {failure : Failure} {client : Client}
      {later : Channel} (due : cursor.Due pager fetch.skip counting)
      (makes : counting.Makes fetch channel client later) (failed : fetch.result = .error failure) :
      Moves pager channel cursor (some fetch)
        (.failed failure, .finished, { counting with client }, later)
  | turns {cursor : Cursor} {counting : Pager} {fetch : Fetch} {page : Page} {client : Client}
      {later : Channel} (due : cursor.Due pager fetch.skip counting)
      (makes : counting.Makes fetch channel client later) (found : fetch.result = .ok page) :
      Moves pager channel cursor (some fetch)
        ((stepInto page fetch.skip).1, (stepInto page fetch.skip).2,
          { counting with client, pagesFetched := counting.pagesFetched + 1 }, later)

theorem stepInto_cases (page : Page) (taken : Nat) :
    stepInto page taken = (.done, .finished) ∨ ∃ project pending,
      stepInto page taken = (.project project, .within pending (taken + 1) page.more) := by
  unfold stepInto
  cases page.projects with
  | nil => exact .inl rfl
  | cons project pending => exact .inr ⟨project, pending, rfl⟩

variable (pager : Pager) (channel : Channel)

theorem stepOver_moves {cursor : Cursor} {taken : Nat} {counting : Pager}
    (due : cursor.Due pager taken counting) :
    Moves pager channel cursor (counting.turning? taken channel) (counting.stepOver taken channel) := by
  rcases Nat.lt_or_ge counting.pagesFetched counting.maxPages with allowed | reached
  · obtain ⟨count, _, sent⟩ :=
      counting.client.get_requests channel listingPath (counting.pageParams taken)
    cases got : counting.client.get listingPath (counting.pageParams taken) channel with
    | mk answer rest =>
        obtain ⟨client, later⟩ := rest
        rw [got] at sent
        have sizes := congrArg List.length sent
        simp only [Array.length_toList, List.length_append, List.length_replicate] at sizes
        let fetch : Fetch :=
          ⟨counting.pagesFetched + 1, taken, later.requests.size - channel.requests.size, answer⟩
        have made : counting.turning? taken channel = some fetch := by
          unfold turning?
          rw [if_neg (Nat.not_le_of_lt allowed), got]
        obtain ⟨journal, turned⟩ := counting.turnPage_of_get taken
          (later.requests.size - channel.requests.size) allowed got
        change counting.turnPage taken channel = (fetch.result,
          counting.turnedBy fetch.result client, { later with journal := journal }) at turned
        have makes : counting.Makes fetch channel client { later with journal := journal } :=
          ⟨allowed, rfl, ⟨later.journal, got⟩, by dsimp only [fetch]; omega⟩
        rw [made]
        unfold stepOver
        cases found : fetch.result with
        | error failure =>
            rw [turned, found]
            exact .fails due makes found
        | ok page =>
            rw [turned, found]
            exact .turns due makes found
  · have none : counting.turning? taken channel = none := by
      unfold turning?
      rw [if_pos reached]
    rw [none]
    unfold stepOver
    rw [turnPage_limit reached]
    exact .limited due reached

theorem next_moves (cursor : Cursor) :
    Moves pager channel cursor (pager.fetch? cursor channel) (pager.next cursor channel) := by
  cases cursor with
  | fresh => exact stepOver_moves pager channel .first
  | finished => exact .finished
  | within pending taken more =>
      cases pending with
      | cons project pending => exact .gives project pending taken more
      | nil =>
          cases more with
          | true => exact stepOver_moves pager channel (.next taken)
          | false => exact .last taken

end Pager

/-- A step of one of several iterators: whether it is its first one, the fetch that it made, and what it
brought. -/
structure Advance where
  who : Nat
  begins : Bool
  fetch? : Option Fetch
  step : Step

namespace Advance

def brings (advance : Advance) : Bool :=
  match advance.fetch? with
  | some fetch => fetch.result.isOk
  | none => false

def gives (advance : Advance) : Bool :=
  match advance.step with
  | .project _ => true
  | _ => false

def failure? (advance : Advance) : Option Failure :=
  match advance.step with
  | .failed failure => some failure
  | _ => none

/-- The pages that were fetched since the last time an iterator began. -/
def counted (trace : List Advance) : Nat :=
  trace.foldl (fun count advance => (if advance.begins then 0 else count) + advance.brings.toNat) 0

def sofar (advance : Advance) (before : List Advance) : Nat :=
  if advance.begins then 0 else counted before

theorem counted_concat (before : List Advance) (advance : Advance) :
    counted (before ++ [advance]) = advance.sofar before + advance.brings.toNat := by
  unfold counted
  rw [List.foldl_append]
  rfl

def stepsOf (what : Advance → Bool) (who : Nat) (trace : List Advance) : Nat :=
  trace.countP fun advance => advance.who == who && what advance

def fetchesOf (who : Nat) (trace : List Advance) : Nat := stepsOf (·.fetch?.isSome) who trace

def pagesOf (who : Nat) (trace : List Advance) : Nat := stepsOf brings who trace

def givenBy (who : Nat) (trace : List Advance) : Nat := stepsOf gives who trace

section Counts

variable (what : Advance → Bool) {who : Nat} (before : List Advance) {advance : Advance}

theorem stepsOf_own (own : advance.who = who) :
    stepsOf what who (before ++ [advance]) = stepsOf what who before + (what advance).toNat := by
  unfold stepsOf
  rw [List.countP_append, List.countP_singleton, own, beq_self_eq_true, Bool.true_and]
  cases what advance <;> rfl

theorem stepsOf_other (other : advance.who ≠ who) :
    stepsOf what who (before ++ [advance]) = stepsOf what who before := by
  unfold stepsOf
  rw [List.countP_append, List.countP_singleton, beq_eq_false_iff_ne.mpr other, Bool.false_and]
  rfl

theorem stepsOf_of_absent (absent : ∀ advance ∈ before, advance.who ≠ who) :
    stepsOf what who before = 0 := by
  unfold stepsOf
  rw [List.countP_eq_zero]
  intro advance member
  rw [beq_eq_false_iff_ne.mpr (absent advance member), Bool.false_and]
  exact Bool.false_ne_true

end Counts

/-- The fetch that a step makes after the steps before it. The count of pages is that of all iterators,
the number of projects to skip is the iterator's own. -/
structure Fetches (maxPages : Nat) (before : List Advance) (advance : Advance) (fetch : Fetch) :
    Prop where
  allowed : advance.sofar before < maxPages
  number : fetch.number = advance.sofar before + 1
  skip : fetch.skip = givenBy advance.who before
  steady : fetchesOf advance.who before = pagesOf advance.who before

structure Follows (maxPages : Nat) (before : List Advance) (advance : Advance) : Prop where
  begins : advance.begins = true ↔ ∀ earlier ∈ before, earlier.who ≠ advance.who
  fetch : ∀ fetch, advance.fetch? = some fetch → advance.Fetches maxPages before fetch
  failed : ∀ failure, advance.failure? = some failure →
    advance.fetch? = none ∧ failure = .pageLimit maxPages ∧ advance.sofar before = maxPages ∨
    ∃ fetch, advance.fetch? = some fetch ∧ fetch.result = .error failure

def Orderly (maxPages : Nat) (trace : List Advance) : Prop :=
  ∀ before advance after, trace = before ++ advance :: after → advance.Follows maxPages before

/-- The bounds and the counts that an iterator reports are those of its own fetches. -/
structure CountsItself (maxPages who : Nat) (trace : List Advance) : Prop where
  fetches : fetchesOf who trace ≤ maxPages
  limited : ∀ before advance after limit, trace = before ++ advance :: after →
    advance.who = who → advance.failure? = some (.pageLimit limit) → pagesOf who before = maxPages
  failed : ∀ before advance after failure, trace = before ++ advance :: after →
    advance.who = who → advance.failure? = some failure →
    ∀ page, failure.page? = some page → page = (pagesOf who before : Int) + 1

/-- Since the iterator took its first step, no other one began or brought a page. -/
def Calm (who : Nat) (trace : List Advance) : Prop :=
  ∀ before advance after, trace = before ++ advance :: after → advance.who ≠ who →
    (∃ own ∈ before, own.who = who) → advance.begins = false ∧ advance.brings = false

/-- Between the first and the last step of the iterator, no other one begins or brings a page. -/
def Undisturbed (who : Nat) (trace : List Advance) : Prop :=
  ∀ before advance after, trace = before ++ advance :: after → advance.who = who → Calm who before

end Advance

/-! ### Iterators -/

/-- The iterators of a pager with what they did so far, the oldest step first. -/
structure Iterators where
  cursors : Nat → Cursor
  pager : Pager
  channel : Channel
  trace : List Advance

namespace Iterators

def start (pager : Pager) (channel : Channel) : Iterators := ⟨fun _ => .fresh, pager, channel, []⟩

def advance (iterators : Iterators) (who : Nat) : Advance :=
  let cursor := iterators.cursors who
  ⟨who, cursor.isFresh, iterators.pager.fetch? cursor iterators.channel,
    (iterators.pager.next cursor iterators.channel).1⟩

def advanced (iterators : Iterators) (who : Nat) : Iterators :=
  let (_, after, pager, channel) :=
    iterators.pager.next (iterators.cursors who) iterators.channel
  { cursors := Function.update iterators.cursors who after
    pager, channel
    trace := iterators.trace ++ [iterators.advance who] }

def run (iterators : Iterators) (schedule : List Nat) : Iterators :=
  schedule.foldl advanced iterators

theorem run_concat (iterators : Iterators) (schedule : List Nat) (who : Nat) :
    iterators.run (schedule ++ [who]) = (iterators.run schedule).advanced who := by
  unfold run
  rw [List.foldl_append]
  rfl

theorem trace_concat (iterators : Iterators) (schedule : List Nat) (who : Nat) :
    (iterators.run (schedule ++ [who])).trace =
      (iterators.run schedule).trace ++ [(iterators.run schedule).advance who] := by
  rw [run_concat]
  rfl

structure Tracks (start : Pager) (channel : Channel) (iterators : Iterators) : Prop where
  pager : iterators.pager =
    { start with client := iterators.pager.client, pagesFetched := iterators.pager.pagesFetched }
  counted : iterators.trace ≠ [] →
    iterators.pager.pagesFetched = Advance.counted iterators.trace
  bounded : Advance.counted iterators.trace ≤ start.maxPages
  made : Fetch.Made start start.client channel (iterators.trace.filterMap (·.fetch?))
    iterators.pager.client iterators.channel
  fresh : ∀ who, (iterators.cursors who).isFresh = true ↔
    ∀ advance ∈ iterators.trace, advance.who ≠ who
  within : ∀ who pending taken more, iterators.cursors who = .within pending taken more →
    taken = Advance.givenBy who iterators.trace
  steady : ∀ who, iterators.cursors who ≠ .finished →
    Advance.fetchesOf who iterators.trace = Advance.pagesOf who iterators.trace
  orderly : Advance.Orderly start.maxPages iterators.trace

theorem Tracks.start (pager : Pager) (channel : Channel) :
    Tracks pager channel (start pager channel) where
  pager := rfl
  counted := fun some => absurd rfl some
  bounded := Nat.zero_le _
  made := .none
  fresh := fun who => iff_of_true rfl nofun
  within := nofun
  steady := fun who _ => rfl
  orderly := by
    intro before advance after shape
    cases before <;> cases shape

section Steps

variable {start : Pager} {channel : Channel} {iterators : Iterators}
  (tracks : iterators.Tracks start channel)
include tracks

theorem Tracks.concat (advance : Advance) {after : Cursor} {pager : Pager} {later : Channel}
    (begun : after.isFresh = false)
    (same : pager = { start with
      client := pager.client
      pagesFetched := advance.sofar iterators.trace + advance.brings.toNat })
    (bounded : advance.sofar iterators.trace + advance.brings.toNat ≤ start.maxPages)
    (made : Fetch.Made start start.client channel
      ((iterators.trace ++ [advance]).filterMap (·.fetch?)) pager.client later)
    (within : ∀ pending taken more, after = .within pending taken more →
      taken = Advance.givenBy advance.who iterators.trace + advance.gives.toNat)
    (steady : after ≠ .finished → Advance.fetchesOf advance.who (iterators.trace ++ [advance]) =
      Advance.pagesOf advance.who (iterators.trace ++ [advance]))
    (follows : advance.Follows start.maxPages iterators.trace) :
    Tracks start channel ⟨Function.update iterators.cursors advance.who after, pager, later,
      iterators.trace ++ [advance]⟩ where
  pager := by
    have count := congrArg Pager.pagesFetched same
    dsimp only at count ⊢
    rw [count]
    exact same
  counted := by
    intro _
    rw [Advance.counted_concat]
    exact congrArg Pager.pagesFetched same
  bounded := by
    rw [Advance.counted_concat]
    exact bounded
  made := made
  fresh := by
    intro who
    dsimp only
    by_cases own : who = advance.who
    · subst own
      rw [Function.update_self, begun]
      refine iff_of_false Bool.false_ne_true fun absent => ?_
      exact absent advance List.mem_concat_self rfl
    · rw [Function.update_of_ne own, tracks.fresh who, List.forall_mem_append]
      refine (and_iff_left ?_).symm
      rw [List.forall_mem_singleton]
      exact Ne.symm own
  within := by
    intro who pending taken more here
    dsimp only at here ⊢
    by_cases own : who = advance.who
    · subst own
      rw [Function.update_self] at here
      unfold Advance.givenBy
      rw [Advance.stepsOf_own _ _ rfl]
      exact within pending taken more here
    · rw [Function.update_of_ne own] at here
      unfold Advance.givenBy
      rw [Advance.stepsOf_other _ _ (Ne.symm own)]
      exact tracks.within who pending taken more here
  steady := by
    intro who going
    dsimp only at going ⊢
    by_cases own : who = advance.who
    · subst own
      rw [Function.update_self] at going
      exact steady going
    · rw [Function.update_of_ne own] at going
      unfold Advance.fetchesOf Advance.pagesOf
      rw [Advance.stepsOf_other _ _ (Ne.symm own), Advance.stepsOf_other _ _ (Ne.symm own)]
      exact tracks.steady who going
  orderly := by
    intro before other rest shape
    rcases List.eq_nil_or_concat rest with rfl | ⟨rest, last, rfl⟩
    · obtain ⟨rfl, same⟩ := List.append_inj' shape rfl
      cases same
      exact follows
    · rw [List.concat_eq_append, ← List.cons_append, ← List.append_assoc] at shape
      exact tracks.orderly before other rest (List.append_inj' shape rfl).1

theorem Tracks.begun {who : Nat} (begun : (iterators.cursors who).isFresh = false)
    {advance : Advance} (begins : advance.begins = false) :
    iterators.pager = { start with
      client := iterators.pager.client
      pagesFetched := advance.sofar iterators.trace } := by
  have count : advance.sofar iterators.trace = Advance.counted iterators.trace := by
    unfold Advance.sofar
    rw [begins]
    rfl
  have some : iterators.trace ≠ [] := by
    intro empty
    have fresh := (tracks.fresh who).mpr (by rw [empty]; nofun)
    rw [begun] at fresh
    cases fresh
  rw [count, ← tracks.counted some]
  exact tracks.pager

theorem Tracks.due {who taken : Nat} {counting : Pager}
    (due : (iterators.cursors who).Due iterators.pager taken counting) {advance : Advance}
    (begins : advance.begins = (iterators.cursors who).isFresh) :
    counting = { start with
      client := iterators.pager.client
      pagesFetched := advance.sofar iterators.trace } ∧
    taken = Advance.givenBy who iterators.trace ∧ iterators.cursors who ≠ .finished := by
  generalize here : iterators.cursors who = cursor at due begins
  cases due with
  | first =>
      have none : advance.sofar iterators.trace = 0 := if_pos begins
      have absent := (tracks.fresh who).mp (by rw [here]; rfl)
      have same := tracks.pager
      refine ⟨?_, (Advance.stepsOf_of_absent _ _ absent).symm, nofun⟩
      rw [none]
      unfold Pager.restarted
      rw [same]
  | next =>
      have begun : (iterators.cursors who).isFresh = false := by
        rw [here]
        rfl
      exact ⟨tracks.begun begun begins, tracks.within who [] taken true here, nofun⟩

theorem Tracks.sofar_le (advance : Advance) : advance.sofar iterators.trace ≤ start.maxPages := by
  unfold Advance.sofar
  split
  · exact Nat.zero_le _
  · exact tracks.bounded

theorem Tracks.made_of_none {advance : Advance} (none : advance.fetch? = none) :
    Fetch.Made start start.client channel
      ((iterators.trace ++ [advance]).filterMap (·.fetch?)) iterators.pager.client
      iterators.channel := by
  rw [List.filterMap_append, List.filterMap_cons_none none, List.filterMap_nil, List.append_nil]
  exact tracks.made

theorem Tracks.quiet {who : Nat} {step : Step} {after : Cursor}
    (begun : (iterators.cursors who).isFresh = false)
    (steady : after ≠ .finished → iterators.cursors who ≠ .finished) (going : after.isFresh = false)
    (within : ∀ pending taken more, after = .within pending taken more →
      taken = Advance.givenBy who iterators.trace + (Advance.gives ⟨who, false, none, step⟩).toNat)
    (plain : (Advance.mk who false none step).failure? = none) :
    Tracks start channel ⟨Function.update iterators.cursors who after, iterators.pager,
      iterators.channel, iterators.trace ++ [⟨who, false, none, step⟩]⟩ := by
  let advance : Advance := ⟨who, false, none, step⟩
  have same := tracks.begun begun (show advance.begins = false from rfl)
  refine tracks.concat advance going same (tracks.sofar_le advance) (tracks.made_of_none rfl)
    within ?_ ?_
  · intro more
    unfold Advance.fetchesOf Advance.pagesOf
    rw [Advance.stepsOf_own _ _ rfl, Advance.stepsOf_own _ _ rfl]
    exact tracks.steady who (steady more)
  · refine ⟨?_, nofun, ?_⟩
    · rw [← tracks.fresh who, begun]
    · intro failure failed
      rw [plain] at failed
      cases failed

theorem Tracks.fetching {who : Nat} {counting : Pager} {fetch : Fetch} {client : Client}
    {later : Channel} (due : (iterators.cursors who).Due iterators.pager fetch.skip counting)
    (makes : counting.Makes fetch iterators.channel client later) {advance : Advance}
    (own : advance.who = who) (begins : advance.begins = (iterators.cursors who).isFresh)
    (fetched : advance.fetch? = some fetch) :
    advance.Fetches start.maxPages iterators.trace fetch ∧ Fetch.Made start start.client channel
      ((iterators.trace ++ [advance]).filterMap (·.fetch?)) client later := by
  obtain ⟨rfl, skip, going⟩ := tracks.due due begins
  obtain ⟨allowed, number, ⟨journal, got⟩, attempts⟩ := makes
  subst own
  refine ⟨⟨allowed, number, skip, tracks.steady advance.who going⟩, ?_⟩
  rw [List.filterMap_append, List.filterMap_cons_some fetched]
  exact (Fetch.Made.fetched fetch tracks.made got attempts).noted later.journal

theorem Tracks.advanced (who : Nat) : Tracks start channel (iterators.advanced who) := by
  have moves := iterators.pager.next_moves iterators.channel (iterators.cursors who)
  unfold Iterators.advanced Iterators.advance
  dsimp only
  generalize iterators.pager.fetch? (iterators.cursors who) iterators.channel = fetch? at moves ⊢
  generalize iterators.pager.next (iterators.cursors who) iterators.channel = next at moves ⊢
  generalize here : iterators.cursors who = cursor at moves ⊢
  cases moves with
  | finished =>
      refine tracks.quiet (by rw [here]; rfl) (fun going => absurd rfl going) rfl nofun rfl
  | last taken =>
      refine tracks.quiet (by rw [here]; rfl) (fun going => absurd rfl going) rfl nofun rfl
  | gives project pending taken more =>
      refine tracks.quiet (by rw [here]; rfl) (fun _ => by rw [here]; nofun) rfl ?_ rfl
      intro _ _ _ same
      cases same
      rw [← tracks.within who _ _ _ here]
      rfl
  | limited due reached =>
      subst here
      let advance : Advance :=
        ⟨who, (iterators.cursors who).isFresh, none, .failed (.pageLimit start.maxPages)⟩
      obtain ⟨rfl, -, going⟩ := tracks.due due (show advance.begins = _ from rfl)
      have full : advance.sofar iterators.trace = start.maxPages :=
        Nat.le_antisymm (tracks.sofar_le advance) reached
      refine tracks.concat advance rfl rfl (tracks.sofar_le advance) (tracks.made_of_none rfl) nofun
        (fun going => absurd rfl going) ⟨tracks.fresh who, nofun, ?_⟩
      intro failure failed
      cases failed
      exact .inl ⟨rfl, rfl, full⟩
  | @fails _ counting fetch failure client later due makes failed =>
      subst here
      let advance : Advance :=
        ⟨who, (iterators.cursors who).isFresh, some fetch, .failed failure⟩
      have brings : advance.brings = false := congrArg Except.isOk failed
      obtain ⟨next, made⟩ :=
        tracks.fetching due makes (show advance.who = who from rfl) rfl rfl
      obtain ⟨rfl, -⟩ := tracks.due due (show advance.begins = _ from rfl)
      refine tracks.concat advance rfl ?_ ?_ made nofun (fun going => absurd rfl going) ?_
      · rw [brings]
        rfl
      · rw [brings]
        exact tracks.sofar_le advance
      · refine ⟨tracks.fresh who, ?_, ?_⟩
        · intro other same
          cases same
          exact next
        · intro other same
          cases same
          exact .inr ⟨fetch, rfl, failed⟩
  | @turns _ counting fetch page client later due makes found =>
      subst here
      let advance : Advance :=
        ⟨who, (iterators.cursors who).isFresh, some fetch, (Pager.stepInto page fetch.skip).1⟩
      have brings : advance.brings = true := congrArg Except.isOk found
      obtain ⟨next, made⟩ :=
        tracks.fetching due makes (show advance.who = who from rfl) rfl rfl
      obtain ⟨rfl, -⟩ := tracks.due due (show advance.begins = _ from rfl)
      have entered : (Pager.stepInto page fetch.skip).2.isFresh = false ∧
          advance.failure? = none ∧
          ∀ pending taken more, (Pager.stepInto page fetch.skip).2 = .within pending taken more →
            taken = fetch.skip + advance.gives.toNat := by
        unfold Advance.gives Advance.failure?
        dsimp only [advance]
        rcases Pager.stepInto_cases page fetch.skip with entered | ⟨project, pending, entered⟩
        · rw [entered]
          exact ⟨rfl, rfl, nofun⟩
        · rw [entered]
          refine ⟨rfl, rfl, fun _ _ _ same => ?_⟩
          cases same
          rfl
      refine tracks.concat advance entered.1 ?_ ?_ made ?_ ?_ ?_
      · rw [brings]
        rfl
      · rw [brings]
        exact next.allowed
      · rw [← next.skip]
        exact entered.2.2
      · intro _
        unfold Advance.fetchesOf Advance.pagesOf
        rw [Advance.stepsOf_own _ _ rfl, Advance.stepsOf_own _ _ rfl, brings]
        exact congrArg Nat.succ next.steady
      · refine ⟨tracks.fresh who, ?_, ?_⟩
        · intro other same
          cases same
          exact next
        · intro failure failed
          rw [entered.2.1] at failed
          cases failed

end Steps

theorem run_tracks (pager : Pager) (channel : Channel) (schedule : List Nat) :
    Tracks pager channel ((start pager channel).run schedule) := by
  induction schedule using List.reverseRecOn with
  | nil => exact .start pager channel
  | append_singleton schedule who ih =>
      rw [run_concat]
      exact ih.advanced who

end Iterators

/-! ### Undisturbed iterators -/

namespace Advance

variable {who maxPages : Nat} {trace : List Advance}

theorem Calm.initial {before rest : List Advance} (calm : Calm who (before ++ rest)) :
    Calm who before := by
  rintro earlier advance after rfl
  exact calm earlier advance (after ++ rest) (by rw [List.append_assoc, List.cons_append])

theorem Undisturbed.initial {before rest : List Advance}
    (undisturbed : Undisturbed who (before ++ rest)) : Undisturbed who before := by
  rintro earlier advance after rfl
  exact undisturbed earlier advance (after ++ rest) (by rw [List.append_assoc, List.cons_append])

theorem Orderly.initial {before rest : List Advance} (orderly : Orderly maxPages (before ++ rest)) :
    Orderly maxPages before := by
  rintro earlier advance after rfl
  exact orderly earlier advance (after ++ rest) (by rw [List.append_assoc, List.cons_append])

theorem Orderly.last {before : List Advance} {advance : Advance}
    (orderly : Orderly maxPages (before ++ [advance])) : advance.Follows maxPages before :=
  orderly before advance [] rfl

theorem sofar_eq_pagesOf {before : List Advance} {advance : Advance}
    (follows : advance.Follows maxPages before)
    (counts : (∃ own ∈ before, own.who = advance.who) →
      counted before = pagesOf advance.who before) :
    advance.sofar before = pagesOf advance.who before := by
  unfold sofar
  by_cases begins : advance.begins = true
  · rw [if_pos begins]
    exact (stepsOf_of_absent _ _ (follows.begins.mp begins)).symm
  · rw [if_neg begins]
    apply counts
    by_contra absent
    exact begins (follows.begins.mpr fun earlier member own => absent ⟨earlier, member, own⟩)

theorem counted_eq_pagesOf (orderly : Orderly maxPages trace) (calm : Calm who trace)
    (begun : ∃ own ∈ trace, own.who = who) : counted trace = pagesOf who trace := by
  induction trace using List.reverseRecOn with
  | nil =>
      obtain ⟨own, member, _⟩ := begun
      exact absurd member List.not_mem_nil
  | append_singleton before advance ih =>
      rw [counted_concat]
      unfold pagesOf
      by_cases own : advance.who = who
      · subst own
        rw [stepsOf_own _ _ rfl, sofar_eq_pagesOf orderly.last (ih orderly.initial calm.initial)]
        rfl
      · have earlier : ∃ own ∈ before, own.who = who := by
          obtain ⟨first, member, same⟩ := begun
          rcases List.mem_append.mp member with among | last
          · exact ⟨first, among, same⟩
          · rw [List.mem_singleton.mp last] at same
            exact absurd same own
        obtain ⟨begins, brings⟩ := calm before advance [] rfl own earlier
        rw [stepsOf_other _ _ own, brings, Bool.toNat_false, Nat.add_zero, sofar, begins,
          if_neg Bool.false_ne_true]
        exact ih orderly.initial calm.initial earlier

theorem fetchesOf_le (orderly : Orderly maxPages trace) (undisturbed : Undisturbed who trace) :
    fetchesOf who trace ≤ maxPages := by
  induction trace using List.reverseRecOn with
  | nil => exact Nat.zero_le _
  | append_singleton before advance ih =>
      have sofar := ih orderly.initial undisturbed.initial
      unfold fetchesOf at sofar ⊢
      by_cases own : advance.who = who
      · subst own
        rw [stepsOf_own _ _ rfl]
        cases fetched : advance.fetch? with
        | none => exact sofar
        | some fetch =>
            have fetches := orderly.last.fetch fetch fetched
            have calm := undisturbed before advance [] rfl rfl
            have allowed := fetches.allowed
            rw [sofar_eq_pagesOf orderly.last (counted_eq_pagesOf orderly.initial calm),
              ← fetches.steady] at allowed
            exact allowed
      · rw [stepsOf_other _ _ own]
        exact sofar

end Advance

namespace Iterators

open Advance (Undisturbed CountsItself fetchesOf pagesOf givenBy)

theorem run_who (iterators : Iterators) (schedule : List Nat) :
    (iterators.run schedule).trace.map (·.who) = iterators.trace.map (·.who) ++ schedule := by
  induction schedule using List.reverseRecOn with
  | nil => exact (List.append_nil _).symm
  | append_singleton schedule who ih =>
      rw [trace_concat, List.map_append, ih, List.append_assoc]
      rfl

section Law

variable {start : Pager} {channel : Channel} {iterators : Iterators}
  (tracks : iterators.Tracks start channel) {before after : List Advance} {advance : Advance}
  (shape : iterators.trace = before ++ advance :: after)
include tracks shape

theorem Tracks.reports (foreign : channel.IsForeign) :
    (∀ limit : Int, advance.failure? = some (.pageLimit limit) →
      limit = start.maxPages ∧ advance.sofar before = start.maxPages) ∧
    ∀ failure, advance.failure? = some failure → ∀ page, failure.page? = some page →
      page = (advance.sofar before : Int) + 1 := by
  have follows := tracks.orderly before advance after shape
  have named (fetch : Fetch) (fetched : advance.fetch? = some fetch) (failure : Failure)
      (failed : fetch.result = .error failure) :
      (failure.page? = none ∨ failure.page? = some (fetch.number : Int)) ∧
        ∀ limit, failure ≠ .pageLimit limit := by
    refine Fetch.page?_of_result ((tracks.made.isPlain foreign).1 fetch ?_) failed
    rw [shape, List.mem_filterMap]
    exact ⟨advance, List.mem_append_right _ List.mem_cons_self, fetched⟩
  constructor
  · intro limit failed
    rcases follows.failed _ failed with ⟨_, same, full⟩ | ⟨fetch, fetched, result⟩
    · exact ⟨Failure.pageLimit.inj same, full⟩
    · exact absurd rfl ((named fetch fetched _ result).2 limit)
  · intro failure failed page names
    rcases follows.failed _ failed with ⟨_, rfl, _⟩ | ⟨fetch, fetched, result⟩
    · cases names
    · rcases (named fetch fetched _ result).1 with unnamed | own
      · rw [unnamed] at names
        cases names
      · rw [own, (follows.fetch fetch fetched).number] at names
        exact (Option.some.inj names).symm

theorem Tracks.sofar_eq_pagesOf (undisturbed : Undisturbed advance.who iterators.trace) :
    advance.sofar before = pagesOf advance.who before := by
  have calm := undisturbed before advance after shape rfl
  have orderly := tracks.orderly
  rw [shape] at orderly
  exact Advance.sofar_eq_pagesOf (orderly before advance after rfl)
    (Advance.counted_eq_pagesOf orderly.initial calm)

end Law

theorem Tracks.countsItself {start : Pager} {channel : Channel} {iterators : Iterators}
    (tracks : iterators.Tracks start channel) (foreign : channel.IsForeign) {who : Nat}
    (undisturbed : Undisturbed who iterators.trace) :
    CountsItself start.maxPages who iterators.trace where
  fetches := Advance.fetchesOf_le tracks.orderly undisturbed
  limited := by
    rintro before advance after limit shape rfl failed
    rw [← tracks.sofar_eq_pagesOf shape undisturbed]
    exact ((tracks.reports shape foreign).1 limit failed).2
  failed := by
    rintro before advance after failure shape rfl failed
    rw [← tracks.sofar_eq_pagesOf shape undisturbed]
    exact (tracks.reports shape foreign).2 failure failed

/-- Steps of iterators over one pager, in any order. A page is only fetched while fewer pages than
allowed were fetched by all of them since one last began; it is numbered by this count and skips what
its own iterator gave. The limit is reported when the count has reached it, and a failure names the page
after those counted. For an undisturbed iterator the count is that of its own pages. -/
theorem run_follows (pager : Pager) (channel : Channel) (foreign : channel.IsForeign)
    (schedule : List Nat) :
    let iterators := (start pager channel).run schedule
    iterators.trace.map (·.who) = schedule ∧
      iterators.channel.requests.toList = channel.requests.toList ++
        Fetch.requests pager (iterators.trace.filterMap (·.fetch?)) ∧
      (∀ before advance after, iterators.trace = before ++ advance :: after →
        (∀ fetch, advance.fetch? = some fetch → advance.sofar before < pager.maxPages ∧
          fetch.number = advance.sofar before + 1 ∧ fetch.skip = givenBy advance.who before) ∧
        (∀ limit : Int, advance.failure? = some (.pageLimit limit) →
          limit = pager.maxPages ∧ advance.sofar before = pager.maxPages) ∧
        ∀ failure, advance.failure? = some failure → ∀ page, failure.page? = some page →
          page = (advance.sofar before : Int) + 1) ∧
      ∀ who, Undisturbed who iterators.trace →
        CountsItself pager.maxPages who iterators.trace := by
  have tracks := run_tracks pager channel schedule
  refine ⟨run_who _ schedule, tracks.made.requests, ?_, ?_⟩
  · intro before advance after shape
    refine ⟨?_, tracks.reports shape foreign⟩
    intro fetch fetched
    have fetches := (tracks.orderly before advance after shape).fetch fetch fetched
    exact ⟨fetches.allowed, fetches.number, fetches.skip⟩
  · intro who undisturbed
    exact tracks.countsItself foreign undisturbed

theorem run_follows_twoPages :
    let iterators := (start .plain .twoPages).run [0, 1, 0]
    let fetches := iterators.trace.filterMap (·.fetch?)
    Channel.twoPages.IsForeign ∧
      fetches.map (fun fetch => (fetch.number, fetch.skip)) = [(1, 0), (1, 0), (2, 1)] ∧
      iterators.channel.requests.toList = Fetch.requests .plain fetches := by
  refine ⟨Channel.twoPages_isForeign, by decide +kernel, ?_⟩
  exact (run_follows .plain .twoPages Channel.twoPages_isForeign [0, 1, 0]).2.1

def threePages : Channel :=
  let reply (status : Int) : Reply :=
    .response (.prompt status "\x7b\"a\": \x7b\"_more_projects\": true\x7d\x7d")
  .fresh (List.replicate 3 ⟨reply 200, false, false⟩) (reply 404) (.empty Log.Level.info)

def shared (schedule : List Nat) : Iterators := (start .plain threePages).run schedule

/-- An iterator that begins lets another one fetch more pages than allowed and misnumber the one that
fails; one that turns a page lets the other reach the limit too early. -/
theorem counts_not_own :
    (¬∀ pager channel schedule who,
      fetchesOf who ((start pager channel).run schedule).trace ≤ pager.maxPages) ∧
    (¬∀ pager channel schedule before advance after limit,
      ((start pager channel).run schedule).trace = before ++ advance :: after →
        advance.failure? = some (.pageLimit limit) →
        pagesOf advance.who before = pager.maxPages) ∧
    ¬∀ pager channel schedule before advance after failure,
      ((start pager channel).run schedule).trace = before ++ advance :: after →
        advance.failure? = some failure → ∀ page, failure.page? = some page →
        page = (pagesOf advance.who before : Int) + 1 := by
  refine ⟨?_, ?_, ?_⟩
  · intro bounded
    have fetches : fetchesOf 0 (shared [0, 0, 1, 0]).trace = 3 := by decide +kernel
    have few : fetchesOf 0 (shared [0, 0, 1, 0]).trace ≤ 2 :=
      bounded .plain threePages [0, 0, 1, 0] 0
    rw [fetches] at few
    exact absurd few (by decide)
  · intro limited
    have early : ((shared [0, 1, 0]).advance 1).failure? = some (.pageLimit 2) := by decide +kernel
    have pages : pagesOf 1 (shared [0, 1, 0]).trace = 1 := by decide +kernel
    have full : _ = 2 := limited .plain threePages _ _ _ [] 2 (trace_concat _ [0, 1, 0] 1) early
    exact absurd (pages.symm.trans full) (by decide)
  · intro numbered
    have third : ((shared [0, 0, 1]).advance 0).failure? = some (.pageStatus 2 404) := by
      decide +kernel
    have pages : pagesOf 0 (shared [0, 0, 1]).trace = 2 := by decide +kernel
    have number := numbered .plain threePages _ _ _ [] _ (trace_concat _ [0, 0, 1] 0) third 2 rfl
    change (2 : Int) = (pagesOf 0 (shared [0, 0, 1]).trace : Int) + 1 at number
    rw [pages] at number
    exact absurd number (by decide)

end Iterators

end ProjectScan
