import Mathlib.Data.Nat.Find
import ProjectScan.Proofs.Connection
import ProjectScan.Proofs.DistinctKeys
import ProjectScan.Proofs.Outcome

/-!
What a scan tells its observer twice. The projects of a page are keys of one object, so no page names
a project twice. Pages are told one after the other and are not held against each other: a name is told
once for each of the pages that the scan told and that lists it.
-/

namespace ProjectScan

namespace Client

variable {client : Client} {request : Request} {attempt : Nat} {channel : Channel} {answer : Answer}

theorem lastAttempt_hasDistinctKeys
    (answers : (client.lastAttempt request attempt channel).1 = .ok answer) :
    answer.value.HasDistinctKeys := by
  unfold lastAttempt at answers
  dsimp only at answers
  split at answers
  · cases answers
    exact Response.value_hasDistinctKeys _
  · cases answers
  · cases answers

theorem earlierAttempt_hasDistinctKeys
    (answers : (client.earlierAttempt request attempt channel).1 = some (.ok answer)) :
    answer.value.HasDistinctKeys := by
  unfold earlierAttempt at answers
  dsimp only at answers
  split at answers
  · split at answers
    · split at answers
      · cases answers
      · split at answers <;> cases answers
    · cases answers
      exact Response.value_hasDistinctKeys _
  · split at answers
    · cases answers
    · split at answers <;> cases answers
  · cases answers

theorem attempts_hasDistinctKeys {left : Nat}
    (answers : (client.attempts request attempt channel left).1 = .ok answer) :
    answer.value.HasDistinctKeys := by
  induction left generalizing client attempt channel with
  | zero => exact lastAttempt_hasDistinctKeys answers
  | succ left ih =>
      unfold attempts at answers
      split at answers
      · rename_i found _ _ ended
        dsimp only at answers
        subst answers
        exact earlierAttempt_hasDistinctKeys (congrArg Prod.fst ended)
      · exact ih answers

theorem get_hasDistinctKeys {path : String} {params : List (String × Json)}
    (answers : (client.get path params channel).1 = .ok answer) :
    answer.value.HasDistinctKeys := by
  unfold get at answers
  split at answers
  · cases answers
  · exact attempts_hasDistinctKeys answers

end Client

namespace Fetch

def names (fetch : Fetch) : List String := fetch.projects.map (·.name)

theorem names_listed (fetches : List Fetch) :
    (listed fetches).map (·.name) = (fetches.map names).flatten := by
  unfold listed names
  rw [List.map_flatMap, List.flatMap_def]

theorem names_nodup {fetch : Fetch}
    (distinct : ∀ answer, fetch.answer = .ok answer → answer.value.HasDistinctKeys) :
    fetch.names.Nodup := by
  unfold names
  cases found : fetch.result with
  | error failure =>
      rw [projects_of_error found]
      exact List.nodup_nil
  | ok page =>
      rw [projects_of_ok found]
      obtain ⟨answer, answered, entries, value, listed⟩ : ∃ answer, fetch.answer = .ok answer ∧
          ∃ entries, answer.value = .object entries ∧
            List.Forall₂ Page.Lists entries page.projects := by
        unfold result at found
        split at found
        · cases found
        · rename_i answer answered
          obtain ⟨_, entries, value, listed, _⟩ := Page.ofAnswer_eq_ok_iff.mp found
          exact ⟨answer, answered, entries, value, listed⟩
      have keys := distinct answer answered
      rw [value] at keys
      rw [Page.names_eq_keys listed]
      exact keys

theorem Made.names_nodup {pager : Pager} {client after : Client} {channel later : Channel}
    {fetches : List Fetch} (made : Made pager client channel fetches after later) :
    ∀ fetch ∈ fetches, fetch.names.Nodup := by
  induction made with
  | none => nofun
  | noted journal _ ih => exact ih
  | @fetched fetches before after earlier later fetch made got counted ih =>
      intro other member
      rcases List.mem_append.mp member with among | new
      · exact ih other among
      · rw [List.mem_singleton.mp new]
        apply Fetch.names_nodup
        intro answer answered
        apply Client.get_hasDistinctKeys
        rw [got]
        exact answered

/-- What is told of pages: the names of all pages but the last, and the first names of the last. -/
inductive Told : List Fetch → List (List String) → Prop
  | none : Told [] []
  | last {fetches : List Fetch} {fetch : Fetch} {names : List String}
      (starts : names <+: fetch.names) : Told (fetches ++ [fetch]) (fetches.map Fetch.names ++ [names])

theorem exists_told {fetches : List Fetch} {projects : List Project}
    (initial : projects <+: listed fetches)
    (enough : (listed fetches.dropLast).length ≤ projects.length) :
    ∃ pages, Told fetches pages ∧ projects.map (·.name) = pages.flatten := by
  rcases List.eq_nil_or_concat fetches with rfl | ⟨before, fetch, rfl⟩
  · rw [List.prefix_nil.mp initial]
    exact ⟨[], .none, rfl⟩
  · rw [List.concat_eq_append] at initial enough ⊢
    rw [List.dropLast_concat] at enough
    rw [listed_append, listed_singleton] at initial
    obtain ⟨told, rfl⟩ := List.prefix_of_prefix_length_le (List.prefix_append _ _) initial enough
    have starts := (List.prefix_append_right_inj _).mp initial
    refine ⟨_, .last (starts.map (·.name)), ?_⟩
    rw [List.map_append, List.flatten_append, names_listed, List.flatten_singleton]

theorem Told.nodup {fetches : List Fetch} {pages : List (List String)} (told : Told fetches pages)
    (distinct : ∀ fetch ∈ fetches, fetch.names.Nodup) : ∀ page ∈ pages, page.Nodup := by
  cases told with
  | none => nofun
  | @last before fetch names starts =>
      intro page member
      rcases List.mem_append.mp member with whole | isLast
      · obtain ⟨earlier, among, rfl⟩ := List.mem_map.mp whole
        exact distinct earlier (List.mem_append_left _ among)
      · rw [List.mem_singleton.mp isLast]
        exact starts.sublist.nodup (distinct fetch List.mem_concat_self)

end Fetch

theorem count_flatten {pages : List (List String)} (distinct : ∀ page ∈ pages, page.Nodup)
    (name : String) : pages.flatten.count name = pages.countP (name ∈ ·) := by
  induction pages with
  | nil => rfl
  | cons page rest ih =>
      rw [List.forall_mem_cons] at distinct
      rw [List.flatten_cons, List.count_append, ih distinct.2, List.countP_cons,
        distinct.1.count, Nat.add_comm]
      simp only [decide_eq_true_eq]

namespace Navigator

open Observer (Answer)

variable {σ : Type} (navigator : Navigator) (observer : Observer σ) (watched : Bool) (state : σ)
  (channel : Channel)

theorem exists_firstHaltsAt_or (answers : List Answer) (set : Nat → Bool) :
    (∃ index answer, answers[index]? = some answer ∧ FirstHaltsAt answers watched set index) ∨
      ∀ index, ¬HaltsAt answers watched set index := by
  by_cases halts : ∃ index, HaltsAt answers watched set index
  · left
    have first := Nat.find_spec halts
    have atFirst := first
    obtain ⟨answer, here, _⟩ := atFirst
    exact ⟨Nat.find halts, answer, here, first, fun earlier before => Nat.find_min halts before⟩
  · exact .inr (not_exists.mp halts)

/-- A scan with a pager tells its observer of the projects of the pages it fetched, of those of the last
page perhaps not of all. -/
theorem names_of_pager {pager : Pager}
    (ready : navigator.prepared (navigator.scanSink observer) = .ok pager) :
    ∃ fetches projects client later, Progress pager channel fetches client later ∧
      (navigator.discover observer watched state channel).channel.requests = later.requests ∧
      (navigator.calls observer watched state channel).map (·.name) = projects.map (·.name) ∧
      projects <+: Fetch.listed fetches ∧
      (Fetch.listed fetches.dropLast).length ≤ projects.length := by
  have sameSink : navigator.scanSink observer.recorded = navigator.scanSink observer := rfl
  obtain ⟨opened, closed, _, after, last⟩ :=
    navigator.discover_of_pager observer.recorded watched (state, []) channel ready
  obtain ⟨_, _, requests⟩ := navigator.discover_recorded observer watched state channel
  unfold calls
  rw [← requests, after, last]
  generalize navigator.blueprint pager.client.endpoint pager.client.authenticated = blueprint
  have names (projects : List Project) :
      (observer.recorded.after blueprint (state, []) projects).2.map (·.name) =
        projects.map (·.name) := by
    rw [Observer.after_recorded, List.nil_append, List.map_map]
    rfl
  rcases exists_firstHaltsAt_or watched
      (observer.recorded.answers blueprint (state, []) (pager.drain .fresh channel).state)
      (fun earlier => (pager.run .fresh channel (earlier + 1)).channel.cancelled || false) with
    ⟨index, answer, here, halts⟩ | never
  · obtain ⟨noted, uttered, walked⟩ := walk_firstHalts blueprint observer.recorded
      (navigator.scanSink observer) watched 0 (state, []) pager channel opened false rfl here halts
    have within := (List.getElem?_eq_some_iff.mp here).1
    rw [Observer.length_answers] at within
    obtain ⟨fetches, progress, before, taken⟩ :=
      Pager.run_fetches pager channel (Nat.succ_pos index) within
    refine ⟨fetches, (pager.drain .fresh channel).state.take (index + 1), _, _, progress, ?_, ?_, ?_, ?_⟩
    · rw [sameSink, walked]
      rfl
    · rw [sameSink, walked]
      exact names _
    · rw [← taken]
      exact List.take_prefix _ _
    · rw [List.length_take]
      omega
  · obtain ⟨noted, uttered, walked⟩ := walk_never_halts blueprint observer.recorded
      (navigator.scanSink observer) watched 0 (state, []) pager channel opened false rfl never
    obtain ⟨fetches, step, ended, _, listed⟩ := Pager.drain_ended pager channel
    refine ⟨fetches, (pager.drain .fresh channel).state, _, _, ended.progress, ?_, ?_, ?_, ?_⟩
    · rw [sameSink, walked]
      rfl
    · rw [sameSink, walked]
      exact names _
    · exact ⟨[], (List.append_nil _).trans listed.symm⟩
    · obtain ⟨others, shape⟩ := List.dropLast_prefix fetches
      rw [← listed]
      nth_rewrite 2 [← shape]
      rw [Fetch.listed_append, List.length_append]
      exact Nat.le_add_right _ _

/-- What a scan tells its observer are the names of the pages that it fetches, of which none is told
twice for one page. Pages are not held against each other: a name is told as often as there are pages
told that list it. -/
theorem calls_repeat :
    let names := (navigator.calls observer watched state channel).map (·.name)
    ∃ pager fetches client later pages,
      (navigator.prepared (navigator.scanSink observer) = .ok pager ∨ fetches = []) ∧
      Progress pager channel fetches client later ∧
      (navigator.discover observer watched state channel).channel.requests = later.requests ∧
      Fetch.Told fetches pages ∧ names = pages.flatten ∧ (∀ page ∈ pages, page.Nodup) ∧
      (∀ name, names.count name = pages.countP (name ∈ ·)) ∧
      (names.Nodup ↔ pages.Pairwise List.Disjoint) := by
  dsimp only
  cases ready : navigator.prepared (navigator.scanSink observer) with
  | error failed =>
      obtain ⟨failure, client⟩ := failed
      obtain ⟨noted, scan⟩ := navigator.discover_of_error observer watched state channel ready
      have none := navigator.calls_of_error observer watched state channel ready
      rw [none, scan]
      exact ⟨Pager.plain, [], _, channel, [], .inr rfl, .none _ _, rfl, .none, rfl, nofun,
        fun _ => rfl, iff_of_true List.nodup_nil List.Pairwise.nil⟩
  | ok pager =>
      obtain ⟨fetches, projects, client, later, progress, requests, told, initial, enough⟩ :=
        navigator.names_of_pager observer watched state channel ready
      obtain ⟨pages, cut, whole⟩ := Fetch.exists_told initial enough
      have distinct := cut.nodup progress.made.names_nodup
      rw [told, whole]
      refine ⟨pager, fetches, client, later, pages, .inl rfl, progress, requests, cut, rfl, distinct,
        count_flatten distinct, ?_⟩
      rw [List.nodup_flatten, and_iff_right distinct]

def repeatedPage : Channel :=
  let page (body : String) : Turn := ⟨.response (.prompt 200 body), false, false⟩
  .fresh [page "\x7b\"a\": \x7b\"_more_projects\": true\x7d\x7d", page "\x7b\"a\": \x7b\x7d\x7d"]
    (.failure (.transport .connection "script exhausted")) (.empty Log.Level.info)

/-- A project that two pages list is submitted twice. -/
theorem names_not_distinct : ¬∀ (navigator : Navigator) (observer : Observer Nat) (watched : Bool)
    (state : Nat) (channel : Channel),
    ((navigator.calls observer watched state channel).map (·.name)).Nodup := by
  intro distinct
  have names : (plain.calls untilSecond true 0 repeatedPage).map (·.name) = ["a", "a"] := by
    decide +kernel
  have apart := distinct plain untilSecond true 0 repeatedPage
  rw [names] at apart
  exact absurd apart (by decide)

end Navigator

end ProjectScan
