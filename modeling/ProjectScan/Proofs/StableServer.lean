import Mathlib.Data.List.Forall2
import Mathlib.Data.Nat.Find
import ProjectScan.Proofs.GuardedBodies
import ProjectScan.Proofs.Replies
import ProjectScan.Proofs.Walk

/-!
Listings of a server whose projects do not change. The server answers a request for the projects
after the first ones with as many of them as it likes, and says whether others are left. A
traversal then yields every project once and in order, or those of as many chunks as it may fetch.
-/

namespace ProjectScan

def Project.HasLinks (info : List (String × Json)) : Prop :=
  let links := (Json.field? info "web_links").getD .null
  links.isTrue = false ∨ ∃ items, links = .list items

theorem Project.ofInfo_of_hasLinks (name : String) {info : List (String × Json)}
    (links : HasLinks info) : ∃ project, ofInfo name info = .ok project := by
  unfold ofInfo
  dsimp only
  rcases links with empty | ⟨items, list⟩
  · simp only [empty]
    exact ⟨_, rfl⟩
  · simp only [list]
    split <;> exact ⟨_, rfl⟩

theorem Project.ofInfo_congr {name : String} {info served : List (String × Json)}
    (same : ∀ key, key ≠ Page.moreField → Json.field? served key = Json.field? info key) :
    ofInfo name served = ofInfo name info := by
  unfold ofInfo
  simp only [same "id" (by decide), same "state" (by decide), same "description" (by decide),
    same "web_links" (by decide)]

namespace Fetch

theorem requests_append (pager : Pager) (first second : List Fetch) :
    requests pager (first ++ second) = requests pager first ++ requests pager second :=
  List.flatMap_append

def request (pager : Pager) (fetch : Fetch) : Request :=
  pager.client.requestFor Pager.listingPath (pager.pageParams fetch.skip)

theorem requests_of_once {pager : Pager} {fetches : List Fetch}
    (once : ∀ fetch ∈ fetches, fetch.attempts = 1) :
    requests pager fetches = fetches.map (request pager) := by
  induction fetches with
  | nil => rfl
  | cons fetch rest ih =>
      have own := once fetch List.mem_cons_self
      have others := ih fun other member => once other (List.mem_cons_of_mem fetch member)
      rw [List.map_cons, ← others]
      unfold requests
      rw [List.flatMap_cons, own]
      rfl

/-- The fetch is sent once and answered by the response that its request meets. -/
def Met (fetch : Fetch) (reply : Reply) : Prop :=
  fetch.attempts = 1 ∧ ∃ response, reply = .response response ∧
    fetch.answer = .ok ⟨response.status, response.value, response.headers⟩

/-- When every request meets a response that is read and not worth another attempt, the requests and
the fetches go side by side. -/
theorem Made.met {pager : Pager} {client after : Client} {channel later : Channel}
    {fetches : List Fetch} (made : Made pager client channel fetches after later)
    (isOpen : client.closed = false)
    (steady : ∀ index request, (Fetch.requests pager fetches)[index]? = some request →
      ∃ response, channel.reply index = .response response ∧ response.excess? = .none ∧
        Client.isTransient response.status = false) :
    (∀ (index : Nat) fetch, fetches[index]? = some fetch → Met fetch (channel.reply index)) ∧
      ∀ index, later.reply index = channel.reply (fetches.length + index) := by
  induction made with
  | none =>
      refine ⟨nofun, ?_⟩
      intro index
      rw [List.length_nil, Nat.zero_add]
  | noted journal _ ih => exact ih steady
  | @fetched fetches before after earlier later fetch made got counted ih =>
      have whole := Made.fetched fetch made got counted
      obtain ⟨met, moved⟩ := ih fun index request found => steady index request (by
        rw [requests_append, List.getElem?_append_left (List.getElem?_eq_some_iff.mp found).1]
        exact found)
      have once : ∀ fetch ∈ fetches, fetch.attempts = 1 := by
        intro other member
        obtain ⟨index, here⟩ := List.mem_iff_getElem?.mp member
        exact (met index other here).1
      have positive := whole.attempts_pos isOpen fetch List.mem_concat_self
      have length : (Fetch.requests pager fetches).length = fetches.length := by
        rw [requests_of_once once, List.length_map]
      have asked : (Fetch.requests pager (fetches ++ [fetch]))[fetches.length]? =
          some (fetch.request pager) := by
        rw [requests_append, List.getElem?_append_right (Nat.le_of_eq length), length, Nat.sub_self]
        unfold Fetch.requests
        rw [List.flatMap_singleton, List.getElem?_replicate_of_lt positive]
        rfl
      obtain ⟨response, replied, readable, isSteady⟩ := steady _ _ asked
      obtain ⟨noted, answered⟩ := before.get_steady ((moved 0).trans replied)
        (made.recounts.closed.trans isOpen) readable isSteady Pager.listingPath
        (pager.pageParams fetch.skip)
      rw [got] at answered
      simp only [Prod.mk.injEq] at answered
      obtain ⟨answer, _, sent⟩ := answered
      have own : fetch.attempts = 1 := by
        rw [sent, Channel.requests_overlaid, Channel.send_requests, Array.size_push] at counted
        omega
      constructor
      · intro index other found
        rcases cases_of_getElem?_concat found with earlier | ⟨rfl, rfl⟩
        · exact met index other earlier
        · exact ⟨own, response, replied, answer⟩
      · intro index
        rw [sent, Channel.reply_overlaid, Channel.reply_send, moved, List.length_append,
          List.length_singleton, Nat.add_assoc, Nat.add_comm 1]

end Fetch

/-! ### The server -/

/-- The projects of a server, and how many of them it sends in answer to the request with some
index and some number of projects to skip. -/
structure StableServer where
  entries : List (String × List (String × Json))
  distinct : (entries.map (·.1)).Nodup
  linked : ∀ entry ∈ entries, Project.HasLinks entry.2
  chunk : Nat → Nat → Nat
  chunk_pos : ∀ index skip, skip < entries.length → 0 < chunk index skip
  chunk_le : ∀ index skip, chunk index skip ≤ entries.length - skip

namespace StableServer

/-- The entry of an object is the server's, and may say besides that there are more. -/
def Serves (entry : String × List (String × Json)) (sent : String × Json) : Prop :=
  sent.1 = entry.1 ∧ ∃ info, sent.2 = .object info ∧
    ∀ key, key ≠ Page.moreField → Json.field? info key = Json.field? entry.2 key

variable (server : StableServer)

/-- The reply answers a request with the chunk after the projects that the request skips. -/
def Answers (index : Nat) (request : Request) (reply : Reply) : Prop :=
  ∀ skip : Nat, Json.field? request.params "S" = some (.whole skip) →
    ∃ response sent, reply = .response response ∧
      (200 ≤ response.status ∧ response.status < 300) ∧ response.value = .object sent ∧
      List.Forall₂ Serves ((server.entries.drop skip).take (server.chunk index skip)) sent ∧
      (sent.any Page.flags = true ↔ skip + server.chunk index skip < server.entries.length)

/-- Every request of a traversal is answered by the server. -/
def Lists (pager : Pager) (channel : Channel) : Prop :=
  ∀ index request,
    (pager.drain .fresh channel).channel.requests[channel.requests.size + index]? = some request →
      server.Answers index request (channel.reply index)

def offset (server : StableServer) : Nat → Nat
  | 0 => 0
  | index + 1 => server.offset index + server.chunk index (server.offset index)

theorem offset_le (index : Nat) : server.offset index ≤ server.entries.length := by
  induction index with
  | zero => exact Nat.zero_le _
  | succ index ih =>
      have bound := server.chunk_le index (server.offset index)
      unfold offset
      omega

theorem le_offset (index : Nat) : min index server.entries.length ≤ server.offset index := by
  induction index with
  | zero => exact Nat.min_le_left _ _
  | succ index ih =>
      have positive := server.chunk_pos index (server.offset index)
      unfold offset
      by_cases left : server.offset index < server.entries.length
      · have more := positive left
        omega
      · omega

theorem covers : ∃ count, 0 < count ∧ server.entries.length ≤ server.offset count := by
  refine ⟨server.entries.length + 1, Nat.succ_pos _, ?_⟩
  have all := server.le_offset (server.entries.length + 1)
  omega

/-- The number of chunks that hold all projects; without projects there is an empty one. -/
def chunks : Nat := Nat.find server.covers

theorem chunks_eq_iff {count : Nat} : server.chunks = count ↔
    (0 < count ∧ server.entries.length ≤ server.offset count) ∧
      ∀ fewer < count, ¬ (0 < fewer ∧ server.entries.length ≤ server.offset fewer) :=
  Nat.find_eq_iff server.covers

def readings (entries : List (String × List (String × Json))) : List (Except Failure Project) :=
  entries.map fun entry => Project.ofInfo entry.1 entry.2

theorem lists_of_serves {entries : List (String × List (String × Json))}
    {sent : List (String × Json)} (serves : List.Forall₂ Serves entries sent)
    (linked : ∀ entry ∈ entries, Project.HasLinks entry.2) :
    ∃ projects, List.Forall₂ Page.Lists sent projects ∧
      projects.map Except.ok = readings entries := by
  induction serves with
  | nil => exact ⟨[], .nil, rfl⟩
  | @cons entry own entries sent first _ ih =>
      obtain ⟨projects, listed, readAs⟩ :=
        ih fun other member => linked other (List.mem_cons_of_mem entry member)
      obtain ⟨name, info, isObject, same⟩ := first
      obtain ⟨project, read⟩ := Project.ofInfo_of_hasLinks entry.1
        (linked entry List.mem_cons_self)
      refine ⟨project :: projects, .cons ⟨info, isObject, ?_⟩ listed, ?_⟩
      · rw [name, Project.ofInfo_congr same, read]
      · rw [List.map_cons, readAs, ← read]
        rfl

variable {server} {pager : Pager} {reply : Reply} {fetch : Fetch}

theorem result_of_answers {index : Nat} (met : fetch.Met reply)
    (answers : server.Answers index (fetch.request pager) reply) :
    ∃ page, fetch.result = .ok page ∧
      page.projects.map Except.ok =
        readings ((server.entries.drop fetch.skip).take (server.chunk index fetch.skip)) ∧
      (page.more = true ↔
        fetch.skip + server.chunk index fetch.skip < server.entries.length) := by
  obtain ⟨_, response, rfl, answered⟩ := met
  have skips : Json.field? (fetch.request pager).params "S" = some (.whole fetch.skip) := rfl
  obtain ⟨own, sent, same, success, isObject, serves, more⟩ := answers fetch.skip skips
  cases same
  have linked : ∀ entry ∈ (server.entries.drop fetch.skip).take (server.chunk index fetch.skip),
      Project.HasLinks entry.2 := by
    intro entry member
    exact server.linked entry (List.mem_of_mem_drop (List.mem_of_mem_take member))
  obtain ⟨projects, listed, readAs⟩ := lists_of_serves serves linked
  refine ⟨⟨projects, sent.any Page.flags, Page.nonempty_of_flags listed⟩, ?_, readAs, more⟩
  unfold Fetch.result
  rw [answered]
  exact Page.ofAnswer_eq_ok_iff.mpr ⟨success, sent, isObject, listed, rfl⟩

theorem length_of_readings {projects : List Project} {count : Nat}
    (readAs : projects.map Except.ok = readings (server.entries.take (server.offset count))) :
    projects.length = server.offset count := by
  have length := congrArg List.length readAs
  unfold readings at length
  rw [List.length_map, List.length_map, List.length_take,
    Nat.min_eq_left (server.offset_le count)] at length
  exact length

theorem names_of_readings {projects : List Project}
    {entries : List (String × List (String × Json))}
    (readAs : projects.map Except.ok = readings entries) :
    projects.map (·.name) = entries.map (·.1) := by
  induction entries generalizing projects with
  | nil =>
      have none : projects = [] := List.map_eq_nil_iff.mp readAs
      rw [none]
      rfl
  | cons entry rest ih =>
      cases projects with
      | nil => cases readAs
      | cons project others =>
          obtain ⟨first, tail⟩ := List.cons.inj readAs
          rw [List.map_cons, List.map_cons, ih tail, Project.ofInfo_name first.symm]

section Fetches

variable {fetches : List Fetch} {channel : Channel}
  (answered : ∀ (index : Nat) fetch, fetches[index]? = some fetch →
    fetch.Met (channel.reply index) ∧
      server.Answers index (fetch.request pager) (channel.reply index))
  (placed : Fetch.Placed fetches)
include answered placed

theorem listed_take {count : Nat} (within : count ≤ fetches.length) :
    (Fetch.listed (fetches.take count)).map Except.ok =
      readings (server.entries.take (server.offset count)) := by
  -- What was listed so far tells how many projects the next fetch skips, and so which chunk it meets.
  induction count with
  | zero => rfl
  | succ count ih =>
      have before := ih (Nat.le_of_succ_le within)
      have found := List.getElem?_eq_getElem within
      generalize fetches[count] = fetch at found
      have skip : fetch.skip = server.offset count :=
        (placed count fetch found).2.trans (length_of_readings before)
      obtain ⟨met, answers⟩ := answered count fetch found
      obtain ⟨page, isPage, readAs, _⟩ := result_of_answers met answers
      rw [List.take_add_one, found, Option.toList_some, Fetch.listed_append, Fetch.listed_singleton,
        List.map_append, before, Fetch.projects_of_ok isPage, readAs, skip, offset, List.take_add]
      unfold readings
      rw [List.map_append]

theorem page_of_fetch {index : Nat} {fetch : Fetch} (found : fetches[index]? = some fetch) :
    (∃ page, fetch.result = .ok page) ∧
      (fetch.goesOn = true ↔ server.offset (index + 1) < server.entries.length) := by
  have within := (List.getElem?_eq_some_iff.mp found).1
  have before := listed_take answered placed (Nat.le_of_lt within)
  have skip := (placed index fetch found).2.trans (length_of_readings before)
  obtain ⟨met, answers⟩ := answered index fetch found
  obtain ⟨page, isPage, _, more⟩ := result_of_answers met answers
  refine ⟨⟨page, isPage⟩, ?_⟩
  rw [Fetch.goesOn_of_ok isPage, more, skip]
  rfl

theorem offset_lt_of_steady {early late : List Fetch} (parts : early ++ late = fetches)
    (steady : ∀ earlier ∈ early, earlier.goesOn = true) {count : Nat} (begun : 0 < count)
    (within : count ≤ early.length) : server.offset count < server.entries.length := by
  cases count with
  | zero => cases begun
  | succ index =>
      have found : fetches[index]? = some early[index] := by
        rw [← parts, List.getElem?_append_left within]
        exact List.getElem?_eq_getElem within
      exact (page_of_fetch answered placed found).2.mp (steady _ (List.getElem_mem within))

theorem chunks_of_ended {turned : Pager} {later : Channel} {step : Step}
    (ended : Ended pager channel fetches step turned later) :
    turned.pagesFetched = fetches.length ∧
      ((step = .done ∧ fetches.length = server.chunks ∧ server.chunks ≤ pager.maxPages) ∨
        (step = .failed (.pageLimit pager.maxPages) ∧ fetches.length = pager.maxPages ∧
          pager.maxPages < server.chunks)) := by
  cases ended with
  | @exhausted early fetch page _ _ progress same steady found last =>
      have counted := congrArg Pager.pagesFetched same
      have isLast := page_of_fetch answered placed List.getElem?_concat_length
      rw [Fetch.goesOn_of_ok found, last] at isLast
      have whole : server.chunks = early.length + 1 := by
        rw [chunks_eq_iff]
        refine ⟨⟨Nat.succ_pos _, ?_⟩, ?_⟩
        · have covered := isLast.2
          simp only [Bool.false_eq_true, false_iff] at covered
          exact Nat.le_of_not_lt covered
        · rintro fewer less ⟨begun, all⟩
          have left := offset_lt_of_steady answered placed rfl steady begun (Nat.le_of_lt_succ less)
          exact Nat.not_le_of_lt left all
      have bound := progress.bounded
      rw [List.length_append, List.length_singleton] at bound ⊢
      rw [whole]
      exact ⟨counted, .inl ⟨rfl, rfl, bound⟩⟩
  | limited progress same steady full =>
      refine ⟨congrArg Pager.pagesFetched same, .inr ⟨rfl, full, ?_⟩⟩
      obtain ⟨⟨begun, all⟩, _⟩ := server.chunks_eq_iff.mp rfl
      by_contra few
      rw [Nat.not_lt, ← full] at few
      have left := offset_lt_of_steady answered placed (List.append_nil _) steady begun few
      exact Nat.not_le_of_lt left all
  | failed progress same steady found =>
      obtain ⟨page, isPage⟩ := (page_of_fetch answered placed List.getElem?_concat_length).1
      rw [found] at isPage
      cases isPage

end Fetches

theorem answered_of_lists {pager : Pager} {channel later : Channel} {fetches : List Fetch}
    {client : Client} (made : Fetch.Made pager pager.client channel fetches client later)
    (isOpen : pager.client.closed = false)
    (lists : ∀ index request,
      later.requests[channel.requests.size + index]? = some request →
        server.Answers index request (channel.reply index))
    (index : Nat) (fetch : Fetch) (found : fetches[index]? = some fetch) :
    fetch.Met (channel.reply index) ∧
      server.Answers index (fetch.request pager) (channel.reply index) := by
  have asked {index : Nat} {request : Request}
      (found : (Fetch.requests pager fetches)[index]? = some request) :
      server.Answers index request (channel.reply index) := by
    refine lists index request ?_
    rw [← Array.getElem?_toList, made.requests, ← Array.length_toList,
      List.getElem?_append_right (Nat.le_add_right _ _), Nat.add_sub_cancel_left]
    exact found
  have steady : ∀ index request, (Fetch.requests pager fetches)[index]? = some request →
      ∃ response, channel.reply index = .response response ∧ response.excess? = none ∧
        Client.isTransient response.status = false := by
    intro index request found
    obtain ⟨other, _, member⟩ := List.mem_flatMap.mp (List.mem_of_getElem? found)
    have skips : Json.field? request.params "S" = some (.whole other.skip) := by
      rw [List.eq_of_mem_replicate member]
      rfl
    obtain ⟨response, _, meets, success, value, _⟩ := asked found other.skip skips
    refine ⟨response, meets, Response.readable_of_value (by rw [value]; nofun), ?_⟩
    unfold Client.isTransient
    rw [Bool.or_eq_false_iff]
    constructor <;> simp only [decide_eq_false_iff_not, Bool.and_eq_false_iff] <;> omega
  obtain ⟨met, _⟩ := made.met isOpen steady
  have once : ∀ fetch ∈ fetches, fetch.attempts = 1 := by
    intro other member
    obtain ⟨index, here⟩ := List.mem_iff_getElem?.mp member
    exact (met index other here).1
  refine ⟨met index fetch found, asked ?_⟩
  rw [Fetch.requests_of_once once, List.getElem?_map, found]
  rfl

/-- When a server sends as many entries as are wanted, the listing takes as many chunks as whole
pages cover it. -/
theorem chunks_of_regular (server : StableServer) {size : Nat} (positive : 0 < size)
    (regular : ∀ index skip, server.chunk index skip = min size (server.entries.length - skip)) :
    server.chunks = max 1 ((server.entries.length + size - 1) / size) := by
  have offset (index : Nat) : server.offset index = min (index * size) server.entries.length := by
    induction index with
    | zero =>
        rw [Nat.zero_mul, Nat.zero_min]
        rfl
    | succ index ih =>
        unfold StableServer.offset
        rw [regular, ih, Nat.succ_mul]
        omega
  have whole := Nat.div_mul_le_self (server.entries.length + size - 1) size
  have rest := Nat.lt_div_mul_add positive (a := server.entries.length + size - 1)
  generalize (server.entries.length + size - 1) / size = count at whole rest
  have enough : server.entries.length ≤ count * size := by omega
  rw [chunks_eq_iff]
  refine ⟨⟨?_, ?_⟩, ?_⟩
  · exact Nat.lt_of_lt_of_le Nat.one_pos (Nat.le_max_left 1 count)
  · rw [offset]
    have covered := Nat.mul_le_mul_right size (Nat.le_max_right 1 count)
    exact Nat.le_min.mpr ⟨Nat.le_trans enough covered, Nat.le_refl _⟩
  · rintro fewer less ⟨begun, all⟩
    rw [offset] at all
    have before : fewer < count := by omega
    have next := Nat.mul_le_mul_right size before
    rw [Nat.succ_mul] at next
    omega

/-- The law of stable listings. With enough pages a traversal yields every project of the server once
and in order, and else those of as many chunks as it may fetch. -/
theorem drain_lists (server : StableServer) (pager : Pager) (channel : Channel)
    (isOpen : pager.client.closed = false) (lists : server.Lists pager channel) :
    let traversal := pager.drain .fresh channel
    let fetched := min pager.maxPages server.chunks
    (traversal.state.map (·.name)).Nodup ∧
    traversal.channel.requests.size = channel.requests.size + fetched ∧
    traversal.pager.pagesFetched = fetched ∧
    (server.chunks ≤ pager.maxPages → traversal.ending = .exhausted ∧
      traversal.state.map Except.ok = readings server.entries) ∧
    (pager.maxPages < server.chunks → traversal.ending = .failed (.pageLimit pager.maxPages) ∧
      traversal.state.map Except.ok =
        readings (server.entries.take (server.offset pager.maxPages))) ∧
    ∀ size : Nat, pager.pageSize = size → 0 < size →
      (∀ index skip, server.chunk index skip = min size (server.entries.length - skip)) →
      server.chunks = max 1 ((server.entries.length + size - 1) / size) := by
  obtain ⟨fetches, step, finished, ends, listed⟩ := pager.drain_ended channel
  dsimp only
  unfold Lists at lists
  generalize pager.drain .fresh channel = traversal at finished ends listed lists
  have progress := finished.progress
  have answered := answered_of_lists progress.made isOpen lists
  obtain ⟨counted, ended⟩ := chunks_of_ended answered progress.placed finished
  have whole := listed_take answered progress.placed (Nat.le_refl fetches.length)
  rw [List.take_length, listed] at whole
  have length : fetches.length = min pager.maxPages server.chunks := by
    rcases ended with ⟨_, same, enough⟩ | ⟨_, same, few⟩ <;> omega
  refine ⟨?_, ?_, counted.trans length, ?_, ?_, ?_⟩
  · rw [names_of_readings whole, List.map_take]
    exact server.distinct.sublist (List.take_sublist _ _)
  · have once : ∀ fetch ∈ fetches, fetch.attempts = 1 := by
      intro fetch member
      obtain ⟨index, here⟩ := List.mem_iff_getElem?.mp member
      exact (answered index fetch here).1.1
    have sizes := congrArg List.length progress.made.requests
    rw [Fetch.requests_of_once once, List.length_append, List.length_map, length] at sizes
    exact sizes
  · intro enough
    rcases ended with ⟨rfl, same, _⟩ | ⟨_, _, few⟩
    · refine ⟨Pager.Ending.exhausted_of_ends ends, ?_⟩
      have covered := (server.chunks_eq_iff.mp same.symm).1.2
      rw [whole, List.take_of_length_le covered]
    · exact absurd enough (Nat.not_le_of_lt few)
  · intro few
    rcases ended with ⟨_, _, enough⟩ | ⟨rfl, same, _⟩
    · exact absurd enough (Nat.not_le_of_lt few)
    · refine ⟨Pager.Ending.failed_of_ends ends, ?_⟩
      rw [whole, same]
  · intro size _ positive regular
    exact server.chunks_of_regular positive regular

def pair : StableServer where
  entries := [("a", []), ("b", [])]
  distinct := by decide
  linked := by
    intro entry member
    left
    rcases List.mem_cons.mp member with rfl | last
    · rfl
    · rw [List.mem_singleton.mp last]
      rfl
  chunk _ skip := min 1 (2 - skip)
  chunk_pos := by
    intro index skip left
    change skip < 2 at left
    omega
  chunk_le := by
    intro index skip
    change _ ≤ 2 - skip
    omega

theorem pair_lists : pair.Lists Pager.plain Channel.twoPages := by
  have asked : (Pager.plain.drain .fresh Channel.twoPages).channel.requests.toList.map
      (fun request => (Json.field? request.params "S").bind Json.wholeValue?) =
      [some 0, some 1] := by decide +kernel
  intro index request found skip skips
  have here := congrArg (·[index]?) asked
  change _ = ([some 0, some 1] : List (Option Int))[index]? at here
  have start : Channel.twoPages.requests.size = 0 := rfl
  rw [start, Nat.zero_add] at found
  rw [List.getElem?_map, Array.getElem?_toList, found, Option.map_some, skips] at here
  match index with
  | 0 =>
      have same : (skip : Int) = 0 := Option.some.inj (Option.some.inj here)
      have first : skip = 0 := Int.ofNat.inj same
      subst first
      have body : (Response.prompt 200 "\x7b\"a\": \x7b\"_more_projects\": true\x7d\x7d").value =
          .object [("a", .object [("_more_projects", .bool true)])] := by
        apply Response.value_of_decoded
        exact Response.decoded_of_written (by decide +kernel) (.single (.single (.bool true)))
          (by decide +kernel)
      refine ⟨_, _, rfl, by decide, body, .cons ⟨rfl, _, rfl, ?_⟩ .nil, by decide⟩
      intro key other
      exact if_neg (Ne.symm other)
  | 1 =>
      have same : (skip : Int) = 1 := Option.some.inj (Option.some.inj here)
      have second : skip = 1 := Int.ofNat.inj same
      subst second
      have body : (Response.prompt 200 "\x7b\"b\": \x7b\x7d\x7d").value =
          .object [("b", .object [])] := by
        apply Response.value_of_decoded
        exact Response.decoded_of_written (by decide +kernel) (.single (.object List.nodup_nil nofun))
          (by decide +kernel)
      exact ⟨_, _, rfl, by decide, body, .cons ⟨rfl, _, rfl, fun _ _ => rfl⟩ .nil, by decide⟩
  | index + 2 => cases here

theorem drain_lists_pair :
    let traversal := Pager.plain.drain .fresh Channel.twoPages
    traversal.ending = .exhausted ∧ traversal.state.map Except.ok = readings pair.entries := by
  obtain ⟨_, _, _, enough, _, regular⟩ :=
    drain_lists pair Pager.plain Channel.twoPages rfl pair_lists
  have chunks : pair.chunks = 2 := regular 1 rfl Nat.one_pos fun _ _ => rfl
  exact enough (Nat.le_of_eq chunks)

end StableServer

end ProjectScan
