import ProjectScan.Client
import ProjectScan.Project

/-!
Listing a server's projects page by page. A page is requested when the projects before it have all
been taken, and it is told how many those are. Traversals of one pager share its count of pages.
-/

namespace ProjectScan

structure Pager where
  client : Client
  pageSize : Int
  maxPages : Nat
  projectType : Option String
  pagesFetched : Nat
  deriving Repr

/-- Where a traversal stands: not begun; between two projects, with those of the current page that
are still to come, the number of projects taken so far and whether there is another page; or at
its end. -/
inductive Cursor where
  | fresh
  | within (pending : List Project) (taken : Nat) (more : Bool)
  | finished
  deriving Repr

inductive Step where
  | project (project : Project)
  | done
  | failed (failure : Failure)
  deriving Repr

namespace Pager

def create (client : Client) (pageSize maxPages : Int) (projectType : Option String) :
    Except Failure Pager :=
  if pageSize < 1 then .error (.tooSmall .pageSize)
  else if maxPages < 1 then .error (.tooSmall .maxPages)
  else .ok ⟨client, pageSize, maxPages.toNat, projectType, 0⟩

def listingPath : String := "/projects/"

def pageParams (pager : Pager) (skip : Int) : List (String × Json) :=
  [("n", .whole pager.pageSize), ("S", .whole skip), ("d", .text "")] ++
    match pager.projectType with
    | none | some "" => []
    | some type => [("type", .text type)]

/-- Turns the failure of a request into that of a page; others stay as they are. -/
def pageFailure (page : Int) : Failure → Failure
  | .clientClosed => .pageFetch page .clientClosed
  | .exhausted url attempts last => .pageFetch page (.exhausted url attempts last)
  | failure => failure

/-- Fetches one page. The number of the page is only used to report failures. -/
def fetchPage (pager : Pager) (page skip : Int) (channel : Channel) :
    Except Failure Page × Client × Channel :=
  match pager.client.get listingPath (pager.pageParams skip) channel with
  | (.error failure, client, channel) => (.error (pageFailure page failure), client, channel)
  | (.ok answer, client, channel) =>
      (Page.ofAnswer page answer.status answer.value, client, channel)

def truthText (value : Bool) : String := (Json.bool value).displayed

/-- Fetches the next page, counts it and notes it, unless as many as allowed were fetched. -/
def turnPage (pager : Pager) (skip : Nat) (channel : Channel) :
    Except Failure Page × Pager × Channel :=
  if pager.maxPages ≤ pager.pagesFetched then (.error (.pageLimit pager.maxPages), pager, channel)
  else
    let number := pager.pagesFetched + 1
    match pager.fetchPage number skip channel with
    | (.error failure, client, channel) => (.error failure, { pager with client }, channel)
    | (.ok page, client, channel) =>
        (.ok page, { pager with client, pagesFetched := number },
          channel.write client.sink Log.Level.debug
            ("Fetched project page " ++ Number.naturalText number ++ ": " ++
              Number.naturalText page.projects.length ++ " projects, more=" ++
              truthText page.more)
            [("page", .whole number)])

/-- Begins a traversal, which resets the count of pages. -/
def restarted (pager : Pager) : Pager := { pager with pagesFetched := 0 }

def stepInto (page : Page) (taken : Nat) : Step × Cursor :=
  match page.projects with
  | [] => (.done, .finished)
  | project :: pending => (.project project, .within pending (taken + 1) page.more)

def stepOver (pager : Pager) (taken : Nat) (channel : Channel) :
    Step × Cursor × Pager × Channel :=
  match pager.turnPage taken channel with
  | (.error failure, pager, channel) => (.failed failure, .finished, pager, channel)
  | (.ok page, pager, channel) =>
      let (step, cursor) := stepInto page taken
      (step, cursor, pager, channel)

def next (pager : Pager) (cursor : Cursor) (channel : Channel) :
    Step × Cursor × Pager × Channel :=
  match cursor with
  | .fresh => pager.restarted.stepOver 0 channel
  | .within (project :: pending) taken more =>
      (.project project, .within pending (taken + 1) more, pager, channel)
  | .within [] taken true => pager.stepOver taken channel
  | .within [] _ false => (.done, .finished, pager, channel)
  | .finished => (.done, .finished, pager, channel)

/-- What is done with a project decides how the traversal goes on. -/
inductive Flow where
  | go
  | stop
  | fail (failure : Failure)
  deriving Repr

inductive Ending where
  | exhausted
  | stopped
  | failed (failure : Failure)
  deriving Repr

structure Walk (σ : Type) where
  ending : Ending
  state : σ
  pager : Pager
  channel : Channel

variable {σ : Type}

def visitAll (visit : σ → Project → Channel → Flow × σ × Channel) (state : σ)
    (channel : Channel) : List Project → Flow × σ × Channel
  | [] => (.go, state, channel)
  | project :: rest =>
      match visit state project channel with
      | (.go, state, channel) => visitAll visit state channel rest
      | ended => ended

def walkPages (visit : σ → Project → Channel → Flow × σ × Channel) (pager : Pager) (taken : Nat)
    (state : σ) (channel : Channel) : (left : Nat) → Walk σ
  | 0 => ⟨.failed (.pageLimit pager.maxPages), state, pager, channel⟩
  | left + 1 =>
      match pager.turnPage taken channel with
      | (.error failure, pager, channel) => ⟨.failed failure, state, pager, channel⟩
      | (.ok page, pager, channel) =>
          match visitAll visit state channel page.projects with
          | (.fail failure, state, channel) => ⟨.failed failure, state, pager, channel⟩
          | (.stop, state, channel) => ⟨.stopped, state, pager, channel⟩
          | (.go, state, channel) =>
              if page.more then
                walkPages visit pager (taken + page.projects.length) state channel left
              else ⟨.exhausted, state, pager, channel⟩

def walk (visit : σ → Project → Channel → Flow × σ × Channel) (pager : Pager) (cursor : Cursor)
    (state : σ) (channel : Channel) : Walk σ :=
  match cursor with
  | .fresh => walkPages visit pager.restarted 0 state channel pager.maxPages
  | .finished => ⟨.exhausted, state, pager, channel⟩
  | .within pending taken more =>
      match visitAll visit state channel pending with
      | (.fail failure, state, channel) => ⟨.failed failure, state, pager, channel⟩
      | (.stop, state, channel) => ⟨.stopped, state, pager, channel⟩
      | (.go, state, channel) =>
          if more then
            walkPages visit pager (taken + pending.length) state channel
              (pager.maxPages - pager.pagesFetched)
          else ⟨.exhausted, state, pager, channel⟩

def drain (pager : Pager) (cursor : Cursor) (channel : Channel) : Walk (List Project) :=
  pager.walk (fun projects project channel => (.go, projects ++ [project], channel)) cursor []
    channel

def takeSteps (pager : Pager) (cursor : Cursor) (channel : Channel) :
    (count : Nat) → List Project × Option Step × Cursor × Pager × Channel
  | 0 => ([], none, cursor, pager, channel)
  | count + 1 =>
      match pager.next cursor channel with
      | (.project project, cursor, pager, channel) =>
          let (projects, rest) := pager.takeSteps cursor channel count
          (project :: projects, rest)
      | (step, cursor, pager, channel) => ([], some step, cursor, pager, channel)

end Pager

end ProjectScan
