import ProjectScan.Candidate
import ProjectScan.Failure
import ProjectScan.Glob
import ProjectScan.Log.Record

/-!
Observers: they are told of every project that a scan finds and say when to stop. An observer has a
state of its own; the collecting one keeps the candidates whose names pass its patterns.
-/

namespace ProjectScan

/-- What an observer does when it is told of a project: its verdict, whether to stop, or a failure
of its own; its new state; what it notes; and whether it wishes the scan to be cancelled. -/
structure Observation (σ : Type) where
  verdict : Except Failure Bool
  state : σ
  records : List Log.Record
  cancels : Bool

/-- An observer with states in `σ`. It is told the name of the project, its candidate, and whether
the scan's session is open. The scan writes its diagnostics to the observer's sink, if it has
one. -/
structure Observer (σ : Type) where
  sink : Option Log.Sink
  observe : σ → String → Candidate → Bool → Observation σ

structure Selection where
  inclusions : List String
  exclusions : List String
  limit : Option Nat
  deriving DecidableEq, Repr

namespace Selection

def create (inclusions exclusions : List String) (limit : Option Int) : Except Failure Selection :=
  match limit with
  | none => .ok ⟨inclusions, exclusions, none⟩
  | some limit =>
      if limit < 1 then .error (.tooSmall .limit) else .ok ⟨inclusions, exclusions, some limit.toNat⟩

/-- A name is accepted unless an exclusion matches it, if there are no inclusions or one of them
matches it. -/
def accepts (selection : Selection) (name : String) : Bool :=
  !(selection.exclusions.any fun pattern => Glob.matchesName pattern name) &&
    (selection.inclusions.isEmpty ||
      selection.inclusions.any fun pattern => Glob.matchesName pattern name)

end Selection

/-- The candidates that were accepted and the names that were not, both in order. -/
structure Collection where
  accepted : List Candidate
  skipped : List String
  deriving Repr

def Collection.empty : Collection := ⟨[], []⟩

def observerSink : Log.Sink := .plain "gerrit_discovery.observer"

def limitReached (limit : Option Nat) (accepted : Nat) : Bool :=
  match limit with
  | none => false
  | some limit => limit ≤ accepted

def verdictRecord (sink : Log.Sink) (verb name : String) : Log.Record :=
  sink.record Log.Level.debug (verb ++ " " ++ name) [] [("project", .text name)]

def collecting (selection : Selection) (sink : Log.Sink) : Observer Collection where
  sink := some sink
  observe collection name candidate _ :=
    if selection.accepts name then
      let collection := { collection with accepted := collection.accepted ++ [candidate] }
      { verdict := .ok (limitReached selection.limit collection.accepted.length)
        state := collection
        records := [verdictRecord sink "Accepted" name]
        cancels := false }
    else
      { verdict := .ok false
        state := { collection with skipped := collection.skipped ++ [name] }
        records := [verdictRecord sink "Skipping" name]
        cancels := false }

end ProjectScan
