import ProjectScan.Log.Record

/-!
The records kept so far. Records below the threshold are not kept.
-/

namespace ProjectScan.Log

structure Journal where
  threshold : Int
  records : Array Record

namespace Journal

def empty (threshold : Int) : Journal := ⟨threshold, #[]⟩

def keep (journal : Journal) (record : Record) : Journal :=
  if journal.threshold ≤ record.level then
    { journal with records := journal.records.push record }
  else journal

def write (journal : Journal) (sink : Sink) (level : Int) (message : String)
    (fields : List (String × Json)) : Journal :=
  journal.keep (sink.record level message [] fields)

def note (journal : Journal) (sink : Sink) (level : Int) (message : String) : Journal :=
  journal.write sink level message []

end Journal

end ProjectScan.Log
