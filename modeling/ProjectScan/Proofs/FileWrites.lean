import Mathlib.Logic.Relation
import ProjectScan.Command.Console

/-!
What writing a file changes and what it keeps. Writing takes the place of a file or of nothing, never
of a directory; the places that other paths lead to stay the same, and so does what stands there. What
was written is read back, with what was added to the file since. A directory is made with those above
it, which stay even if it cannot be made.
-/

namespace ProjectScan.Disk

variable {disk after : Disk} {place other : Location} {entry found : Entry} {path text : String}

theorem entry?_set_self : Disk.entry? (disk.set place entry) place = some entry := by
  have own : (disk.set place entry).entries.lookup place = some entry := List.lookup_cons_self
  unfold entry?
  rw [own]

theorem lookup_filter_of_ne (apart : other ≠ place) (entries : List (Location × Entry)) :
    (entries.filter (·.1 ≠ place)).lookup other = entries.lookup other := by
  induction entries with
  | nil => rfl
  | cons first rest ih =>
      obtain ⟨there, content⟩ := first
      by_cases same : there = place
      · subst same
        rw [List.filter_cons_of_neg (by simp), ih, List.lookup_cons,
          beq_false_of_ne apart]
      · rw [List.filter_cons_of_pos (by simpa using same), List.lookup_cons, List.lookup_cons, ih]

theorem entry?_set_of_ne (apart : other ≠ place) (stands : disk.entry? other = some found) :
    Disk.entry? (disk.set place entry) other = some found := by
  have kept : (disk.set place entry).entries.lookup other = disk.entries.lookup other := by
    unfold set
    rw [List.lookup_cons, beq_false_of_ne apart]
    exact lookup_filter_of_ne apart disk.entries
  unfold entry? at stands ⊢
  rw [kept]
  cases looked : disk.entries.lookup other with
  | some content =>
      rw [looked] at stands
      exact stands
  | none =>
      rw [looked] at stands
      dsimp only at stands ⊢
      split at stands
      · rename_i above
        cases stands
        rw [if_pos]
        rw [Bool.or_eq_true] at above ⊢
        refine above.imp_right fun member => ?_
        rw [List.any_eq_true] at member ⊢
        obtain ⟨⟨there, content⟩, among, begins⟩ := member
        by_cases same : there = place
        · subst same
          exact ⟨(there, entry), List.mem_cons_self, begins⟩
        · refine ⟨(there, content), List.mem_cons_of_mem _ ?_, begins⟩
          exact List.mem_filter.mpr ⟨among, by simpa using same⟩
      · cases stands

/-- Where a way leads, it still leads when a place that is no directory becomes a file. -/
theorem walk_set (content : List UInt8) (free : disk.entry? place ≠ some .directory)
    {start goal : Location} {names : List String} (leads : disk.walk start names = .ok goal) :
    (disk.set place (.file content)).walk start names = .ok goal := by
  induction names generalizing start with
  | nil => exact leads
  | cons name rest ih =>
      unfold walk step at leads ⊢
      cases stands : disk.entry? start with
      | none =>
          rw [stands] at leads
          cases leads
      | some entry =>
          cases entry with
          | file content =>
              rw [stands] at leads
              cases leads
          | directory =>
              have apart : start ≠ place := by
                rintro rfl
                exact free stands
              rw [entry?_set_of_ne apart stands]
              rw [stands] at leads
              dsimp only at leads ⊢
              split at leads
              · cases leads
              · exact ih leads

theorem locate_set (content : List UInt8) (free : disk.entry? place ≠ some .directory)
    {goal : Location} (leads : disk.locate path = .ok goal) :
    (disk.set place (.file content)).locate path = .ok goal := by
  unfold locate at leads ⊢
  split at leads
  · cases leads
  · split at leads
    · cases leads
    · split at leads
      · cases leads
      · rename_i character blank long
        rw [if_neg character, if_neg blank, if_neg long]
        exact walk_set content free leads

/-- The path leads to a file, which stands at this place and holds these bytes. -/
structure Holds (disk : Disk) (path : String) (place : Location) (content : List UInt8) : Prop where
  leads : disk.locate path = .ok place
  stands : disk.entry? place = some (.file content)

theorem Holds.read {content : List UInt8} (holds : disk.Holds path place content) :
    disk.read path = .ok content := by
  unfold Disk.read
  rw [holds.leads]
  dsimp only
  rw [holds.stands]

theorem update_eq_ok {content : List UInt8 → List UInt8}
    (writes : disk.update path content = .ok after) :
    ∃ place old, disk.locate path = .ok place ∧ disk.entry? place ≠ some .directory ∧
      (∀ held, disk.entry? place = some (.file held) → old = held) ∧
      after = disk.set place (.file (content old)) := by
  unfold update at writes
  cases leads : disk.locate path with
  | error fault =>
      rw [leads] at writes
      cases writes
  | ok place =>
      rw [leads] at writes
      dsimp only at writes
      cases stands : disk.entry? place with
      | none =>
          rw [stands] at writes
          cases writes
          exact ⟨place, [], rfl, by rw [stands]; nofun, by rw [stands]; nofun, rfl⟩
      | some entry =>
          rw [stands] at writes
          cases entry with
          | directory => cases writes
          | file held =>
              cases writes
              refine ⟨place, held, rfl, by rw [stands]; nofun, ?_, rfl⟩
              intro other same
              rw [stands] at same
              cases same
              rfl

theorem holds_of_write (writes : disk.write path text = .ok after) :
    ∃ place, after.Holds path place (bytes text) := by
  obtain ⟨place, old, leads, free, _, rfl⟩ := update_eq_ok writes
  exact ⟨place, locate_set (bytes text) free leads, entry?_set_self⟩

/-- A text that is added to some file stands behind what the file at a place held if both paths lead
there. Otherwise nothing changes at this place. -/
theorem Holds.append {file : String} {content : List UInt8} (holds : disk.Holds path place content)
    (appends : disk.append file text = .ok after) :
    (after.locate file = after.locate path ∧ after.Holds path place (content ++ bytes text)) ∨
      (after.locate file ≠ after.locate path ∧ after.Holds path place content) := by
  obtain ⟨there, old, leads, free, held, rfl⟩ := update_eq_ok appends
  have still := locate_set (old ++ bytes text) free holds.leads
  have other := locate_set (old ++ bytes text) free leads
  by_cases same : there = place
  · subst same
    have own := held content holds.stands
    subst own
    exact .inl ⟨other.trans still.symm, still, entry?_set_self⟩
  · refine .inr ⟨?_, still, entry?_set_of_ne (Ne.symm same) holds.stands⟩
    rw [other, still]
    exact fun both => same (Except.ok.inj both)

theorem Holds.locate_ne {file : String} {content : List UInt8} {fault : DiskFault}
    (holds : disk.Holds path place content) (fails : disk.append file text = .error fault) :
    disk.locate file ≠ disk.locate path := by
  intro same
  unfold Disk.append update at fails
  rw [same, holds.leads] at fails
  dsimp only at fails
  rw [holds.stands] at fails
  cases fails

/-! ### Directories -/

/-- A directory was made on the way to this one, or this one itself. -/
def Makes (directory : Path) (before after : Disk) : Prop :=
  ∃ parts, parts <+: directory.parts ∧
    before.makeDirectory (Path.mk directory.root parts).text = .ok after

/-- All that was done to the disk is that directories were made on the way to this one. -/
def OnlyMakes (directory : Path) : Disk → Disk → Prop := Relation.ReflTransGen (Makes directory)

variable {directory : Path}

theorem onlyMakes_of_ensureDirectory {parts : List String} (way : parts <+: directory.parts)
    (made : disk.ensureDirectory ⟨directory.root, parts⟩ = .ok after) :
    OnlyMakes directory disk after := by
  unfold ensureDirectory at made
  split at made
  · rename_i new
    cases made
    exact .single ⟨parts, way, new⟩
  · split at made
    · cases made
      exact .refl
    · cases made

theorem ensureParts_onlyMakes (disk : Disk) {names : List String}
    (way : names.reverse <+: directory.parts) :
    OnlyMakes directory disk (disk.ensureParts directory.root names).2 := by
  induction names with
  | nil =>
      unfold ensureParts
      dsimp only
      split
      · exact onlyMakes_of_ensureDirectory way ‹_›
      · exact .refl
  | cons name above ih =>
      have shorter : above.reverse <+: directory.parts := by
        rw [List.reverse_cons] at way
        exact (List.prefix_append _ _).trans way
      have made := ih shorter
      unfold ensureParts
      dsimp only
      split
      · exact onlyMakes_of_ensureDirectory way ‹_›
      · generalize disk.ensureParts directory.root above = higher at made ⊢
        obtain ⟨result, between⟩ := higher
        cases result with
        | error failure => exact made
        | ok done =>
            dsimp only
            split
            · exact made.trans (onlyMakes_of_ensureDirectory way ‹_›)
            · exact made
      · exact .refl

/-- Directories that were made on the way stay, whether or not the last one can be made. -/
theorem ensureDirectories_onlyMakes (disk : Disk) (directory : Path) :
    OnlyMakes directory disk (disk.ensureDirectories directory).2 :=
  disk.ensureParts_onlyMakes ⟨[], by rw [List.append_nil, List.reverse_reverse]⟩

end ProjectScan.Disk
