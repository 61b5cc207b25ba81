import ProjectScan.Project
import Mathlib.Data.List.Forall2

/-!
Pages and the entries they are read from. A page can be read exactly if every entry stands for a
project; it then has the projects of its entries in their order, and there are more pages exactly if
one of the entries says so. Otherwise the first entry that is no project decides: one that is no
object fails the page, and so does an object whose links are true or a number, but the failure is then
that of the value and does not tell the page.
-/

namespace ProjectScan

namespace Project

theorem ofInfo_name {name : String} {info : List (String × Json)} {project : Project}
    (read : ofInfo name info = .ok project) : project.name = name := by
  unfold ofInfo at read
  dsimp only at read
  split at read
  · cases read
    rfl
  · split at read
    · cases read
    · cases read
      rfl

end Project

namespace Page

def Lists (entry : String × Json) (project : Project) : Prop :=
  ∃ info, entry.2 = .object info ∧ Project.ofInfo entry.1 info = .ok project

def flags (entry : String × Json) : Bool :=
  match entry.2 with
  | .object info => ((Json.field? info moreField).getD .null).isTrue
  | _ => false

theorem Lists.name {entry : String × Json} {project : Project} (lists : Lists entry project) :
    project.name = entry.1 := by
  obtain ⟨info, _, read⟩ := lists
  exact Project.ofInfo_name read

theorem names_eq_keys {entries : List (String × Json)} {projects : List Project}
    (listed : List.Forall₂ Lists entries projects) :
    projects.map (·.name) = entries.map (·.1) := by
  induction listed with
  | nil => rfl
  | cons first _ ih => rw [List.map_cons, List.map_cons, first.name, ih]

theorem ext {left right : Page} (projects : left.projects = right.projects)
    (more : left.more = right.more) : left = right := by
  cases left
  cases right
  cases projects
  cases more
  rfl

theorem nonempty_of_flags {entries : List (String × Json)} {projects : List Project}
    (listed : List.Forall₂ Lists entries projects) (flagged : entries.any flags = true) :
    projects ≠ [] := by
  rintro rfl
  have none := List.forall₂_nil_right_iff.mp listed
  rw [none] at flagged
  cases flagged

theorem ofEntries_eq_ok_iff {number status : Int} {entries : List (String × Json)} {page : Page} :
    ofEntries number status entries = .ok page ↔
      List.Forall₂ Lists entries page.projects ∧ page.more = entries.any flags := by
  induction entries generalizing page with
  | nil =>
      constructor
      · intro read
        cases read
        exact ⟨.nil, rfl⟩
      · rintro ⟨listed, more⟩
        have none := List.forall₂_nil_left_iff.mp listed
        exact congrArg Except.ok (ext none.symm more.symm)
  | cons entry rest ih =>
      obtain ⟨name, value⟩ := entry
      constructor
      · intro read
        cases value with
        | object info =>
            unfold ofEntries at read
            cases first : Project.ofInfo name info with
            | error failure =>
                rw [first] at read
                cases read
            | ok project =>
                rw [first] at read
                cases others : ofEntries number status rest with
                | error failure =>
                    rw [others] at read
                    cases read
                | ok tail =>
                    rw [others] at read
                    cases read
                    obtain ⟨listed, more⟩ := ih.mp others
                    refine ⟨.cons ⟨info, rfl, first⟩ listed, ?_⟩
                    rw [List.any_cons, ← more]
                    rfl
        | _ => cases read
      · rintro ⟨listed, more⟩
        obtain ⟨project, projects, ⟨info, isObject, first⟩, others, same⟩ :=
          List.forall₂_cons_left_iff.mp listed
        change value = .object info at isObject
        subst isObject
        have tail : ofEntries number status rest =
            .ok ⟨projects, rest.any flags, nonempty_of_flags others⟩ := ih.mpr ⟨others, rfl⟩
        unfold ofEntries
        rw [first]
        dsimp only
        rw [tail]
        refine congrArg Except.ok (ext same.symm ?_)
        rw [more, List.any_cons]
        rfl

/-- An answer is a page exactly if its status tells of success and its value is an object all of
whose entries stand for projects. -/
theorem ofAnswer_eq_ok_iff {number status : Int} {value : Json} {page : Page} :
    ofAnswer number status value = .ok page ↔
      (200 ≤ status ∧ status < 300) ∧ ∃ entries, value = .object entries ∧
        List.Forall₂ Lists entries page.projects ∧ page.more = entries.any flags := by
  unfold ofAnswer
  by_cases failed : status < 200 ∨ 300 ≤ status
  · rw [if_pos failed]
    constructor
    · nofun
    · rintro ⟨success, _⟩
      omega
  · rw [if_neg failed]
    have success : 200 ≤ status ∧ status < 300 := by omega
    rw [and_iff_right success]
    cases value with
    | object entries =>
        simp only [ofEntries_eq_ok_iff, Json.object.injEq, exists_eq_left']
    | _ => simp

end Page

/-- A value that counts as true and has no elements: it is true, or a number other than zero. -/
def Json.isBare : Json → Bool
  | .bool value => value
  | .whole value => value ≠ 0
  | .float value => !value.isZero
  | _ => false

theorem Json.isBare_iff {value : Json} :
    value.isBare = true ↔ value.isTrue = true ∧ value.elements? = none := by
  cases value <;> simp [isBare, isTrue, elements?]

def Project.links (info : List (String × Json)) : Json :=
  (Json.field? info "web_links").getD .null

theorem Project.ofInfo_of_bare {info : List (String × Json)} (name : String)
    (bare : (links info).isBare = true) :
    ofInfo name info = .error (.misfit (.notIterable (links info).kind)) := by
  obtain ⟨counts, none⟩ := Json.isBare_iff.mp bare
  unfold links at counts none ⊢
  unfold ofInfo
  simp only [counts, none, Bool.not_true, Bool.false_eq_true, if_false]

theorem Project.ofInfo_of_not_bare {info : List (String × Json)} (name : String)
    (fits : (links info).isBare = false) : ∃ project, ofInfo name info = .ok project := by
  cases read : ofInfo name info with
  | ok project => exact ⟨project, rfl⟩
  | error failure =>
      have counted : (links info).isTrue = true ∧ (links info).elements? = none := by
        unfold ofInfo at read
        unfold links
        dsimp only at read
        split at read
        · cases read
        · rename_i counts
          split at read
          · rename_i none
            exact ⟨by simpa using counts, none⟩
          · cases read
      rw [Json.isBare_iff.mpr counted] at fits
      cases fits

namespace Page

/-- The entry is an object, and its links are no bare value. -/
def IsProject (entry : String × Json) : Prop :=
  ∃ info, entry.2 = .object info ∧ (Project.links info).isBare = false

/-- The first entry that is no project is an object, with a bare value of this kind as its links. -/
def StraysAtLinks (entries : List (String × Json)) (kind : Json.Kind) : Prop :=
  ∃ before name info after, entries = before ++ (name, .object info) :: after ∧
    (∀ entry ∈ before, IsProject entry) ∧ (Project.links info).isBare = true ∧
    (Project.links info).kind = kind

/-- The failures of a fetch: the failure of its page, or that of a bare value. -/
def IsFailure (number : Int) (failure : Failure) : Prop :=
  (∃ kind, failure = .misfit (.notIterable kind)) ∨
    failure.name = "PageFetchFailure" ∧ failure.page? = some number

def fault? (number status : Int) : String × Json → Option Failure
  | (_, .object info) =>
      if (Project.links info).isBare then
        some (.misfit (.notIterable (Project.links info).kind))
      else none
  | (name, _) => some (.pageEntry number status name)

section Faults

variable {number status : Int} {entry : String × Json} {entries : List (String × Json)}

theorem fault?_eq_none_iff : fault? number status entry = none ↔ IsProject entry := by
  obtain ⟨name, value⟩ := entry
  cases value with
  | object info =>
      unfold fault? IsProject
      cases (Project.links info).isBare <;> simp_all
  | _ => exact ⟨nofun, nofun⟩

theorem fault?_eq_misfit_iff {kind : Json.Kind} :
    fault? number status entry = some (.misfit (.notIterable kind)) ↔
      ∃ info, entry.2 = .object info ∧ (Project.links info).isBare = true ∧
        (Project.links info).kind = kind := by
  obtain ⟨name, value⟩ := entry
  cases value with
  | object info =>
      unfold fault?
      cases (Project.links info).isBare <;> simp_all
  | _ => exact ⟨nofun, nofun⟩

theorem isFailure_of_fault? {failure : Failure}
    (found : fault? number status entry = some failure) : IsFailure number failure := by
  obtain ⟨name, value⟩ := entry
  cases value with
  | object info =>
      cases bare : (Project.links info).isBare with
      | true =>
          rw [fault?, if_pos bare] at found
          cases found
          exact .inl ⟨_, rfl⟩
      | false =>
          rw [fault?, if_neg (by rw [bare]; exact Bool.false_ne_true)] at found
          cases found
  | _ =>
      cases found
      exact .inr ⟨rfl, rfl⟩

theorem ofEntries_of_fault {failure : Failure}
    (found : entries.findSome? (fault? number status) = some failure) :
    ofEntries number status entries = .error failure := by
  -- The first entry decides, unless it is a project.
  induction entries with
  | nil => cases found
  | cons entry rest ih =>
      obtain ⟨name, value⟩ := entry
      rw [List.findSome?_cons] at found
      cases value with
      | object info =>
          unfold ofEntries
          cases bare : (Project.links info).isBare with
          | true =>
              rw [fault?, if_pos bare] at found
              cases found
              rw [Project.ofInfo_of_bare name bare]
          | false =>
              rw [fault?, if_neg (by rw [bare]; exact Bool.false_ne_true)] at found
              obtain ⟨project, read⟩ := Project.ofInfo_of_not_bare name bare
              rw [read, ih found]
      | _ =>
          cases found
          rfl

theorem ofEntries_of_no_fault (none : entries.findSome? (fault? number status) = none) :
    ∃ page, ofEntries number status entries = .ok page := by
  induction entries with
  | nil => exact ⟨_, rfl⟩
  | cons entry rest ih =>
      obtain ⟨name, value⟩ := entry
      rw [List.findSome?_eq_none_iff] at none
      obtain ⟨info, isObject, fits⟩ := fault?_eq_none_iff.mp (none _ List.mem_cons_self)
      change value = .object info at isObject
      subst isObject
      obtain ⟨project, read⟩ := Project.ofInfo_of_not_bare name fits
      obtain ⟨page, others⟩ := ih (List.findSome?_eq_none_iff.mpr fun other member =>
        none other (List.mem_cons_of_mem _ member))
      unfold ofEntries
      rw [read, others]
      exact ⟨_, rfl⟩

theorem ofEntries_eq_error_iff {failure : Failure} :
    ofEntries number status entries = .error failure ↔
      entries.findSome? (fault? number status) = some failure := by
  refine ⟨fun failed => ?_, ofEntries_of_fault⟩
  cases found : entries.findSome? (fault? number status) with
  | none =>
      obtain ⟨page, read⟩ := ofEntries_of_no_fault found
      rw [read] at failed
      cases failed
  | some other =>
      rw [ofEntries_of_fault found] at failed
      exact congrArg some (Except.error.inj failed)

theorem exists_ofEntries_iff : (∃ page, ofEntries number status entries = .ok page) ↔
    ∀ entry ∈ entries, IsProject entry := by
  constructor
  · rintro ⟨page, read⟩
    cases found : entries.findSome? (fault? number status) with
    | none =>
        intro entry member
        exact fault?_eq_none_iff.mp (List.findSome?_eq_none_iff.mp found entry member)
    | some failure =>
        rw [ofEntries_of_fault found] at read
        cases read
  · intro all
    refine ofEntries_of_no_fault (List.findSome?_eq_none_iff.mpr fun entry member => ?_)
    exact fault?_eq_none_iff.mpr (all entry member)

theorem ofEntries_eq_misfit_iff {kind : Json.Kind} :
    ofEntries number status entries = .error (.misfit (.notIterable kind)) ↔
      StraysAtLinks entries kind := by
  rw [ofEntries_eq_error_iff, List.findSome?_eq_some_iff]
  constructor
  · rintro ⟨before, ⟨name, value⟩, after, parts, found, earlier⟩
    obtain ⟨info, isObject, bare, same⟩ := fault?_eq_misfit_iff.mp found
    change value = .object info at isObject
    subst isObject
    exact ⟨before, name, info, after, parts,
      fun entry member => fault?_eq_none_iff.mp (earlier entry member), bare, same⟩
  · rintro ⟨before, name, info, after, parts, earlier, bare, same⟩
    exact ⟨before, (name, .object info), after, parts,
      fault?_eq_misfit_iff.mpr ⟨info, rfl, bare, same⟩,
      fun entry member => fault?_eq_none_iff.mpr (earlier entry member)⟩

theorem isFailure_of_ofEntries {failure : Failure}
    (failed : ofEntries number status entries = .error failure) : IsFailure number failure := by
  obtain ⟨entry, _, found⟩ :=
    List.exists_of_findSome?_eq_some (ofEntries_eq_error_iff.mp failed)
  exact isFailure_of_fault? found

end Faults

end Page

end ProjectScan
