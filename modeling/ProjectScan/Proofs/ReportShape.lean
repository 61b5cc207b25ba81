import Mathlib.Data.List.Basic
import ProjectScan.Report

/-!
What may be wrong with a report. Values of the right kinds in the right fields are what a report is
made of, so that only two of its texts can be refused: the id of the scan and the name of a project,
when they are empty. A report of a scan with an id is complained about once for every candidate
without a name, in the order of the candidates.
-/

namespace ProjectScan

namespace Json.Shape

theorem violations_oneOf {kinds : List Kind} {value : Json}
    (known : kinds.any value.isOfKind = true) : violations (.oneOf kinds) value = [] := by
  simp [violations, kindViolations, atRoot, known]

theorem violations_count {least value : Int} (enough : least ≤ value) :
    violations (.count least) (.whole value) = [] := by
  have above : ¬value < least := Int.not_lt.mpr enough
  simp [violations, kindViolations, atRoot, isOfKind, kind, isBelow, above]

theorem violations_text (least : Nat) (content : String) :
    violations (.text least) (.text content) =
      atRoot (content.length < least) (.tooShort (.text content) least) := by
  simp [violations, kindViolations, atRoot, isOfKind, kind]

theorem violations_listOf (item : Shape) (items : List Json) :
    violations (.listOf item) (.list items) = itemViolations (violations item) 0 items := by
  simp [violations, kindViolations, atRoot, isOfKind, kind]

theorem violations_record {required : List String} {others : Bool} {known : List (String × Shape)}
    {fields : List (String × Json)}
    (complete : ∀ name ∈ required, (field? fields name).isSome = true)
    (closed : others = true ∨ fields.map (·.1) ⊆ known.map (·.1)) :
    violations (.record required others known) (.object fields) =
      fieldViolations known fields := by
  have nothingMissing : missingFields fields required = [] := by
    unfold missingFields
    rw [List.map_eq_nil_iff, List.filter_eq_nil_iff]
    intro name member
    simp [Option.isSome_iff_ne_none.mp (complete name member)]
  have nothingElse : (if others then [] else otherFields fields (known.map (·.1))) = [] := by
    rcases closed with rfl | within
    · rfl
    · have unknown : unknownNames fields (known.map (·.1)) = [] := by
        unfold unknownNames
        have none :
            (fields.map (·.1)).filter (fun name => !(known.map (·.1)).contains name) = [] := by
          rw [List.filter_eq_nil_iff]
          intro name member
          simpa using within member
        rw [none, List.mergeSort_nil]
      simp [otherFields, unknown, atRoot]
  simp only [violations, nothingMissing, nothingElse]
  simp [kindViolations, atRoot, isOfKind, kind]

theorem fieldViolations_cons {name : String} {shape : Shape} {fields : List (String × Json)}
    {value : Json} (rest : List (String × Shape)) (found : field? fields name = some value) :
    fieldViolations ((name, shape) :: rest) fields =
      (violations shape value).map (Violation.under (.field name)) ++
        fieldViolations rest fields := by
  rw [fieldViolations, found]

theorem fieldViolations_eq_nil {known : List (String × Shape)} {fields : List (String × Json)}
    (fits : ∀ entry ∈ known, ∃ value, field? fields entry.1 = some value ∧
      violations entry.2 value = []) :
    fieldViolations known fields = [] := by
  induction known with
  | nil => rw [fieldViolations]
  | cons entry rest ih =>
      rw [List.forall_mem_cons] at fits
      obtain ⟨⟨value, found, fit⟩, others⟩ := fits
      rw [fieldViolations_cons rest found, fit, ih others]
      rfl

/-- Items that are wrong in one way or not at all are complained about where they are wrong. -/
theorem itemViolations_eq_findIdxs {α : Type} (check : Json → List Violation) (value : α → Json)
    (wrong : α → Bool) (violation : Violation)
    (checks : ∀ item, check (value item) = if wrong item then [violation] else [])
    (start : Nat) (items : List α) :
    itemViolations check start (items.map value) =
      (items.findIdxs wrong start).map fun index => violation.under (.item index) := by
  induction items generalizing start with
  | nil => rfl
  | cons item rest ih =>
      rw [List.map_cons, itemViolations, checks, ih, List.findIdxs_cons]
      split <;> rfl

end Json.Shape

namespace Report

open Json Shape

/-- The counts that a run is reported with are no less than zero. -/
structure Counts (run : Run) : Prop where
  seen : 0 ≤ run.projectsSeen
  pages : 0 ≤ run.pagesFetched
  calls : 0 ≤ run.apiCalls

theorem violations_anyText (content : String) : violations anyText (.text content) = [] :=
  violations_oneOf rfl

theorem violations_nonempty (content : String) :
    violations (.text 1) (.text content) =
      if content = "" then [⟨[], .tooShort (.text "") 1⟩] else [] := by
  rw [violations_text]
  by_cases empty : content = ""
  · simp [empty, atRoot]
  · have long : ¬content.length < 1 := by
      have positive : content.length ≠ 0 := by simpa using empty
      omega
    simp [empty, long, atRoot]

theorem violations_stats (report : Report) (counts : Counts report.run) :
    violations statsShape report.statsJson = [] := by
  unfold statsShape statsJson
  rw [violations_record (by simp [field?]) (.inr (by simp))]
  apply fieldViolations_eq_nil
  simp only [List.forall_mem_cons]
  refine ⟨⟨_, rfl, violations_count counts.seen⟩, ⟨_, rfl, violations_count (Int.natCast_nonneg _)⟩,
    ⟨_, rfl, violations_count counts.pages⟩, ⟨_, rfl, violations_count counts.calls⟩,
    List.forall_mem_nil _⟩

theorem violations_run (report : Report) (named : report.run.navigatorId ≠ "")
    (counts : Counts report.run) : violations runShape report.runJson = [] := by
  have navigator : violations (.text 1) (.text report.run.navigatorId) = [] := by
    rw [violations_nonempty, if_neg named]
  unfold runShape runJson
  rw [violations_record (by simp [field?]) (.inr (by simp))]
  apply fieldViolations_eq_nil
  simp only [List.forall_mem_cons]
  exact ⟨⟨_, rfl, violations_anyText _⟩, ⟨_, rfl, violations_anyText _⟩, ⟨_, rfl, navigator⟩,
    ⟨_, rfl, violations_anyText _⟩, ⟨_, rfl, violations_anyText _⟩, ⟨_, rfl, violations_anyText _⟩,
    ⟨_, rfl, violations_oneOf rfl⟩, ⟨_, rfl, violations_stats report counts⟩, List.forall_mem_nil _⟩

/-- The complaint about a candidate without a project name. -/
def nameless : Violation := ⟨[.field "project_name"], .tooShort (.text "") 1⟩

theorem violations_candidate (candidate : Candidate) :
    violations candidateShape candidate.toJson =
      if candidate.project = "" then [nameless] else [] := by
  have credentials : violations (.oneOf [.text, .null])
      (Candidate.textOrNull candidate.credentialsId) = [] := by
    cases candidate.credentialsId <;> exact violations_oneOf rfl
  unfold candidateShape Candidate.toJson
  rw [violations_record (by simp [field?]) (.inl rfl), fieldViolations_cons _ rfl,
    violations_anyText, fieldViolations_cons _ rfl, violations_nonempty, fieldViolations_eq_nil]
  · split <;> rfl
  · simp only [List.forall_mem_cons]
    exact ⟨⟨_, rfl, violations_anyText _⟩, ⟨_, rfl, violations_oneOf rfl⟩, ⟨_, rfl, credentials⟩,
      ⟨_, rfl, violations_oneOf rfl⟩, List.forall_mem_nil _⟩

theorem violations_toJson (report : Report) (named : report.run.navigatorId ≠ "")
    (counts : Counts report.run) :
    violations shape report.toJson =
      (report.candidates.findIdxs (·.project = "")).map fun index =>
        (nameless.under (.item index)).under (.field "sources") := by
  have sources : violations (.listOf candidateShape)
      (.list (report.candidates.map Candidate.toJson)) =
        (report.candidates.findIdxs (·.project = "")).map fun index =>
          nameless.under (.item index) := by
    rw [violations_listOf]
    apply itemViolations_eq_findIdxs
    intro candidate
    rw [violations_candidate]
    simp only [decide_eq_true_eq]
  unfold shape toJson
  rw [violations_record (by simp [field?]) (.inr (by simp)), fieldViolations_cons _ rfl,
    violations_run report named counts, fieldViolations_cons _ rfl, sources, fieldViolations]
  simp

theorem message_nameless (index : Nat) :
    ((nameless.under (.item index)).under (.field "sources")).message =
      "sources." ++ Number.naturalText index ++ ".project_name: '' should be non-empty" := by
  have fault : nameless.mismatch.message = "'' should be non-empty" := by decide
  have place : Violation.place [.field "sources", .item index, .field "project_name"] =
      "sources." ++ Number.naturalText index ++ ".project_name" := by
    simp [Violation.place, Text.joined, Step.text, String.append_assoc]
  calc
    _ = Violation.place [.field "sources", .item index, .field "project_name"] ++ ": " ++
        nameless.mismatch.message := rfl
    _ = _ := by simp [place, fault, String.append_assoc]

/-- A report of candidates for some projects, of a run with an id and sound counts, has the shape of
reports exactly if no project name is empty. Else it is complained about once for every candidate
whose name is empty, in their order: by the index of the candidate and the field of the name. -/
theorem problems_of_names (run : Run) (named : run.navigatorId ≠ "") (counts : Counts run)
    (blueprint : Blueprint) (names : List String) :
    let found := problems (toJson ⟨run, names.map blueprint.candidate⟩)
    (found = [] ↔ ∀ name ∈ names, name ≠ "") ∧
      found = (names.findIdxs (· = "")).map fun index =>
        "sources." ++ Number.naturalText index ++ ".project_name: '' should be non-empty" := by
  intro found
  have complaints : found = (names.findIdxs (· = "")).map fun index =>
      "sources." ++ Number.naturalText index ++ ".project_name: '' should be non-empty" := by
    change (violations shape _).map Violation.message = _
    rw [violations_toJson _ named counts, List.map_map, List.findIdxs_map]
    apply List.map_congr_left
    exact fun index _ => message_nameless index
  refine ⟨?_, complaints⟩
  rw [complaints, List.map_eq_nil_iff, List.findIdxs_eq_nil_iff]
  simp

/-- Two of four names are empty. -/
theorem problems_of_names_gaps :
    let run : Run :=
      ⟨"", "", "server-url=https://h::credentials-id=null", "", "", "", 4, 1, 1, false⟩
    let blueprint : Blueprint := ⟨"", ⟨"", "https://h", "https://h/a"⟩, true, true, none, [.null]⟩
    run.navigatorId ≠ "" ∧ Counts run ∧
      problems (toJson ⟨run, ["a", "", "b/c", ""].map blueprint.candidate⟩) =
        ["sources.1.project_name: '' should be non-empty",
          "sources.3.project_name: '' should be non-empty"] := by
  intro run blueprint
  have named : run.navigatorId ≠ "" := by decide
  have counts : Counts run := ⟨by decide, by decide, by decide⟩
  refine ⟨named, counts, ?_⟩
  rw [(problems_of_names run named counts blueprint ["a", "", "b/c", ""]).2]
  decide

end Report
end ProjectScan
