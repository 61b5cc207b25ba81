import ProjectScan.Proofs.ReportShape

/-!
The format of reports, said of the values themselves. What has a shape is settled for one kind of shape
after the other; from this follows that a value without floats is taken for a report exactly if it is
an object of a run and its sources, with the fields and the values that the format gives to each.
-/

namespace ProjectScan

inductive Json.IsFloatFree : Json → Prop
  | null : IsFloatFree .null
  | bool (value : Bool) : IsFloatFree (.bool value)
  | whole (value : Int) : IsFloatFree (.whole value)
  | text (value : String) : IsFloatFree (.text value)
  | list {items : List Json} : (∀ item ∈ items, IsFloatFree item) → IsFloatFree (.list items)
  | object {fields : List (String × Json)} :
      (∀ field ∈ fields, IsFloatFree field.2) → IsFloatFree (.object fields)

attribute [simp] Json.IsFloatFree.null Json.IsFloatFree.bool Json.IsFloatFree.whole
  Json.IsFloatFree.text

@[simp] theorem Json.isFloatFree_list {items : List Json} :
    IsFloatFree (.list items) ↔ ∀ item ∈ items, IsFloatFree item :=
  ⟨fun | .list each => each, .list⟩

@[simp] theorem Json.isFloatFree_object {fields : List (String × Json)} :
    IsFloatFree (.object fields) ↔ ∀ field ∈ fields, IsFloatFree field.2 :=
  ⟨fun | .object each => each, .object⟩

theorem Json.IsFloatFree.of_field? {fields : List (String × Json)} {name : String} {value : Json}
    (free : IsFloatFree (.object fields)) (found : field? fields name = some value) :
    value.IsFloatFree :=
  isFloatFree_object.mp free _ (mem_of_field? found)

namespace Json.Shape

variable {value : Json}

theorem atRoot_eq_nil_iff {wrong : Bool} {mismatch : Mismatch} :
    atRoot wrong mismatch = [] ↔ wrong = false := by
  unfold atRoot
  cases wrong <;> simp

theorem violations_oneOf_eq_nil_iff {kinds : List Kind} :
    violations (.oneOf kinds) value = [] ↔ ∃ kind ∈ kinds, value.isOfKind kind = true := by
  rw [violations, kindViolations, atRoot_eq_nil_iff, Bool.not_eq_false', List.any_eq_true]

theorem violations_count_eq_nil_iff (free : value.IsFloatFree) {least : Int} :
    violations (.count least) value = [] ↔ ∃ number, value = .whole number ∧ least ≤ number := by
  rw [violations, List.append_eq_nil_iff, kindViolations, atRoot_eq_nil_iff, atRoot_eq_nil_iff]
  cases free <;> simp [isOfKind, kind, isBelow]

theorem violations_text_eq_nil_iff {least : Nat} :
    violations (.text least) value = [] ↔
      ∃ content, value = .text content ∧ least ≤ content.length := by
  cases value <;> simp [violations, kindViolations, atRoot_eq_nil_iff, isOfKind, kind]

theorem itemViolations_eq_nil_iff {check : Json → List Violation} {items : List Json}
    (start : Nat) : itemViolations check start items = [] ↔ ∀ item ∈ items, check item = [] := by
  induction items generalizing start with
  | nil => simp [itemViolations]
  | cons item rest ih =>
      rw [itemViolations, List.append_eq_nil_iff, List.map_eq_nil_iff, ih, List.forall_mem_cons]

theorem violations_listOf_eq_nil_iff {item : Shape} :
    violations (.listOf item) value = [] ↔
      ∃ items, value = .list items ∧ ∀ part ∈ items, violations item part = [] := by
  cases value <;>
    simp [violations, kindViolations, atRoot_eq_nil_iff, isOfKind, kind, itemViolations_eq_nil_iff]

theorem missingFields_eq_nil_iff {fields : List (String × Json)} {required : List String} :
    missingFields fields required = [] ↔ ∀ name ∈ required, (field? fields name).isSome = true := by
  rw [missingFields, List.map_eq_nil_iff, List.filter_eq_nil_iff]
  refine forall₂_congr fun name _ => ?_
  rw [Bool.not_eq_true, Option.isNone_eq_false_iff]

theorem otherFields_eq_nil_iff {fields : List (String × Json)} {known : List String} :
    otherFields fields known = [] ↔ ∀ name, (field? fields name).isSome = true → name ∈ known := by
  have unknown : unknownNames fields known = [] ↔
      (fields.map (·.1)).filter (fun name => !known.contains name) = [] := by
    unfold unknownNames
    rw [← List.length_eq_zero_iff, List.length_mergeSort, List.length_eq_zero_iff]
  rw [otherFields, atRoot_eq_nil_iff, Bool.not_eq_false', List.isEmpty_iff, unknown,
    List.filter_eq_nil_iff]
  refine forall_congr' fun name => ?_
  rw [isSome_field?_iff]
  simp

theorem fieldViolations_eq_nil_iff {known : List (String × Shape)} {fields : List (String × Json)} :
    fieldViolations known fields = [] ↔ ∀ entry ∈ known, ∀ part,
      field? fields entry.1 = some part → violations entry.2 part = [] := by
  induction known with
  | nil => simp [fieldViolations]
  | cons entry rest ih =>
      obtain ⟨name, shape⟩ := entry
      rw [fieldViolations, List.append_eq_nil_iff, ih, List.forall_mem_cons]
      refine and_congr_left fun _ => ?_
      cases field? fields name <;> simp

theorem violations_record_eq_nil_iff {required : List String} {others : Bool}
    {known : List (String × Shape)} :
    violations (.record required others known) value = [] ↔
      ∃ fields, value = .object fields ∧
        (∀ name ∈ required, (field? fields name).isSome = true) ∧
        (others = true ∨ ∀ name, (field? fields name).isSome = true → name ∈ known.map (·.1)) ∧
        ∀ entry ∈ known, ∀ part,
          field? fields entry.1 = some part → violations entry.2 part = [] := by
  cases value with
  | object fields =>
      have open_iff : (if others then [] else otherFields fields (known.map (·.1))) = [] ↔
          others = true ∨ ∀ name, (field? fields name).isSome = true → name ∈ known.map (·.1) := by
        rw [← otherFields_eq_nil_iff]
        cases others <;> simp
      simp only [violations, kindViolations, List.append_eq_nil_iff, atRoot_eq_nil_iff,
        missingFields_eq_nil_iff, open_iff, fieldViolations_eq_nil_iff]
      simp [isOfKind, kind, and_assoc]
  | _ => simp [violations, kindViolations, atRoot_eq_nil_iff, isOfKind, kind]

def HasKeys (fields : List (String × Json)) (names : List String) : Prop :=
  ∀ name, (field? fields name).isSome = true ↔ name ∈ names

def Fits (fields : List (String × Json)) (entry : String × Shape) : Prop :=
  ∃ part, field? fields entry.1 = some part ∧ violations entry.2 part = []

variable {fields : List (String × Json)} {name : String}

theorem fits_iff_exists {α : Type} (fields : List (String × Json)) (name : String)
    (made : α → Json) {shape : Shape} {holds : α → Prop}
    (means : ∀ part, field? fields name = some part →
      (violations shape part = [] ↔ ∃ content, part = made content ∧ holds content)) :
    Fits fields (name, shape) ↔
      ∃ content, field? fields name = some (made content) ∧ holds content := by
  constructor
  · rintro ⟨part, found, fits⟩
    obtain ⟨content, rfl, held⟩ := (means part found).mp fits
    exact ⟨content, found, held⟩
  · rintro ⟨content, found, held⟩
    exact ⟨_, found, (means _ found).mpr ⟨content, rfl, held⟩⟩

theorem fits_kind_iff {α : Type} (fields : List (String × Json)) (name : String)
    (made : α → Json) {shape : Shape}
    (means : ∀ part, violations shape part = [] ↔ ∃ content, part = made content) :
    Fits fields (name, shape) ↔ ∃ content, field? fields name = some (made content) := by
  have any : Fits fields (name, shape) ↔
      ∃ content, field? fields name = some (made content) ∧ True :=
    fits_iff_exists fields name made fun part _ => by simpa using means part
  simpa using any

theorem fits_iff {shape : Shape} : Fits fields (name, shape) ↔ (field? fields name).isSome = true ∧
    ∀ part, field? fields name = some part → violations shape part = [] := by
  unfold Fits
  cases field? fields name <;> simp

/-- An object that may have no other fields than those it needs has just these, and they fit. -/
theorem violations_closed_eq_nil_iff {known : List (String × Shape)} :
    violations (.record (known.map (·.1)) false known) value = [] ↔
      ∃ fields, value = .object fields ∧ HasKeys fields (known.map (·.1)) ∧
        ∀ entry ∈ known, Fits fields entry := by
  rw [violations_record_eq_nil_iff]
  refine exists_congr fun fields => and_congr_right fun _ => ?_
  constructor
  · rintro ⟨needed, closed, fit⟩
    have closed := closed.resolve_left Bool.false_ne_true
    refine ⟨fun name => ⟨closed name, needed name⟩, fun entry member => ?_⟩
    exact fits_iff.mpr ⟨needed entry.1 (List.mem_map_of_mem member), fit entry member⟩
  · rintro ⟨keys, fit⟩
    refine ⟨fun name => (keys name).mpr, .inr fun name => (keys name).mp, ?_⟩
    exact fun entry member => (fits_iff.mp (fit entry member)).2

end Json.Shape

namespace Report

open Json Shape

/-! ### The format -/

structure IsStats (fields : List (String × Json)) : Prop where
  keys : HasKeys fields ["projects_seen", "sources", "pages_fetched", "api_calls"]
  counts : ∀ name value, field? fields name = some value → ∃ count : Nat, value = .whole count

structure IsRun (fields : List (String × Json)) : Prop where
  keys : HasKeys fields ["started_at", "finished_at", "navigator_id", "server_url", "web_uri",
    "api_uri", "stopped_early", "stats"]
  texts : ∀ name ∈ ["started_at", "finished_at", "server_url", "web_uri", "api_uri"],
    ∃ text, field? fields name = some (.text text)
  navigator : ∃ text, field? fields "navigator_id" = some (.text text) ∧ text ≠ ""
  stopped : ∃ truth, field? fields "stopped_early" = some (.bool truth)
  stats : ∃ counts, field? fields "stats" = some (.object counts) ∧ IsStats counts

structure IsSource (fields : List (String × Json)) : Prop where
  id : ∃ text, field? fields "id" = some (.text text)
  project : ∃ text, field? fields "project_name" = some (.text text) ∧ text ≠ ""
  address : ∃ text, field? fields "remote_url" = some (.text text)
  traits : ∃ items, field? fields "traits" = some (.list items)
  insecure : ∀ value, field? fields "insecure_https" = some value → ∃ truth, value = .bool truth
  credentials : ∀ value, field? fields "credentials_id" = some value →
    value = .null ∨ ∃ text, value = .text text

structure IsReport (fields : List (String × Json)) : Prop where
  keys : HasKeys fields ["run", "sources"]
  run : ∃ parts, field? fields "run" = some (.object parts) ∧ IsRun parts
  sources : ∃ items, field? fields "sources" = some (.list items) ∧
    ∀ item ∈ items, ∃ parts, item = .object parts ∧ IsSource parts

variable {value : Json}

theorem violations_anyText_eq_nil_iff :
    violations anyText value = [] ↔ ∃ text, value = .text text := by
  rw [anyText, violations_oneOf_eq_nil_iff]
  cases value <;> simp [isOfKind, kind]

theorem violations_bool_eq_nil_iff :
    violations (.oneOf [.bool]) value = [] ↔ ∃ truth, value = .bool truth := by
  rw [violations_oneOf_eq_nil_iff]
  cases value <;> simp [isOfKind, kind]

theorem violations_list_eq_nil_iff :
    violations (.oneOf [.list]) value = [] ↔ ∃ items, value = .list items := by
  rw [violations_oneOf_eq_nil_iff]
  cases value <;> simp [isOfKind, kind]

theorem violations_textOrNull_eq_nil_iff :
    violations (.oneOf [.text, .null]) value = [] ↔ value = .null ∨ ∃ text, value = .text text := by
  rw [violations_oneOf_eq_nil_iff]
  cases value <;> simp [isOfKind, kind]

theorem violations_nonempty_eq_nil_iff :
    violations (.text 1) value = [] ↔ ∃ text, value = .text text ∧ text ≠ "" := by
  rw [violations_text_eq_nil_iff]
  refine exists_congr fun text => and_congr_right fun _ => ?_
  rw [Nat.one_le_iff_ne_zero, ne_eq, String.length_eq_zero_iff]

theorem violations_statsShape_eq_nil_iff (free : value.IsFloatFree) :
    violations statsShape value = [] ↔ ∃ fields, value = .object fields ∧ IsStats fields := by
  let names := ["projects_seen", "sources", "pages_fetched", "api_calls"]
  let known : List (String × Shape) := names.map fun name => (name, .count 0)
  have shape : statsShape = .record (known.map (·.1)) false known := rfl
  rw [shape, violations_closed_eq_nil_iff]
  refine exists_congr fun fields => and_congr_right ?_
  rintro rfl
  constructor
  · rintro ⟨keys, fit⟩
    refine ⟨keys, fun name part found => ?_⟩
    have listed : name ∈ names := (keys name).mp (found ▸ rfl)
    obtain ⟨own, same, fits⟩ := fit (name, .count 0) (List.mem_map_of_mem listed)
    cases found.symm.trans same
    obtain ⟨number, rfl, positive⟩ :=
      (violations_count_eq_nil_iff (free.of_field? found)).mp fits
    exact ⟨number.toNat, congrArg Json.whole (Int.toNat_of_nonneg positive).symm⟩
  · rintro ⟨keys, counts⟩
    refine ⟨keys, fun entry member => ?_⟩
    obtain ⟨name, listed, rfl⟩ := List.mem_map.mp member
    obtain ⟨part, found⟩ := Option.isSome_iff_exists.mp ((keys name).mpr listed)
    obtain ⟨count, rfl⟩ := counts name part found
    exact ⟨_, found, violations_count (Int.natCast_nonneg count)⟩

theorem violations_runShape_eq_nil_iff (free : value.IsFloatFree) :
    violations runShape value = [] ↔ ∃ fields, value = .object fields ∧ IsRun fields := by
  let known : List (String × Shape) := [("started_at", anyText), ("finished_at", anyText),
    ("navigator_id", .text 1), ("server_url", anyText), ("web_uri", anyText), ("api_uri", anyText),
    ("stopped_early", .oneOf [.bool]), ("stats", statsShape)]
  have shape : runShape = .record (known.map (·.1)) false known := rfl
  rw [shape, violations_closed_eq_nil_iff]
  refine exists_congr fun fields => and_congr_right ?_
  rintro rfl
  have text (name : String) := fits_kind_iff fields name Json.text
    fun _ => violations_anyText_eq_nil_iff
  have navigator := fits_iff_exists fields "navigator_id" Json.text
    fun _ _ => violations_nonempty_eq_nil_iff
  have stopped := fits_kind_iff fields "stopped_early" Json.bool
    fun _ => violations_bool_eq_nil_iff
  have stats := fits_iff_exists fields "stats" Json.object
    fun _ found => violations_statsShape_eq_nil_iff (free.of_field? found)
  simp only [known, List.forall_mem_cons, text, navigator, stopped, stats]
  constructor
  · rintro ⟨keys, started, finished, named, server, web, api, early, counts, -⟩
    refine ⟨keys, ?_, named, early, counts⟩
    simp only [List.forall_mem_cons]
    exact ⟨started, finished, server, web, api, List.forall_mem_nil _⟩
  · rintro ⟨keys, texts, named, early, counts⟩
    simp only [List.forall_mem_cons] at texts
    obtain ⟨started, finished, server, web, api, -⟩ := texts
    exact ⟨keys, started, finished, named, server, web, api, early, counts, List.forall_mem_nil _⟩

theorem violations_candidateShape_eq_nil_iff :
    violations candidateShape value = [] ↔ ∃ fields, value = .object fields ∧ IsSource fields := by
  rw [candidateShape, violations_record_eq_nil_iff]
  refine exists_congr fun fields => and_congr_right fun _ => ?_
  have text (name : String) := fits_kind_iff fields name Json.text
    fun _ => violations_anyText_eq_nil_iff
  have project := fits_iff_exists fields "project_name" Json.text
    fun _ _ => violations_nonempty_eq_nil_iff
  have traits := fits_kind_iff fields "traits" Json.list
    fun _ => violations_list_eq_nil_iff
  simp only [fits_iff] at text project traits
  simp only [List.forall_mem_cons, violations_bool_eq_nil_iff, violations_textOrNull_eq_nil_iff]
  constructor
  · rintro ⟨⟨id, name, address, list, -⟩, -, isText, isName, isAddress, insecure, credentials,
      isList, -⟩
    exact ⟨(text "id").mp ⟨id, isText⟩, project.mp ⟨name, isName⟩,
      (text "remote_url").mp ⟨address, isAddress⟩, traits.mp ⟨list, isList⟩, insecure, credentials⟩
  · rintro ⟨id, name, address, list, insecure, credentials⟩
    obtain ⟨id, isText⟩ := (text "id").mpr id
    obtain ⟨name, isName⟩ := project.mpr name
    obtain ⟨address, isAddress⟩ := (text "remote_url").mpr address
    obtain ⟨list, isList⟩ := traits.mpr list
    exact ⟨⟨id, name, address, list, List.forall_mem_nil _⟩, .inl trivial, isText, isName, isAddress,
      insecure, credentials, isList, List.forall_mem_nil _⟩

theorem violations_shape_eq_nil_iff (free : value.IsFloatFree) :
    violations shape value = [] ↔ ∃ fields, value = .object fields ∧ IsReport fields := by
  let known : List (String × Shape) := [("run", runShape), ("sources", .listOf candidateShape)]
  have closed : shape = .record (known.map (·.1)) false known := rfl
  rw [closed, violations_closed_eq_nil_iff]
  refine exists_congr fun fields => and_congr_right ?_
  rintro rfl
  have run := fits_iff_exists fields "run" Json.object
    fun _ found => violations_runShape_eq_nil_iff (free.of_field? found)
  have sources : Fits fields ("sources", .listOf candidateShape) ↔
      ∃ items, field? fields "sources" = some (.list items) ∧
        ∀ item ∈ items, violations candidateShape item = [] :=
    fits_iff_exists fields "sources" Json.list fun _ _ => violations_listOf_eq_nil_iff
  simp only [violations_candidateShape_eq_nil_iff] at sources
  simp only [known, List.forall_mem_cons, run, sources]
  constructor
  · rintro ⟨keys, parts, items, -⟩
    exact ⟨keys, parts, items⟩
  · rintro ⟨keys, parts, items⟩
    exact ⟨keys, parts, items, List.forall_mem_nil _⟩

/-- Nothing is wrong with a value without floats exactly if it has the format of reports. -/
theorem problems_eq_nil_iff (value : Json) (free : value.IsFloatFree) :
    problems value = [] ↔ ∃ fields, value = .object fields ∧ IsReport fields := by
  unfold problems
  rw [List.map_eq_nil_iff, violations_shape_eq_nil_iff free]

def sample (seen : Json) : Json :=
  .object
    [("sources", .list [.object [("id", .text "n::a"), ("project_name", .text "a"),
      ("remote_url", .text ""), ("traits", .list [.whole 1, .null]), ("credentials_id", .null),
      ("owner", .whole 7)]]),
    ("run", .object [("started_at", .text ""), ("finished_at", .text "soon"),
      ("navigator_id", .text "n"), ("server_url", .text ""), ("web_uri", .text ""),
      ("api_uri", .text ""), ("stopped_early", .bool false),
      ("stats", .object [("projects_seen", seen), ("sources", .whole 1), ("pages_fetched", .whole 0),
        ("api_calls", .whole 2)])])]

/-- A truth value is no count. -/
theorem problems_eq_nil_iff_sample :
    (sample (.whole 1)).IsFloatFree ∧ (sample (.bool true)).IsFloatFree ∧
      (∃ fields, sample (.whole 1) = .object fields ∧ IsReport fields) ∧
      problems (sample (.bool true)) ≠ [] := by
  have counted : (sample (.whole 1)).IsFloatFree := by simp [sample]
  have claimed : (sample (.bool true)).IsFloatFree := by simp [sample]
  have accepted : problems (sample (.whole 1)) = [] := by decide +kernel
  refine ⟨counted, claimed, (problems_eq_nil_iff _ counted).mp accepted, ?_⟩
  rw [ne_eq, problems_eq_nil_iff _ claimed]
  rintro ⟨fields, same, report⟩
  cases same
  obtain ⟨parts, isPart, run⟩ := report.run
  cases isPart
  obtain ⟨counts, areCounts, stats⟩ := run.stats
  cases areCounts
  obtain ⟨count, isCount⟩ := stats.counts "projects_seen" _ rfl
  cases isCount

end Report

end ProjectScan
