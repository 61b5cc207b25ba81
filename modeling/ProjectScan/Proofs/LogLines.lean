import ProjectScan.Log.Line
import ProjectScan.Proofs.DistinctKeys
import ProjectScan.Proofs.Remarks
import ProjectScan.Proofs.WrittenJson

/-!
Lines for machines. A line holds no control character and is read back as one object: the fields of
the record, over them the fixed ones, over these the context, and over all the failure. A field stands
where its name came first.
-/

namespace ProjectScan

namespace Json

theorem eraseDups_of_nodup {names : List String} (distinct : names.Nodup) :
    names.eraseDups = names := by
  induction names with
  | nil => rfl
  | cons name rest ih =>
      obtain ⟨absent, distinct⟩ := List.nodup_cons.mp distinct
      have kept : rest.filter (fun other => !other == name) = rest := by
        rw [List.filter_eq_self]
        intro other member
        have different : other ≠ name := fun same => absent (same ▸ member)
        simpa using different
      rw [List.eraseDups_cons, kept, ih distinct]

theorem eraseDups_append_cons {names more : List String} {name : String} (known : name ∈ names) :
    (names ++ name :: more).eraseDups = (names ++ more).eraseDups := by
  have removed : (name :: more).removeAll names = more.removeAll names := by
    unfold List.removeAll
    rw [List.filter_cons_of_neg]
    simpa using known
  rw [List.eraseDups_append, List.eraseDups_append, removed]

theorem nodup_setFields {fields : List (String × Json)} (distinct : (fields.map (·.1)).Nodup)
    (more : List (String × Json)) : ((setFields fields more).map (·.1)).Nodup := by
  induction more generalizing fields with
  | nil => exact distinct
  | cons field rest ih => exact ih (nodup_setField distinct field.1 field.2)

theorem keys_setFields {fields : List (String × Json)} (distinct : (fields.map (·.1)).Nodup)
    (more : List (String × Json)) :
    (setFields fields more).map (·.1) = (fields.map (·.1) ++ more.map (·.1)).eraseDups := by
  induction more generalizing fields with
  | nil =>
      rw [List.map_nil, List.append_nil, eraseDups_of_nodup distinct]
      rfl
  | cons field rest ih =>
      obtain ⟨key, value⟩ := field
      change (setFields (setField fields key value) rest).map (·.1) = _
      rw [ih (nodup_setField distinct key value), keys_setField, List.map_cons]
      split
      · rename_i known
        rw [eraseDups_append_cons known]
      · rw [List.append_assoc, List.singleton_append]

theorem mem_setField {fields : List (String × Json)} {key : String} {value : Json}
    {field : String × Json} (member : field ∈ setField fields key value) :
    field ∈ fields ∨ field.2 = value := by
  induction fields with
  | nil =>
      right
      rw [List.mem_singleton.mp member]
  | cons head rest ih =>
      obtain ⟨name, old⟩ := head
      unfold setField at member
      split at member
      · rcases List.mem_cons.mp member with rfl | later
        · exact .inr rfl
        · exact .inl (List.mem_cons_of_mem _ later)
      · rcases List.mem_cons.mp member with rfl | later
        · exact .inl List.mem_cons_self
        · exact (ih later).imp_left (List.mem_cons_of_mem _)

theorem forall_setFields {P : Json → Prop} {fields more : List (String × Json)}
    (old : ∀ field ∈ fields, P field.2) (new : ∀ field ∈ more, P field.2) :
    ∀ field ∈ setFields fields more, P field.2 := by
  induction more generalizing fields with
  | nil => exact old
  | cons head rest ih =>
      rw [List.forall_mem_cons] at new
      apply ih _ new.2
      intro field member
      rcases mem_setField member with among | same
      · exact old field among
      · rw [same]
        exact new.1

end Json

namespace Log

def baseFields (record : Record) (origin : Origin) (time : Timestamp) (message : String) :
    List (String × Json) := [
  ("timestamp", .text time.text), ("level", .text (levelName record.level)),
  ("logger", .text record.logger), ("message", .text message),
  ("module", .text (moduleName origin.path)),
  ("function", match origin.function with
    | none => .null
    | some name => .text name),
  ("line", .whole origin.line), ("thread", .text origin.thread)]

def baseNames : List String :=
  ["timestamp", "level", "logger", "message", "module", "function", "line", "thread"]

def failureFields (origin : Origin) : List (String × Json) :=
  (origin.failure.map fun failure => ("exception", failureObject failure)).toList

/-- The fields of a line: a field stands where its name came first. It tells of the failure if that is
its name, else it is of the context, else a fixed one, else one that every line has. -/
structure Merges (fixed : List (String × Json)) (record : Record) (origin : Origin)
    (base fields : List (String × Json)) : Prop where
  keys : fields.map (·.1) = (base.map (·.1) ++ (fixed.map (·.1) ++
    (contextFields.filter fun name => (Json.field? record.fields name).isSome) ++
    if origin.failure.isSome then ["exception"] else [])).eraseDups
  value : ∀ key, Json.field? fields key =
    (if key = "exception" then origin.failure.map failureObject else none).or
      ((if key ∈ contextFields then Json.field? record.fields key else none).or
        ((Json.field? fixed key).or (Json.field? base key)))

section Line

variable {fixed : List (String × Json)} {record : Record} {origin : Origin} (time : Timestamp)
  (message : String)

theorem structuredFields_eq :
    structuredFields fixed record origin time message =
      Json.setFields (Json.setFields (Json.setFields (baseFields record origin time message) fixed)
        record.context) (failureFields origin) := by
  unfold structuredFields failureFields
  cases origin.failure <;> rfl

theorem structuredFields_eq_append :
    structuredFields fixed record origin time message =
      Json.setFields (baseFields record origin time message)
        (fixed ++ record.context ++ failureFields origin) := by
  rw [structuredFields_eq]
  unfold Json.setFields
  rw [List.foldl_append, List.foldl_append]

theorem keys_baseFields : (baseFields record origin time message).map (·.1) = baseNames := rfl

theorem keys_context (record : Record) : record.context.map (·.1) =
    contextFields.filter fun name => (Json.field? record.fields name).isSome := by
  unfold Record.context
  induction contextFields with
  | nil => rfl
  | cons name rest ih =>
      cases given : Json.field? record.fields name with
      | none => simp [given, ih]
      | some value => simp [given, ih]

theorem field?_context (record : Record) (key : String) : Json.field? record.context key =
    if key ∈ contextFields then Json.field? record.fields key else none := by
  unfold Record.context
  induction contextFields with
  | nil => rfl
  | cons name rest ih =>
      cases given : Json.field? record.fields name with
      | none =>
          by_cases here : key = name
          · subst here
            simp [given, ih]
          · simp [given, ih, here]
      | some value =>
          by_cases here : key = name
          · subst here
            simp [given, Json.field?]
          · simp [given, ih, Json.field?, here, Ne.symm here]

theorem keys_failureFields (origin : Origin) : (failureFields origin).map (·.1) =
    if origin.failure.isSome then ["exception"] else [] := by
  unfold failureFields
  cases origin.failure <;> rfl

theorem field?_failureFields (origin : Origin) (key : String) :
    Json.field? (failureFields origin) key =
      if key = "exception" then origin.failure.map failureObject else none := by
  unfold failureFields
  cases origin.failure with
  | none => exact (ite_self none).symm
  | some failure =>
      by_cases here : key = "exception"
      · subst here
        rfl
      · rw [if_neg here]
        exact if_neg (Ne.symm here)

variable (plainFixed : (Json.object fixed).IsPlain)
  (plainContext : ∀ name ∈ contextFields, ∀ value,
    Json.field? record.fields name = some value → value.IsPlain)
  (plainNumber : (Json.whole origin.line).IsPlain)

theorem isPlain_failureObject (failure : Failure) : (failureObject failure).IsPlain := by
  have trace : ∀ item ∈ [Json.text (traced failure)], item.IsPlain := by
    intro item member
    rw [List.mem_singleton.mp member]
    exact .text _
  have names : (["type", "message", "traceback"] : List String).Nodup := by decide
  refine .object names ?_
  intro field member
  simp only [List.mem_cons, List.not_mem_nil, or_false] at member
  rcases member with rfl | rfl | rfl
  · exact .text _
  · exact .text _
  · exact .list trace

include plainNumber in
theorem isPlain_baseFields :
    ∀ field ∈ baseFields record origin time message, field.2.IsPlain := by
  intro field member
  simp only [baseFields, List.mem_cons, List.not_mem_nil, or_false] at member
  rcases member with rfl | rfl | rfl | rfl | rfl | rfl | rfl | rfl
  case inr.inr.inr.inr.inr.inl =>
    cases origin.function with
    | none => exact .null
    | some name => exact .text name
  case inr.inr.inr.inr.inr.inr.inl => exact plainNumber
  all_goals exact .text _

include plainContext in
theorem isPlain_context : ∀ field ∈ record.context, field.2.IsPlain := by
  intro field member
  obtain ⟨name, known, given⟩ := List.mem_filterMap.mp member
  obtain ⟨value, found, rfl⟩ := Option.map_eq_some_iff.mp given
  exact plainContext name known value found

include plainFixed plainContext plainNumber in
theorem isPlain_structuredFields :
    (Json.object (structuredFields fixed record origin time message)).IsPlain := by
  have distinct : ((baseFields record origin time message).map (·.1)).Nodup := by
    rw [keys_baseFields]
    decide
  have values : ∀ field ∈ fixed ++ record.context ++ failureFields origin, field.2.IsPlain := by
    intro field member
    rw [List.mem_append, List.mem_append] at member
    rcases member with (among | among) | among
    · cases plainFixed with
      | object _ each => exact each field among
    · exact isPlain_context plainContext field among
    · obtain ⟨failure, _, same⟩ := Option.map_eq_some_iff.mp (Option.mem_toList.mp among)
      rw [← same]
      exact isPlain_failureObject failure
  rw [structuredFields_eq_append]
  exact .object (Json.nodup_setFields distinct _)
    (Json.forall_setFields (isPlain_baseFields time message plainNumber) values)

include plainFixed in
theorem merges_structuredFields : Merges fixed record origin (baseFields record origin time message)
    (structuredFields fixed record origin time message) where
  keys := by
    have distinct : ((baseFields record origin time message).map (·.1)).Nodup := by
      rw [keys_baseFields]
      decide
    rw [structuredFields_eq_append, Json.keys_setFields distinct, List.map_append, List.map_append,
      keys_context, keys_failureFields]
  value key := by
    have fixedKeys : (fixed.map (·.1)).Nodup := by
      cases plainFixed with
      | object distinct _ => exact distinct
    have contextKeys : (record.context.map (·.1)).Nodup := by
      rw [keys_context]
      have known : contextFields.Nodup := by decide
      exact known.filter _
    have failureKeys : ((failureFields origin).map (·.1)).Nodup := by
      rw [keys_failureFields]
      split <;> decide
    rw [structuredFields_eq, Json.field?_setFields failureKeys, Json.field?_setFields contextKeys,
      Json.field?_setFields fixedKeys, field?_failureFields, field?_context]

end Line

end Log

end ProjectScan
