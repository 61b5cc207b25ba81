import ProjectScan.Store

/-!
How a look-up goes over the entries of a store: it ends at the first entry with the id whose scope
does not pass over the address, and fails there if this scope is no text.
-/

namespace ProjectScan

theorem Json.same_text_iff {value : Json} {text : String} :
    value.same (.text text) = true ↔ value = .text text := by
  cases value <;> simp [same, sameNumber]

/-- What a scope says, whatever the address: that the credential applies everywhere, that it applies
to the addresses a text covers, or nothing, since it is another value. -/
inductive Reach where
  | everywhere
  | within (scope : String)
  | misfit (kind : Json.Kind)
  deriving DecidableEq, Repr

def Reach.isText : Reach → Bool
  | .within _ => true
  | .everywhere | .misfit _ => false

namespace StoredCredential

def reach (entry : StoredCredential) : Reach :=
  match entry.scope with
  | none => .everywhere
  | some scope =>
      if scope.isTrue then
        match scope with
        | .text scope => .within scope
        | other => .misfit other.kind
      else .everywhere

theorem appliesTo_eq (entry : StoredCredential) (serverUrl : String) :
    entry.appliesTo serverUrl = match entry.reach with
      | .everywhere => .ok true
      | .within scope => .ok (Scope.covers scope serverUrl)
      | .misfit kind => .error (.misfit (.noAddress kind)) := by
  unfold appliesTo reach
  cases entry.scope with
  | none => rfl
  | some scope =>
      cases counts : scope.isTrue with
      | false => simp [counts]
      | true => cases scope <;> simp [counts]

theorem appliesTo_eq_error {entry : StoredCredential} {serverUrl : String} {failure : Failure}
    (fails : entry.appliesTo serverUrl = .error failure) :
    ∃ kind, entry.reach = .misfit kind ∧ failure = .misfit (.noAddress kind) := by
  rw [appliesTo_eq] at fails
  cases reach : entry.reach with
  | misfit kind =>
      rw [reach] at fails
      cases fails
      exact ⟨kind, rfl, rfl⟩
  | _ =>
      rw [reach] at fails
      cases fails

def HasTextScope (entry : StoredCredential) : Prop :=
  ∀ scope, entry.scope = some scope → ∃ text, scope = .text text

theorem HasTextScope.applies {entry : StoredCredential} (textual : entry.HasTextScope)
    (serverUrl : String) : ∃ verdict, entry.appliesTo serverUrl = .ok verdict := by
  unfold appliesTo
  cases given : entry.scope with
  | none => exact ⟨true, rfl⟩
  | some scope =>
      obtain ⟨text, rfl⟩ := textual scope given
      dsimp only
      split <;> exact ⟨_, rfl⟩

end StoredCredential

namespace Store

/-- A look-up ends at this entry: it has the id, and its scope does not pass over the address. -/
def decides (serverUrl id : String) (entry : StoredCredential) : Bool :=
  entry.id.same (.text id) &&
    match entry.appliesTo serverUrl with
    | .ok false => false
    | _ => true

variable {serverUrl id : String} {entries : List StoredCredential} {entry : StoredCredential}

theorem findIn?_eq (entries : List StoredCredential) (serverUrl id : String) :
    findIn? serverUrl id entries = match entries.find? (decides serverUrl id) with
      | none => .ok none
      | some entry => (entry.appliesTo serverUrl).map fun _ => some entry.credential := by
  induction entries with
  | nil => rfl
  | cons entry rest ih =>
      unfold findIn?
      rw [List.find?_cons]
      by_cases same : entry.id.same (.text id) = true
      · rw [if_pos same]
        cases applies : entry.appliesTo serverUrl with
        | error failure => simp [decides, same, applies, Except.map]
        | ok verdict =>
            cases verdict with
            | true => simp [decides, same, applies, Except.map]
            | false => simpa [decides, same, applies] using ih
      · rw [if_neg same]
        simpa [decides, same] using ih

theorem decides_iff : decides serverUrl id entry = true ↔
    entry.id = .text id ∧ entry.appliesTo serverUrl ≠ .ok false := by
  unfold decides
  rw [Bool.and_eq_true, Json.same_text_iff]
  cases entry.appliesTo serverUrl with
  | error failure => simp
  | ok verdict => cases verdict <;> simp

theorem findIn?_cases (entries : List StoredCredential) (serverUrl id : String) :
    (entries.find? (decides serverUrl id) = none ∧ findIn? serverUrl id entries = .ok none) ∨
    ∃ entry, entries.find? (decides serverUrl id) = some entry ∧ entry.id = .text id ∧
      (entry.appliesTo serverUrl = .ok true ∧
          findIn? serverUrl id entries = .ok (some entry.credential) ∨
        ∃ failure, entry.appliesTo serverUrl = .error failure ∧
          findIn? serverUrl id entries = .error failure) := by
  rw [findIn?_eq]
  cases first : entries.find? (decides serverUrl id) with
  | none => exact .inl ⟨rfl, rfl⟩
  | some entry =>
      obtain ⟨named, verdict⟩ := decides_iff.mp (List.find?_some first)
      refine .inr ⟨entry, rfl, named, ?_⟩
      cases applies : entry.appliesTo serverUrl with
      | error failure => exact .inr ⟨failure, rfl, by simp [applies, Except.map]⟩
      | ok applied =>
          cases applied with
          | true => exact .inl ⟨rfl, by simp [applies, Except.map]⟩
          | false => exact absurd applies verdict

theorem findIn?_of_hasTextScope (textual : ∀ entry ∈ entries, entry.HasTextScope)
    (serverUrl id : String) : findIn? serverUrl id entries = .ok none ∨
      ∃ entry ∈ entries, findIn? serverUrl id entries = .ok (some entry.credential) := by
  rcases findIn?_cases entries serverUrl id with
    ⟨_, looks⟩ | ⟨entry, first, _, ⟨_, looks⟩ | ⟨failure, refuses, _⟩⟩
  · exact .inl looks
  · exact .inr ⟨entry, List.mem_of_find?_eq_some first, looks⟩
  · obtain ⟨verdict, applies⟩ :=
      (textual entry (List.mem_of_find?_eq_some first)).applies serverUrl
    cases refuses.symm.trans applies

theorem find?_of_imp {chosen : StoredCredential → Bool}
    (decisive : ∀ other, chosen other = true → decides serverUrl id other = true)
    (first : entries.find? (decides serverUrl id) = some entry) (own : chosen entry = true) :
    entries.find? chosen = some entry := by
  obtain ⟨_, before, after, parted, passed⟩ := List.find?_eq_some_iff_append.mp first
  refine List.find?_eq_some_iff_append.mpr ⟨own, before, after, parted, ?_⟩
  intro other member
  have idle := passed other member
  rw [Bool.not_eq_true'] at idle ⊢
  apply Bool.eq_false_iff.mpr
  intro chosen
  rw [decisive other chosen] at idle
  cases idle

end Store

end ProjectScan
