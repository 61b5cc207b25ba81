import ProjectScan.Proofs.CredentialFiles
import ProjectScan.Proofs.Lookup

/-!
What credential stores hold after any operations on them. Stores are filled one credential after the
other, loaded at once and merged, and some operations fail. A look-up finds the first credential that
fits in the order in which the credentials came in, those of the left store before those of the right
one; an operation that fails leaves no trace in any store.
-/

namespace ProjectScan

namespace Store

/-- An operation on stores, each of which has a name. The result is put under the first name. -/
inductive Operation where
  | add (name id username password : String) (scope : Option String)
  | fill (name : String) (records : List Json)
  | read (name path : String) (content : Except Failure (List Char)) (room : Nat)
  | adopt (name : String) (environment : Environment)
  | merge (name left right : String)

structure Shelf where
  stores : String → Store
  journal : Log.Journal

namespace Operation

def target : Operation → String
  | .add name _ _ _ _ | .fill name _ | .read name _ _ _ | .adopt name _ | .merge name _ _ => name

def outcome (operation : Operation) (shelf : Shelf) : Except Failure Store × Log.Journal :=
  match operation with
  | .add name id username password scope =>
      (.ok ((shelf.stores name).add ⟨.text id, .ofTexts username password, scope.map .text⟩),
        shelf.journal)
  | .fill _ records => (ofRecords (.list records), shelf.journal)
  | .read _ path content room => load path content shelf.journal room
  | .adopt _ environment => (.ok (ofEnvironment environment), shelf.journal)
  | .merge _ left right => (.ok ((shelf.stores left).merged (shelf.stores right)), shelf.journal)

def perform (operation : Operation) (shelf : Shelf) : Except Failure Unit × Shelf :=
  match operation.outcome shelf with
  | (.error failure, journal) => (.error failure, { shelf with journal })
  | (.ok store, journal) =>
      (.ok (), ⟨fun name => if name = operation.target then store else shelf.stores name, journal⟩)

end Operation

/-- The shelf after a history, the latest operation of which comes first. All stores are empty at the
start. -/
def Shelf.after (journal : Log.Journal) : List Operation → Shelf
  | [] => ⟨fun _ => .empty, journal⟩
  | operation :: earlier => (operation.perform (Shelf.after journal earlier)).2

/-- The records of a file that holds a list, read with room for so many containers. -/
def recordsIn? (room : Nat) (content : Except Failure (List Char)) : Option (List Json) :=
  match content.map fun text => Json.readWithin room (Text.plainLines text) with
  | .ok (.ok (.list records)) => some records
  | _ => none

def broughtBy (records : List Json) : Option (List StoredCredential) :=
  if records.all isComplete then some (records.map registered) else none

/-- The entries that an operation leaves under its name, given the entries so far; none if it fails. -/
def Operation.brings? (earlier : String → List StoredCredential) :
    Operation → Option (List StoredCredential)
  | .add name id username password scope =>
      some (earlier name ++ [⟨.text id, .ofTexts username password, scope.map .text⟩])
  | .fill _ records => broughtBy records
  | .read _ _ content room => (recordsIn? room content).bind broughtBy
  | .adopt _ environment => some (ofEnvironment environment).entries
  | .merge _ left right => some (earlier left ++ earlier right)

/-- The entries under a name in the order of their addition, after a history with the latest operation
first. -/
def additions : List Operation → String → List StoredCredential
  | [], _ => []
  | operation :: earlier, name =>
      if name = operation.target then
        (operation.brings? (additions earlier)).getD (additions earlier name)
      else additions earlier name

theorem toOption_entriesOfRecords (index : Nat) (records : List Json) :
    (entriesOfRecords index records).toOption = broughtBy records := by
  have complete : firstFlawed? records = none ↔ records.all isComplete = true := by
    simp [firstFlawed?, List.find?_eq_none]
  unfold broughtBy
  rcases entriesOfRecords_cases index records with ⟨none, reads⟩ | ⟨record, failure, first, fails, _⟩
  · rw [reads, if_pos (complete.mp none)]
    rfl
  · have flawed : ¬records.all isComplete = true := by
      rw [← complete, first]
      exact Option.some_ne_none record
    rw [fails, if_neg flawed]
    rfl

theorem toOption_ofRecords (records : List Json) :
    (ofRecords (.list records)).toOption.map (·.entries) = broughtBy records := by
  rw [← toOption_entriesOfRecords 0]
  unfold ofRecords
  dsimp only [Json.elements?]
  cases entriesOfRecords 0 records <;> rfl

theorem Operation.toOption_outcome (operation : Operation) (shelf : Shelf) :
    (operation.outcome shelf).1.toOption.map (·.entries) =
      operation.brings? fun name => (shelf.stores name).entries := by
  cases operation with
  | fill name records => exact toOption_ofRecords records
  | read name path content room =>
      cases content with
      | error failure => rfl
      | ok text =>
          dsimp only [outcome, brings?, recordsIn?, load, ofFile, Except.map]
          cases Json.readWithin room (Text.plainLines text) with
          | error fault => rfl
          | ok value =>
              cases value with
              | list records =>
                  dsimp only [Option.bind_some]
                  rw [← toOption_ofRecords]
                  cases ofRecords (.list records) <;> rfl
              | _ => rfl
  | _ => rfl

theorem Operation.stores_of_error {operation : Operation} {shelf : Shelf} {failure : Failure}
    (fails : (operation.perform shelf).1 = .error failure) :
    (operation.perform shelf).2.stores = shelf.stores := by
  unfold perform at fails ⊢
  generalize operation.outcome shelf = made at fails ⊢
  obtain ⟨result, noted⟩ := made
  cases result with
  | error failure => rfl
  | ok store => cases fails

theorem entries_after (journal : Log.Journal) (history : List Operation) (name : String) :
    ((Shelf.after journal history).stores name).entries = additions history name := by
  induction history generalizing name with
  | nil => rfl
  | cons operation earlier ih =>
      have brings := operation.toOption_outcome (Shelf.after journal earlier)
      rw [funext ih] at brings
      unfold additions Shelf.after Operation.perform
      generalize operation.outcome (Shelf.after journal earlier) = made at brings ⊢
      obtain ⟨result, noted⟩ := made
      cases result with
      | error failure =>
          change none = _ at brings
          rw [← brings]
          dsimp only [Option.getD_none]
          rw [ih, ite_self]
      | ok store =>
          change some store.entries = _ at brings
          rw [← brings]
          dsimp only [Option.getD_some]
          split
          · rfl
          · exact ih name

/-- The record is an object with a text as its scope, or without a scope. -/
def IsPlainRecord (record : Json) : Prop :=
  ∃ fields, record = .object fields ∧
    (fieldOrNull fields "url" = .null ∨ ∃ scope, fieldOrNull fields "url" = .text scope)

/-- All records that the operation is given, or finds in a file, are plain. -/
def Operation.IsPlain : Operation → Prop
  | .fill _ records => ∀ record ∈ records, IsPlainRecord record
  | .read _ _ content room =>
      ∀ records, recordsIn? room content = some records → ∀ record ∈ records, IsPlainRecord record
  | _ => True

theorem IsPlainRecord.registered {record : Json} (plain : IsPlainRecord record) :
    (registered record).HasTextScope := by
  intro scope given
  obtain ⟨fields, rfl, url⟩ := plain
  change (if (fieldOrNull fields "url").isTrue then some (fieldOrNull fields "url") else none) =
    some scope at given
  split at given
  · obtain rfl := Option.some.inj given
    rcases url with null | text
    · rename_i counts
      rw [null] at counts
      cases counts
    · exact text
  · cases given

theorem textual_of_broughtBy {records : List Json} {entries : List StoredCredential}
    (plain : ∀ record ∈ records, IsPlainRecord record) (brought : broughtBy records = some entries) :
    ∀ entry ∈ entries, entry.HasTextScope := by
  unfold broughtBy at brought
  split at brought
  · obtain rfl := Option.some.inj brought
    intro entry member
    obtain ⟨record, among, rfl⟩ := List.mem_map.mp member
    exact (plain record among).registered
  · cases brought

theorem Operation.IsPlain.brings {operation : Operation} (plain : operation.IsPlain)
    {earlier : String → List StoredCredential}
    (before : ∀ name, ∀ entry ∈ earlier name, entry.HasTextScope)
    {entries : List StoredCredential} (brought : operation.brings? earlier = some entries) :
    ∀ entry ∈ entries, entry.HasTextScope := by
  cases operation with
  | add name id username password scope =>
      obtain rfl := Option.some.inj brought
      rw [List.forall_mem_append]
      refine ⟨before name, List.forall_mem_singleton.mpr ?_⟩
      intro value given
      obtain ⟨text, _, rfl⟩ := Option.map_eq_some_iff.mp given
      exact ⟨text, rfl⟩
  | fill name records => exact textual_of_broughtBy plain brought
  | read name path content room =>
      obtain ⟨records, found, brought⟩ := Option.bind_eq_some_iff.mp brought
      exact textual_of_broughtBy (plain records found) brought
  | adopt name environment =>
      obtain rfl := Option.some.inj brought
      unfold ofEnvironment
      split
      · exact List.forall_mem_singleton.mpr nofun
      · exact nofun
  | merge name left right =>
      obtain rfl := Option.some.inj brought
      exact List.forall_mem_append.mpr ⟨before left, before right⟩

theorem textual_additions {history : List Operation}
    (plain : ∀ operation ∈ history, operation.IsPlain) (name : String) :
    ∀ entry ∈ additions history name, entry.HasTextScope := by
  induction history generalizing name with
  | nil => exact nofun
  | cons operation earlier ih =>
      obtain ⟨now, before⟩ := List.forall_mem_cons.mp plain
      unfold additions
      split
      · cases brought : operation.brings? (additions earlier) with
        | none => exact ih before name
        | some entries => exact now.brings (ih before) brought
      · exact ih before name

section Lookups

variable {entries others : List StoredCredential} (serverUrl : String)

def firstFitting? (entries : List StoredCredential) (serverUrl : String) (id : Option String) :
    Option Credential :=
  id.bind fun id => (entries.find? (·.fits serverUrl id)).map (·.credential)

theorem firstFitting?_append (id : Option String) : firstFitting? (entries ++ others) serverUrl id =
    (firstFitting? entries serverUrl id).or (firstFitting? others serverUrl id) := by
  cases id with
  | none => rfl
  | some id =>
      unfold firstFitting?
      dsimp only [Option.bind_some]
      rw [List.find?_append, Option.map_or]

theorem lookup_of_hasTextScope {store : Store} (textual : ∀ entry ∈ store.entries, entry.HasTextScope)
    (id : Option String) (journal : Log.Journal) :
    (store.lookup serverUrl id journal).1 = .ok (firstFitting? store.entries serverUrl id) := by
  cases id with
  | none => rfl
  | some id =>
      rw [lookup_some]
      rcases findIn?_of_hasTextScope textual serverUrl id with looks | ⟨entry, _, looks⟩
      · rw [looks, eq_selected?_of_find? looks]
        rfl
      · rw [looks, eq_selected?_of_find? looks]
        rfl

theorem lookup_merged {left right : Store}
    (textual : ∀ entry ∈ left.entries, entry.HasTextScope)
    (textualToo : ∀ entry ∈ right.entries, entry.HasTextScope) (id : Option String)
    (journal : Log.Journal) :
    ∃ first second, (left.lookup serverUrl id journal).1 = .ok first ∧
      (right.lookup serverUrl id journal).1 = .ok second ∧
      ((left.merged right).lookup serverUrl id journal).1 = .ok (first.or second) := by
  have both : ∀ entry ∈ (left.merged right).entries, entry.HasTextScope :=
    List.forall_mem_append.mpr ⟨textual, textualToo⟩
  refine ⟨_, _, lookup_of_hasTextScope serverUrl textual id journal,
    lookup_of_hasTextScope serverUrl textualToo id journal, ?_⟩
  rw [lookup_of_hasTextScope serverUrl both id journal, entries_merged, firstFitting?_append]

end Lookups

def lacking (fields : List (String × Json)) : List String :=
  requiredFields.filter fun name => !(fieldOrNull fields name).isTrue

theorem entryOfRecord_of_lacking {fields : List (String × Json)} (missing : lacking fields ≠ [])
    {index : Nat} :
    entryOfRecord index (.object fields) = .error (.missingFields index (lacking fields)) := by
  unfold entryOfRecord
  dsimp only
  split
  · rename_i none
    exact absurd none missing
  · rfl

theorem entriesOfRecords_eq_error_iff {records : List Json}
    (objects : ∀ record ∈ records, ∃ fields, record = .object fields) (index : Nat)
    {failure : Failure} :
    entriesOfRecords index records = .error failure ↔
      ∃ before fields after, records = before ++ .object fields :: after ∧
        (∀ record ∈ before, isComplete record = true) ∧ lacking fields ≠ [] ∧
        failure = .missingFields (index + before.length) (lacking fields) := by
  induction records generalizing index with
  | nil => exact ⟨nofun, fun ⟨before, _, _, shape, _⟩ => absurd shape (by simp)⟩
  | cons record rest ih =>
      obtain ⟨⟨fields, rfl⟩, later⟩ := List.forall_mem_cons.mp objects
      have settled := missing_eq_nil_iff fields
      change lacking fields = [] ↔ _ at settled
      by_cases missing : lacking fields = []
      · have complete := settled.mp missing
        have goes : entriesOfRecords index (.object fields :: rest) = .error failure ↔
            entriesOfRecords (index + 1) rest = .error failure := by
          rw [entriesOfRecords, entryOfRecord_of_isComplete complete]
          cases entriesOfRecords (index + 1) rest <;> simp [Except.map]
        rw [goes, ih later]
        constructor
        · rintro ⟨before, flawed, after, rfl, whole, lacks, same⟩
          refine ⟨.object fields :: before, flawed, after, rfl, ?_, lacks, ?_⟩
          · exact List.forall_mem_cons.mpr ⟨complete, whole⟩
          · rw [same, List.length_cons, Nat.add_right_comm, Nat.add_assoc]
        · rintro ⟨before, flawed, after, shape, whole, lacks, same⟩
          cases before with
          | nil =>
              obtain ⟨rfl, -⟩ : fields = flawed ∧ rest = after := by simpa using shape
              exact absurd missing lacks
          | cons first before =>
              obtain ⟨-, rfl⟩ := List.cons_eq_cons.mp shape
              refine ⟨before, flawed, after, rfl, (List.forall_mem_cons.mp whole).2, lacks, ?_⟩
              rw [same, List.length_cons, Nat.add_right_comm, Nat.add_assoc]
      · have fails : entriesOfRecords index (.object fields :: rest) =
            .error (.missingFields index (lacking fields)) := by
          rw [entriesOfRecords, entryOfRecord_of_lacking missing]
        rw [fails]
        constructor
        · intro same
          obtain rfl := Except.error.inj same
          exact ⟨[], fields, rest, rfl, nofun, missing, rfl⟩
        · rintro ⟨before, flawed, after, shape, whole, lacks, same⟩
          cases before with
          | nil =>
              obtain ⟨rfl, -⟩ : fields = flawed ∧ rest = after := by simpa using shape
              rw [same]
              rfl
          | cons first before =>
              obtain ⟨rfl, -⟩ := List.cons_eq_cons.mp shape
              exact absurd (settled.mpr (whole _ List.mem_cons_self)) missing

theorem ofRecords_eq_error_iff {records : List Json}
    (plain : ∀ record ∈ records, IsPlainRecord record) {failure : Failure} :
    ofRecords (.list records) = .error failure ↔
      ∃ before fields after, records = before ++ .object fields :: after ∧
        (∀ record ∈ before, isComplete record = true) ∧ lacking fields ≠ [] ∧
        failure = .missingFields before.length (lacking fields) := by
  have objects : ∀ record ∈ records, ∃ fields, record = .object fields := by
    intro record member
    obtain ⟨fields, same, _⟩ := plain record member
    exact ⟨fields, same⟩
  have reads := @entriesOfRecords_eq_error_iff records objects 0 failure
  simp only [Nat.zero_add] at reads
  rw [← reads]
  unfold ofRecords
  dsimp only [Json.elements?]
  cases entriesOfRecords 0 records <;> simp [Except.map]

/-! ### Histories -/

/-- After any history of plain operations, a look-up finds the credential of the first entry that fits,
in the order of addition. So a merged store is searched like the left one and then like the right one,
in whatever way the merging is grouped. An operation that fails leaves all stores as they are, and
loading records fails exactly if one of them lacks a field: with the index of the first such record and
what it lacks. -/
theorem lookup_after (begun : Log.Journal) {history : List Operation}
    (plain : ∀ operation ∈ history, operation.IsPlain) :
    let shelf := Shelf.after begun history
    (∀ name serverUrl id journal, ((shelf.stores name).lookup serverUrl id journal).1 =
      .ok (firstFitting? (additions history name) serverUrl id)) ∧
    (∀ left right serverUrl id journal, ∃ first second,
      ((shelf.stores left).lookup serverUrl id journal).1 = .ok first ∧
      ((shelf.stores right).lookup serverUrl id journal).1 = .ok second ∧
      (((shelf.stores left).merged (shelf.stores right)).lookup serverUrl id journal).1 =
        .ok (first.or second)) ∧
    (∀ left middle right : Store,
      (left.merged middle).merged right = left.merged (middle.merged right) ∧
      empty.merged left = left ∧ left.merged empty = left) ∧
    (∀ (operation : Operation) failure, (operation.perform shelf).1 = .error failure →
      (operation.perform shelf).2.stores = shelf.stores) ∧
    ∀ records, (∀ record ∈ records, IsPlainRecord record) → ∀ failure,
      ofRecords (.list records) = .error failure ↔
        ∃ before fields after, records = before ++ .object fields :: after ∧
          (∀ record ∈ before, isComplete record = true) ∧ lacking fields ≠ [] ∧
          failure = .missingFields before.length (lacking fields) := by
  intro shelf
  have scopes (name : String) : ∀ entry ∈ (shelf.stores name).entries, entry.HasTextScope := by
    rw [entries_after]
    exact textual_additions plain name
  refine ⟨?_, ?_, ?_, ?_, ?_⟩
  · intro name serverUrl id journal
    rw [lookup_of_hasTextScope serverUrl (scopes name), entries_after]
  · intro left right serverUrl id journal
    exact lookup_merged serverUrl (scopes left) (scopes right) id journal
  · intro left middle right
    refine ⟨?_, ?_, ?_⟩
    · exact congrArg Store.mk (List.append_assoc _ _ _)
    · exact congrArg Store.mk (List.nil_append _)
    · exact congrArg Store.mk (List.append_nil _)
  · intro operation failure fails
    exact Operation.stores_of_error fails
  · intro records objects failure
    exact ofRecords_eq_error_iff objects

def openRecord : Json := .object [("id", .text "bot"), ("username", .text "nobody")]

theorem openRecord_isPlain : ∀ record ∈ [openRecord], IsPlainRecord record :=
  List.forall_mem_singleton.mpr ⟨_, rfl, .inl rfl⟩

def overlapping : List Operation :=
  [.merge "all" "loaded" "main", .fill "main" [openRecord], .add "main" "bot" "fallback" "z" none,
    .fill "loaded" [.object [("id", .text "bot"), ("username", .text "right"),
      ("password", .text "y"), ("url", .text "https://h")]]]

theorem overlapping_isPlain : ∀ operation ∈ overlapping, operation.IsPlain := by
  simp only [overlapping, List.forall_mem_cons]
  refine ⟨trivial, openRecord_isPlain, trivial, ?_, nofun⟩
  exact List.forall_mem_singleton.mpr ⟨_, rfl, .inr ⟨"https://h", rfl⟩⟩

theorem lookup_after_overlapping :
    let shelf := Shelf.after (.empty 0) overlapping
    ((shelf.stores "all").lookup "https://h/x" (some "bot") (.empty 0)).1 =
        .ok (some (.ofTexts "right" "y")) ∧
      ((shelf.stores "all").lookup "https://other" (some "bot") (.empty 0)).1 =
        .ok (some (.ofTexts "fallback" "z")) ∧
      ((shelf.stores "main").lookup "https://h/x" (some "bot") (.empty 0)).1 =
        .ok (some (.ofTexts "fallback" "z")) ∧
      ofRecords (.list [openRecord]) = .error (.missingFields 0 ["password"]) := by
  obtain ⟨found, _, _, _, refused⟩ := lookup_after (.empty 0) overlapping_isPlain
  intro shelf
  refine ⟨?_, ?_, ?_, ?_⟩
  · rw [found]
    rfl
  · rw [found]
    rfl
  · rw [found]
    rfl
  · have lacks : lacking [("id", .text "bot"), ("username", .text "nobody")] = ["password"] := by
      decide
    exact (refused [openRecord] openRecord_isPlain _).mpr
      ⟨[], _, [], rfl, nofun, lacks ▸ List.cons_ne_nil _ _, lacks ▸ rfl⟩

end Store

end ProjectScan
