import ProjectScan.Command.Discovery
import ProjectScan.Proofs.Entries
import ProjectScan.Proofs.WrittenJson

/-!
What becomes of a credential file. Reading it comes to a store or to a refusal, unless it is too deep
or a record that is no object stands before every record with a missing field. The store can be used
for every look-up, unless an entry whose scope is no text stands before every entry with the same id that has
no scope.
-/

namespace ProjectScan

namespace Store

/-- The entry has the id, and no address lies outside its scope. -/
def isUnbounded (id : String) (entry : StoredCredential) : Bool :=
  entry.id.same (.text id) && !entry.reach.isText

/-- Of the entries with an id, the first that has no text as its scope has no scope at all. -/
def IsGuarded (entries : List StoredCredential) : Prop :=
  ∀ id entry, entries.find? (isUnbounded id) = some entry → entry.reach = .everywhere

def IsUsable (store : Store) : Prop :=
  ∀ serverUrl id journal, ∃ found, (store.lookup serverUrl id journal).1 = .ok found

variable {serverUrl id : String}

theorem decides_of_isUnbounded {entry : StoredCredential} (unbounded : isUnbounded id entry = true) :
    decides serverUrl id entry = true := by
  unfold isUnbounded at unbounded
  unfold decides
  rw [StoredCredential.appliesTo_eq]
  cases reach : entry.reach with
  | within scope => simp [reach, Reach.isText] at unbounded
  | _ => simpa [reach, Reach.isText] using unbounded

theorem decides_of_unreadable (unreadable : Scope.read? serverUrl = none) :
    decides serverUrl id = isUnbounded id := by
  funext entry
  unfold decides isUnbounded
  rw [StoredCredential.appliesTo_eq]
  cases entry.reach with
  | within scope =>
      unfold Scope.covers
      rw [unreadable]
      simp [Reach.isText]
  | _ => rfl

theorem misfit_of_findIn? {entries : List StoredCredential} {failure : Failure}
    (fails : findIn? serverUrl id entries = .error failure) :
    ∃ entry kind, entries.find? (isUnbounded id) = some entry ∧ entry.reach = .misfit kind ∧
      failure = .misfit (.noAddress kind) := by
  rcases findIn?_cases entries serverUrl id with
    ⟨_, looks⟩ | ⟨entry, first, named, ⟨_, looks⟩ | ⟨other, refuses, looks⟩⟩
  · cases fails.symm.trans looks
  · cases fails.symm.trans looks
  · cases fails.symm.trans looks
    obtain ⟨kind, reach, same⟩ := StoredCredential.appliesTo_eq_error refuses
    have unbounded : isUnbounded id entry = true := by
      simp [isUnbounded, Json.same_text_iff, named, reach, Reach.isText]
    exact ⟨entry, kind, find?_of_imp (fun _ => decides_of_isUnbounded) first unbounded, reach, same⟩

theorem lookup_some (store : Store) (serverUrl id : String) (journal : Log.Journal) :
    (store.lookup serverUrl (some id) journal).1 = findIn? serverUrl id store.entries := by
  dsimp only [lookup, find?]
  cases findIn? serverUrl id store.entries with
  | error failure => rfl
  | ok found => cases found <;> rfl

theorem isUsable_iff (store : Store) : store.IsUsable ↔ IsGuarded store.entries := by
  constructor
  · intro usable id entry first
    -- Every text is passed over here, so that the look-up ends at the first entry without one.
    have unreadable : Scope.read? "//[" = none := by decide
    obtain ⟨found, looks⟩ := usable "//[" (some id) (.empty 0)
    rw [lookup_some, findIn?_eq, decides_of_unreadable unreadable, first] at looks
    dsimp only at looks
    rw [StoredCredential.appliesTo_eq] at looks
    have unbounded := List.find?_some first
    cases reach : entry.reach with
    | everywhere => rfl
    | within scope => simp [isUnbounded, reach, Reach.isText] at unbounded
    | misfit kind => simp [reach, Except.map] at looks
  · intro guarded serverUrl id journal
    cases id with
    | none => exact ⟨none, rfl⟩
    | some id =>
        rw [lookup_some]
        cases looks : findIn? serverUrl id store.entries with
        | ok found => exact ⟨found, rfl⟩
        | error failure =>
            obtain ⟨entry, kind, first, reach, _⟩ := misfit_of_findIn? looks
            have unscoped := guarded id entry first
            rw [reach] at unscoped
            cases unscoped

def isComplete : Json → Bool
  | .object fields => requiredFields.all fun name => (fieldOrNull fields name).isTrue
  | _ => false

def registered (record : Json) : StoredCredential :=
  let fields := match record with
    | .object fields => fields
    | _ => []
  let scope := fieldOrNull fields "url"
  ⟨fieldOrNull fields "id", ⟨fieldOrNull fields "username", fieldOrNull fields "password"⟩,
    if scope.isTrue then some scope else none⟩

def firstFlawed? (records : List Json) : Option Json :=
  records.find? fun record => !isComplete record

/-- How a flawed record fails: an object is refused, another value is a misfit. -/
def Rejects (record : Json) (failure : Failure) : Prop :=
  failure.isRefusal = true ∧ record.kind = .object ∨
    failure = .misfit (.noFields record.kind) ∧ record.kind ≠ .object

theorem Rejects.isRefusal_iff {record : Json} {failure : Failure}
    (rejects : Rejects record failure) : failure.isRefusal = true ↔ record.kind = .object := by
  rcases rejects with ⟨refuses, object⟩ | ⟨rfl, other⟩
  · simp only [refuses, object]
  · simp only [Failure.isRefusal, other, Bool.false_eq_true]

theorem missing_eq_nil_iff (fields : List (String × Json)) :
    requiredFields.filter (fun name => !(fieldOrNull fields name).isTrue) = [] ↔
      isComplete (.object fields) = true := by
  simp [List.filter_eq_nil_iff, isComplete]

theorem entryOfRecord_of_isComplete {record : Json} (complete : isComplete record = true)
    (index : Nat) : entryOfRecord index record = .ok (registered record) := by
  cases record with
  | object fields =>
      have nothing := (missing_eq_nil_iff fields).mpr complete
      dsimp only [entryOfRecord]
      rw [nothing]
      rfl
  | _ => cases complete

theorem entryOfRecord_of_flawed {record : Json} (flawed : isComplete record = false) (index : Nat) :
    ∃ failure, entryOfRecord index record = .error failure ∧ Rejects record failure := by
  cases record with
  | object fields =>
      dsimp only [entryOfRecord]
      cases missing : requiredFields.filter fun name => !(fieldOrNull fields name).isTrue with
      | nil =>
          rw [(missing_eq_nil_iff fields).mp missing] at flawed
          cases flawed
      | cons name names => exact ⟨_, rfl, .inl ⟨rfl, rfl⟩⟩
  | _ => exact ⟨_, rfl, .inr ⟨rfl, nofun⟩⟩

theorem entriesOfRecords_cases (index : Nat) (records : List Json) :
    (firstFlawed? records = none ∧
      entriesOfRecords index records = .ok (records.map registered)) ∨
    ∃ record failure, firstFlawed? records = some record ∧
      entriesOfRecords index records = .error failure ∧ Rejects record failure := by
  induction records generalizing index with
  | nil => exact .inl ⟨rfl, rfl⟩
  | cons record rest ih =>
      dsimp only [entriesOfRecords]
      cases complete : isComplete record with
      | false =>
          have first : firstFlawed? (record :: rest) = some record := by
            simp [firstFlawed?, complete]
          obtain ⟨failure, fails, cause⟩ := entryOfRecord_of_flawed complete index
          rw [fails]
          exact .inr ⟨record, failure, first, rfl, cause⟩
      | true =>
          have later : firstFlawed? (record :: rest) = firstFlawed? rest := by
            simp [firstFlawed?, complete]
          rw [entryOfRecord_of_isComplete complete, later]
          rcases ih (index + 1) with ⟨none, reads⟩ | ⟨flawed, failure, first, fails, cause⟩
          · rw [reads]
            exact .inl ⟨none, rfl⟩
          · rw [fails]
            exact .inr ⟨flawed, failure, first, rfl, cause⟩

/-! ### Credential files -/

/-- What is loaded is a store for every look-up or a refusal. -/
def IsClean : Except Failure Store → Prop
  | .error failure => failure.isRefusal = true
  | .ok store => store.IsUsable

/-- The file holds a list of these values, which is read with room for so many containers. -/
def FileHolds (room : Nat) (disk : Disk) (path : String) (records : List Json) : Prop :=
  ∃ text, Command.readText disk path = .ok text ∧
    Json.readWithin room (Text.plainLines text) = .ok (.list records)

/-- The text of the file needs more stack than there is. -/
def FileExceeds (room : Nat) (disk : Disk) (path : String) (excess : Json.Excess) : Prop :=
  ∃ text, Command.readText disk path = .ok text ∧
    Json.excess? room (Text.plainLines text) = some excess

/-- The first flawed record is an object, or there is none and the entries are guarded. -/
def AreSafe (records : List Json) : Prop :=
  match firstFlawed? records with
  | some record => record.kind = .object
  | none => IsGuarded (records.map registered)

section Held

variable {room : Nat} {disk : Disk} {path : String} {records others : List Json}

theorem FileHolds.unique (holds : FileHolds room disk path records)
    (also : FileHolds room disk path others) : records = others := by
  obtain ⟨text, reads, value⟩ := holds
  obtain ⟨same, rereads, again⟩ := also
  cases reads.symm.trans rereads
  exact Json.list.inj (Except.ok.inj (value.symm.trans again))

theorem FileHolds.not_exceeds (holds : FileHolds room disk path records) (excess : Json.Excess) :
    ¬ FileExceeds room disk path excess := by
  rintro ⟨same, rereads, deep⟩
  obtain ⟨text, reads, value⟩ := holds
  cases reads.symm.trans rereads
  rw [(Json.readWithin_eq_ok_iff.mp value).1] at deep
  cases deep

end Held

theorem refuses_of_readText {disk : Disk} {path : String} {failure : Failure}
    (fails : Command.readText disk path = .error failure) : failure.isRefusal = true := by
  unfold Command.readText at fails
  cases read : disk.read path with
  | error fault =>
      rw [read] at fails
      cases fails
      rfl
  | ok bytes =>
      rw [read] at fails
      dsimp only at fails
      cases decoded : Text.decodeUtf8 bytes with
      | error defect =>
          rw [decoded] at fails
          cases fails
          rfl
      | ok text =>
          rw [decoded] at fails
          cases fails

section Load

variable {room : Nat} {disk : Disk} {path : String} (journal : Log.Journal)

theorem load_of_holds {records : List Json} (holds : FileHolds room disk path records) :
    (load path (Command.readText disk path) journal room).1 =
      (entriesOfRecords 0 records).map Store.mk := by
  obtain ⟨text, reads, value⟩ := holds
  have made : ofFile room path text = (entriesOfRecords 0 records).map Store.mk := by
    unfold ofFile
    rw [value]
    rfl
  rw [reads]
  dsimp only [load]
  rw [made]
  cases entriesOfRecords 0 records <;> rfl

theorem load_of_exceeds {excess : Json.Excess} (exceeds : FileExceeds room disk path excess) :
    (load path (Command.readText disk path) journal room).1 = .error (.json (.tooDeep excess)) := by
  obtain ⟨text, reads, deep⟩ := exceeds
  have made : ofFile room path text = .error (.json (.tooDeep excess)) := by
    unfold ofFile
    rw [Json.readWithin_eq_tooDeep_iff.mpr deep]
  rw [reads]
  dsimp only [load]
  rw [made]

theorem load_of_not_holds (none : ∀ records, ¬ FileHolds room disk path records)
    (shallow : ∀ excess, ¬ FileExceeds room disk path excess) :
    ∃ failure, (load path (Command.readText disk path) journal room).1 = .error failure ∧
      failure.isRefusal = true := by
  cases reads : Command.readText disk path with
  | error failure => exact ⟨failure, rfl, refuses_of_readText reads⟩
  | ok text =>
      dsimp only [load, ofFile]
      cases value : Json.readWithin room (Text.plainLines text) with
      | error fault =>
          cases fault with
          | tooDeep excess =>
              exact absurd ⟨text, reads, Json.readWithin_eq_tooDeep_iff.mp value⟩ (shallow excess)
          | _ => exact ⟨_, rfl, rfl⟩
      | ok held =>
          cases held with
          | list records => exact absurd ⟨text, reads, value⟩ (none records)
          | _ => exact ⟨_, rfl, rfl⟩

end Load

theorem isClean_of_records (records : List Json) :
    IsClean ((entriesOfRecords 0 records).map Store.mk) ↔ AreSafe records := by
  unfold AreSafe
  rcases entriesOfRecords_cases 0 records with
    ⟨none, reads⟩ | ⟨record, failure, first, fails, rejects⟩
  · rw [none, reads]
    exact isUsable_iff ⟨records.map registered⟩
  · rw [first, fails]
    exact rejects.isRefusal_iff

theorem failure_of_records {records : List Json} {failure : Failure}
    (fails : (entriesOfRecords 0 records).map Store.mk = .error failure) :
    failure.isRefusal = true ∨ ∃ kind, failure = .misfit (.noFields kind) := by
  rcases entriesOfRecords_cases 0 records with ⟨_, reads⟩ | ⟨record, other, _, stops, rejects⟩
  · rw [reads] at fails
    cases fails
  · rw [stops] at fails
    cases fails
    rcases rejects with ⟨refuses, _⟩ | ⟨misfit, _⟩
    · exact .inl refuses
    · exact .inr ⟨record.kind, misfit⟩

theorem misfit_of_lookup {store : Store} {serverUrl : String} {id : Option String}
    {journal : Log.Journal} {failure : Failure}
    (fails : (store.lookup serverUrl id journal).1 = .error failure) :
    ∃ kind, failure = .misfit (.noAddress kind) := by
  cases id with
  | none => cases fails
  | some id =>
      rw [lookup_some] at fails
      obtain ⟨_, kind, _, _, same⟩ := misfit_of_findIn? fails
      exact ⟨kind, same⟩

/-- A credential file is refused or makes a store for every look-up exactly if there is stack enough
to read it and the records of its list, if it holds one, are safe. Otherwise the stack runs out,
reading fails with a record that is no object, or look-ups fail with a scope that is no text. -/
theorem load_isClean_iff (room : Nat) (disk : Disk) (path : String) (journal : Log.Journal) :
    let loaded := (load path (Command.readText disk path) journal room).1
    (IsClean loaded ↔ (∀ excess, ¬ FileExceeds room disk path excess) ∧
        ∀ records, FileHolds room disk path records → AreSafe records) ∧
      (∀ excess, loaded = .error (.json (.tooDeep excess)) ↔ FileExceeds room disk path excess) ∧
      (∀ failure, loaded = .error failure → failure.isRefusal = true ∨
        (∃ excess, failure = .json (.tooDeep excess)) ∨ ∃ kind, failure = .misfit (.noFields kind)) ∧
      ∀ store, loaded = .ok store → ∀ serverUrl id later failure,
        (store.lookup serverUrl id later).1 = .error failure →
          ∃ kind, failure = .misfit (.noAddress kind) := by
  dsimp only
  by_cases holds : ∃ records, FileHolds room disk path records
  · obtain ⟨records, holds⟩ := holds
    rw [load_of_holds journal holds]
    have fails {failure : Failure} := @failure_of_records records failure
    refine ⟨?_, fun excess => iff_of_false ?_ (holds.not_exceeds excess), ?_, ?_⟩
    · rw [isClean_of_records]
      -- The file holds no other list, so what is said of all lists is said of this one.
      constructor
      · intro safe
        refine ⟨holds.not_exceeds, fun others also => ?_⟩
        rw [← holds.unique also]
        exact safe
      · intro safe
        exact safe.2 records holds
    · intro deep
      rcases fails deep with refusal | ⟨_, misfit⟩
      · cases refusal
      · cases misfit
    · exact fun failure failed => (fails failed).imp_right .inr
    · intro store _ serverUrl id later failure
      exact misfit_of_lookup
  have none : ∀ records, ¬ FileHolds room disk path records := fun records held => holds ⟨records, held⟩
  by_cases deep : ∃ excess, FileExceeds room disk path excess
  · obtain ⟨excess, exceeds⟩ := deep
    rw [load_of_exceeds journal exceeds]
    refine ⟨iff_of_false nofun fun clean => clean.1 excess exceeds, fun other => ?_, ?_, nofun⟩
    · constructor
      · intro same
        cases same
        exact exceeds
      · intro also
        rw [← load_of_exceeds journal exceeds, load_of_exceeds journal also]
    · intro failure same
      cases same
      exact .inr (.inl ⟨excess, rfl⟩)
  · have shallow : ∀ excess, ¬ FileExceeds room disk path excess :=
      fun excess exceeds => deep ⟨excess, exceeds⟩
    obtain ⟨failure, fails, refuses⟩ := load_of_not_holds journal none shallow
    rw [fails]
    refine ⟨iff_of_true refuses ⟨shallow, fun records held => absurd held (none records)⟩,
      fun excess => iff_of_false ?_ (shallow excess), ?_, nofun⟩
    · intro same
      cases same
      cases refuses
    · intro other same
      cases same
      exact .inl refuses

def diskHolding (text : String) : Disk := ⟨[(["c.json"], .file (Disk.bytes text))], []⟩

theorem readText_diskHolding {text : String} {content : List Char}
    (decodes : (Text.decodeUtf8 (Disk.bytes text)).toOption = some content) :
    Command.readText (diskHolding text) "c.json" = .ok content := by
  have place : (diskHolding text).locate "c.json" = .ok ["c.json"] := rfl
  have read : (diskHolding text).read "c.json" = .ok (Disk.bytes text) := by
    unfold Disk.read
    rw [place]
    rfl
  unfold Command.readText
  rw [read]
  dsimp only
  cases decoded : Text.decodeUtf8 (Disk.bytes text) with
  | error defect =>
      rw [decoded] at decodes
      cases decodes
  | ok read =>
      rw [decoded] at decodes
      cases decodes
      rfl

def numberedScope : String :=
  "[\x7b\"id\": \"ci\", \"username\": \"bot\", \"password\": \"secret\", \"url\": 5\x7d]"

/-- A number in the place of a record is no refusal, and with a number in the place of a scope the
file is loaded but not every look-up comes to a result. -/
theorem numbers_in_file :
    (load "c.json" (Command.readText (diskHolding "[5]") "c.json") (.empty 0)).1 =
        .error (.misfit (.noFields .whole)) ∧
      ∃ store, (load "c.json" (Command.readText (diskHolding numberedScope) "c.json")
          (.empty 0)).1 = .ok store ∧
        (store.lookup "https://h" (some "ci") (.empty 0)).1 =
          .error (.misfit (.noAddress .whole)) := by
  constructor
  · have decodes : (Text.decodeUtf8 (Disk.bytes "[5]")).toOption = some "[5]".toList := by
      decide +kernel
    have plain : (Json.list [.whole 5]).IsPlain :=
      .list (List.forall_mem_singleton.mpr (.whole (by decide)))
    have same : Text.plainLines "[5]".toList = Json.written (.list [.whole 5]) := by decide +kernel
    rw [load_of_holds _ ⟨_, readText_diskHolding decodes, same ▸ Json.readWithin_written plain
      (by decide +kernel)⟩]
    rfl
  · have decodes : (Text.decodeUtf8 (Disk.bytes numberedScope)).toOption =
        some numberedScope.toList := by decide +kernel
    let held : Json := .list [.object [("id", .text "ci"), ("username", .text "bot"),
      ("password", .text "secret"), ("url", .whole 5)]]
    have plain : held.IsPlain := by
      refine .list (List.forall_mem_singleton.mpr (.object (by decide) ?_))
      simp only [List.forall_mem_cons]
      exact ⟨.text _, .text _, .text _, .whole (by decide), nofun⟩
    have same : Text.plainLines numberedScope.toList = Json.written held := by decide +kernel
    rw [load_of_holds _ ⟨_, readText_diskHolding decodes, same ▸ Json.readWithin_written plain
      (by decide +kernel)⟩]
    exact ⟨_, rfl, rfl⟩

end Store

end ProjectScan
