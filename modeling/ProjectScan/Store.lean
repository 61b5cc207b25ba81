import ProjectScan.Credential
import ProjectScan.Environment
import ProjectScan.Log.Journal

/-!
The credential store: entries in the order in which they were added. A lookup takes the first entry
with the wanted id that applies to the server.
-/

namespace ProjectScan

structure Store where
  entries : List StoredCredential
  deriving Repr

namespace Store

def empty : Store := ⟨[]⟩

def size (store : Store) : Nat := store.entries.length

def sink : Log.Sink := .plain "gerrit_discovery.credentials"

def add (store : Store) (entry : StoredCredential) : Store := ⟨store.entries ++ [entry]⟩

def merged (store other : Store) : Store := ⟨store.entries ++ other.entries⟩

/-- The first of some entries that has the id and applies to the server. -/
def findIn? (serverUrl id : String) : List StoredCredential → Except Failure (Option Credential)
  | [] => .ok none
  | entry :: rest =>
      if entry.id.same (.text id) then
        match entry.appliesTo serverUrl with
        | .error failure => .error failure
        | .ok true => .ok (some entry.credential)
        | .ok false => findIn? serverUrl id rest
      else findIn? serverUrl id rest

def find? (store : Store) (serverUrl id : String) : Except Failure (Option Credential) :=
  findIn? serverUrl id store.entries

/-- Looks a credential up; a miss is noted. Without an id there is nothing to look up. -/
def lookup (store : Store) (serverUrl : String) (id : Option String) (journal : Log.Journal) :
    Except Failure (Option Credential) × Log.Journal :=
  match id with
  | none => (.ok none, journal)
  | some id => match store.find? serverUrl id with
    | .error failure => (.error failure, journal)
    | .ok (some credential) => (.ok (some credential), journal)
    | .ok none =>
        (.ok none, journal.note sink Log.Level.debug
          ("No credential " ++ Text.quoted id ++ " applies to " ++ serverUrl))

def requiredFields : List String := ["id", "username", "password"]

def fieldOrNull (fields : List (String × Json)) (name : String) : Json :=
  (Json.field? fields name).getD .null

/-- The entry of one record; an empty field counts as missing. -/
def entryOfRecord (index : Nat) (record : Json) : Except Failure StoredCredential :=
  match record with
  | .object fields =>
      match requiredFields.filter fun name => !(fieldOrNull fields name).isTrue with
      | [] =>
          let scope := fieldOrNull fields "url"
          .ok ⟨fieldOrNull fields "id",
            ⟨fieldOrNull fields "username", fieldOrNull fields "password"⟩,
            if scope.isTrue then some scope else none⟩
      | missing => .error (.missingFields index missing)
  | other => .error (.misfit (.noFields other.kind))

def entriesOfRecords (index : Nat) : List Json → Except Failure (List StoredCredential)
  | [] => .ok []
  | record :: rest =>
      match entryOfRecord index record with
      | .error failure => .error failure
      | .ok entry => (entriesOfRecords (index + 1) rest).map (entry :: ·)

def ofRecords (records : Json) : Except Failure Store :=
  match records.elements? with
  | none => .error (.misfit (.notIterable records.kind))
  | some elements => (entriesOfRecords 0 elements).map Store.mk

/-- The store of a credential file, read with room for this many containers. -/
def ofFile (room : Nat) (path : String) (content : List Char) : Except Failure Store :=
  match Json.readWithin room (Text.plainLines content) with
  | .error fault => .error (.json fault)
  | .ok (.list records) => ofRecords (.list records)
  | .ok _ => .error (.notAList path)

def load (path : String) (content : Except Failure (List Char)) (journal : Log.Journal)
    (room : Nat := Json.usualRoom) : Except Failure Store × Log.Journal :=
  match content with
  | .error failure => (.error failure, journal)
  | .ok content => match ofFile room path content with
    | .error failure => (.error failure, journal)
    | .ok store =>
        (.ok store, journal.note sink Log.Level.debug
          ("Loaded " ++ Number.naturalText store.size ++ " credentials from " ++ path))

def environmentId : String := "env"

def ofEnvironment (environment : Environment) : Store :=
  match environment.nonempty? "GERRIT_USERNAME", environment.nonempty? "GERRIT_PASSWORD" with
  | some username, some password =>
      ⟨[⟨.text ((environment.nonempty? "GERRIT_CREDENTIALS_ID").getD environmentId),
        .ofTexts username password, none⟩]⟩
  | _, _ => empty

@[simp] theorem entries_merged (store other : Store) :
    (store.merged other).entries = store.entries ++ other.entries := rfl

end Store

end ProjectScan
