import ProjectScan.Failure

/-!
Files and directories. A path is read from the working directory on, unless it starts at the root;
every step of it but the last must be a directory that exists.
-/

namespace ProjectScan

/-- A path by its parts. A path that starts at the root has one or two slashes in front. -/
structure Path where
  root : String
  parts : List String
  deriving DecidableEq, Repr

namespace Path

/-- The slashes with which a path that starts at the root is written: two remain two, more count
as one. -/
def rootOf (path : List Char) : String :=
  match path with
  | '/' :: '/' :: '/' :: _ => "/"
  | '/' :: '/' :: _ => "//"
  | '/' :: _ => "/"
  | _ => ""

def steps (path : String) : List String :=
  (Text.pieces (· = '/') path.toList).map String.ofList

/-- The path that a text stands for; empty steps and single dots go. -/
def ofText (path : String) : Path :=
  ⟨rootOf path.toList, (steps path).filter fun step => step ≠ "" && step ≠ "."⟩

def text (path : Path) : String :=
  if path.root = "" ∧ path.parts = [] then "."
  else path.root ++ Text.joined "/" path.parts

def child (path : Path) (name : String) : Path := { path with parts := path.parts ++ [name] }

end Path

abbrev Location := List String

inductive Entry where
  | directory
  | file (content : List UInt8)
  deriving DecidableEq, Repr

structure Disk where
  entries : List (Location × Entry)
  workingDirectory : Location
  deriving Repr

namespace Disk

/-- What is at a place. The root and the directories above something that exists exist. -/
def entry? (disk : Disk) (place : Location) : Option Entry :=
  match disk.entries.lookup place with
  | some entry => some entry
  | none =>
      if place.isPrefixOf disk.workingDirectory ||
          disk.entries.any (fun entry => place.isPrefixOf entry.1) then some .directory
      else none

def nameLimit : Nat := 255

def step (disk : Disk) (place : Location) (name : String) : Except DiskFault Location :=
  match disk.entry? place with
  | none => .error .missing
  | some (.file _) => .error .notDirectory
  | some .directory =>
      if name = "" ∨ name = "." then .ok place
      else if name = ".." then .ok place.dropLast
      else if name.utf8ByteSize > nameLimit then .error .nameTooLong
      else .ok (place ++ [name])

def walk (disk : Disk) (place : Location) : List String → Except DiskFault Location
  | [] => .ok place
  | name :: rest => match disk.step place name with
    | .error fault => .error fault
    | .ok next => disk.walk next rest

def pathLimit : Nat := 4095

def locate (disk : Disk) (path : String) : Except DiskFault Location :=
  if path.toList.contains '\x00' then .error .nullCharacter
  else if path = "" then .error .missing
  else if path.utf8ByteSize > pathLimit then .error .nameTooLong
  else
    let start := if path.toList.head? = some '/' then [] else disk.workingDirectory
    disk.walk start (Path.steps path)

def set (disk : Disk) (place : Location) (entry : Entry) : Disk :=
  { disk with entries := (place, entry) :: disk.entries.filter (·.1 ≠ place) }

def read (disk : Disk) (path : String) : Except DiskFault (List UInt8) :=
  match disk.locate path with
  | .error fault => .error fault
  | .ok place => match disk.entry? place with
    | none => .error .missing
    | some .directory => .error .isDirectory
    | some (.file content) => .ok content

def update (disk : Disk) (path : String) (content : List UInt8 → List UInt8) :
    Except DiskFault Disk :=
  match disk.locate path with
  | .error fault => .error fault
  | .ok place => match disk.entry? place with
    | some .directory => .error .isDirectory
    | some (.file old) => .ok (disk.set place (.file (content old)))
    | none => .ok (disk.set place (.file (content [])))

def bytes (text : String) : List UInt8 := text.toUTF8.toList

def write (disk : Disk) (path text : String) : Except DiskFault Disk :=
  disk.update path fun _ => bytes text

def append (disk : Disk) (path text : String) : Except DiskFault Disk :=
  disk.update path fun old => old ++ bytes text

/-! ### Directories -/

def isDirectory (disk : Disk) (path : String) : Bool :=
  match disk.locate path with
  | .error _ => false
  | .ok place => disk.entry? place = some .directory

def makeDirectory (disk : Disk) (path : String) : Except DiskFault Disk :=
  match disk.locate path with
  | .error fault => .error fault
  | .ok place => match disk.entry? place with
    | some _ => .error .exists
    | none => .ok (disk.set place .directory)

def ensureDirectory (disk : Disk) (path : Path) : Except DiskFault Disk :=
  match disk.makeDirectory path.text with
  | .ok disk => .ok disk
  | .error fault => if disk.isDirectory path.text then .ok disk else .error fault

/-- Makes a directory and those above it that are missing; the parts of its path come in reverse.
A failure names the path that could not be made, and what was made above it stays. -/
def ensureParts (disk : Disk) (root : String) : List String → Except Failure Unit × Disk
  | [] =>
      let path : Path := ⟨root, []⟩
      match disk.ensureDirectory path with
      | .ok disk => (.ok (), disk)
      | .error fault => (.error (.disk path.text fault), disk)
  | name :: above =>
      let path : Path := ⟨root, (name :: above).reverse⟩
      match disk.ensureDirectory path with
      | .ok disk => (.ok (), disk)
      | .error .missing => match disk.ensureParts root above with
        | (.error failure, disk) => (.error failure, disk)
        | (.ok _, disk) => match disk.ensureDirectory path with
          | .ok disk => (.ok (), disk)
          | .error fault => (.error (.disk path.text fault), disk)
      | .error fault => (.error (.disk path.text fault), disk)

def ensureDirectories (disk : Disk) (path : Path) : Except Failure Unit × Disk :=
  disk.ensureParts path.root path.parts.reverse

def withoutUpSteps (above : List String) : List String → List String
  | [] => above.reverse
  | name :: rest =>
      if name = ".." then withoutUpSteps (above.drop 1) rest
      else withoutUpSteps (name :: above) rest

def absolute (disk : Disk) (path : String) : String :=
  let own := Path.ofText path
  let parts := if own.root = "" then disk.workingDirectory ++ own.parts else own.parts
  (Path.mk (if own.root = "" then "/" else own.root) (withoutUpSteps [] parts)).text

end Disk

end ProjectScan
