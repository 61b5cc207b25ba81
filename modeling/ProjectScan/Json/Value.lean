import ProjectScan.Number.Binary64
import ProjectScan.Text.Cut

/-!
JSON values. The fields of an object keep their order; a field that is set again keeps its first
place and takes the new value. Whole numbers are unbounded and apart from floats.
-/

namespace ProjectScan

open Number

inductive Json where
  | null
  | bool (value : Bool)
  | whole (value : Int)
  | float (value : Binary64)
  | text (value : String)
  | list (items : List Json)
  | object (fields : List (String × Json))
  deriving Repr, Inhabited

namespace Json

inductive Kind where
  | null
  | bool
  | whole
  | float
  | text
  | list
  | object
  deriving DecidableEq, Repr

def Kind.name : Kind → String
  | .null => "NoneType"
  | .bool => "bool"
  | .whole => "int"
  | .float => "float"
  | .text => "str"
  | .list => "list"
  | .object => "dict"

def kind : Json → Kind
  | .null => .null
  | .bool _ => .bool
  | .whole _ => .whole
  | .float _ => .float
  | .text _ => .text
  | .list _ => .list
  | .object _ => .object

def isTrue : Json → Bool
  | .null => false
  | .bool value => value
  | .whole value => value ≠ 0
  | .float value => !value.isZero
  | .text value => value ≠ ""
  | .list items => !items.isEmpty
  | .object fields => !fields.isEmpty

def field? : List (String × Json) → String → Option Json
  | [], _ => none
  | (name, value) :: rest, key => if name = key then some value else field? rest key

/-- Sets a field: in its place if the key is there, else at the end. -/
def setField : List (String × Json) → String → Json → List (String × Json)
  | [], key, value => [(key, value)]
  | (name, old) :: rest, key, value =>
      if name = key then (name, value) :: rest else (name, old) :: setField rest key value

def setFields (fields more : List (String × Json)) : List (String × Json) :=
  more.foldl (fun sofar field => setField sofar field.1 field.2) fields

/-- The values that a loop over the value meets: items, characters or keys. -/
def elements? : Json → Option (List Json)
  | .text value => some (value.toList.map fun c => .text (String.singleton c))
  | .list items => some items
  | .object fields => some (fields.map fun field => .text field.1)
  | _ => none

/-- The whole number that a value stands for in comparisons: truth values are zero and one. -/
def wholeValue? : Json → Option Int
  | .bool value => some (if value then 1 else 0)
  | .whole value => some value
  | _ => none

mutual

/-- Equality of values: numbers by value whatever their sort, objects whatever their order. -/
def same : Json → Json → Bool
  | .null, .null => true
  | .bool left, right => sameNumber (if left then 1 else 0) right
  | .whole left, right => sameNumber left right
  | .float left, right => match right with
    | .float right => left.same right
    | .bool right => left.equalsWhole (if right then 1 else 0)
    | .whole right => left.equalsWhole right
    | _ => false
  | .text left, .text right => left == right
  | .list left, .list right => sameItems left right
  | .object left, .object right => left.length == right.length && sameFields left right
  | _, _ => false

def sameNumber (left : Int) : Json → Bool
  | .bool right => left == (if right then 1 else 0)
  | .whole right => left == right
  | .float right => right.equalsWhole left
  | _ => false

def sameItems : List Json → List Json → Bool
  | [], [] => true
  | left :: lefts, right :: rights => same left right && sameItems lefts rights
  | _, _ => false

/-- Every field of the first is a field of the second with the same value. -/
def sameFields : List (String × Json) → List (String × Json) → Bool
  | [], _ => true
  | (key, left) :: lefts, rights =>
      (match field? rights key with
        | some right => same left right
        | none => false) && sameFields lefts rights

end

theorem field?_setField_self (fields : List (String × Json)) (key : String) (value : Json) :
    field? (setField fields key value) key = some value := by
  induction fields with
  | nil => simp [setField, field?]
  | cons head rest ih =>
      obtain ⟨name, old⟩ := head
      by_cases here : name = key <;> simp [setField, field?, here, ih]

theorem field?_setField_of_ne {fields : List (String × Json)} {key other : String}
    (different : other ≠ key) (value : Json) :
    field? (setField fields key value) other = field? fields other := by
  induction fields with
  | nil => simp [setField, field?, Ne.symm different]
  | cons head rest ih =>
      obtain ⟨name, old⟩ := head
      by_cases here : name = key
      · subst here
        simp [setField, field?, Ne.symm different]
      · simp [setField, field?, here, ih]

theorem mem_of_field? {fields : List (String × Json)} {key : String} {value : Json}
    (found : field? fields key = some value) : (key, value) ∈ fields := by
  induction fields with
  | nil => cases found
  | cons head rest ih =>
      obtain ⟨name, own⟩ := head
      rw [field?] at found
      split at found
      · rename_i same
        subst same
        cases found
        exact List.mem_cons_self
      · exact List.mem_cons_of_mem _ (ih found)

theorem isSome_field?_iff {fields : List (String × Json)} {key : String} :
    (field? fields key).isSome = true ↔ key ∈ fields.map (·.1) := by
  induction fields with
  | nil => simp [field?]
  | cons head rest ih =>
      obtain ⟨name, own⟩ := head
      by_cases same : name = key
      · simp [field?, same]
      · simp [field?, same, ih, Ne.symm same]

theorem keys_setField (fields : List (String × Json)) (key : String) (value : Json) :
    (setField fields key value).map (·.1) =
      if key ∈ fields.map (·.1) then fields.map (·.1) else fields.map (·.1) ++ [key] := by
  induction fields with
  | nil => simp [setField]
  | cons head rest ih =>
      obtain ⟨name, old⟩ := head
      by_cases here : name = key
      · simp [setField, here]
      · simp only [setField, here, if_false, List.map_cons, ih, List.mem_cons, Ne.symm here,
          false_or]
        split <;> simp

end Json

end ProjectScan
