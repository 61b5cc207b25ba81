import ProjectScan.Json.Display

/-!
Shapes that values have to have. `Shape.violations` lists what is wrong with a value, from the
outside in; a value has the shape when the list is empty. A whole number may be written as a float
without fraction, and truth values are no numbers.
-/

namespace ProjectScan.Json

/-- A shape: one of some kinds; a whole number from `least` on; a text of at least so many
characters; a list of items of one shape; or an object with its required fields, the shapes of
fields it may have, and whether it may have others. -/
inductive Shape where
  | oneOf (kinds : List Kind)
  | count (least : Int)
  | text (least : Nat)
  | listOf (item : Shape)
  | record (required : List String) (others : Bool) (fields : List (String × Shape))
  deriving Repr

def Kind.shapeName : Kind → String
  | .null => "null"
  | .bool => "boolean"
  | .whole => "integer"
  | .float => "number"
  | .text => "string"
  | .list => "array"
  | .object => "object"

def isOfKind (value : Json) (kind : Kind) : Bool :=
  match kind, value with
  | .whole, .float number => number.isWhole
  | .float, .whole _ => true
  | kind, value => value.kind = kind

inductive Mismatch where
  | notOfKind (value : Json) (kinds : List Kind)
  | missing (name : String)
  | unexpected (names : List String)
  | below (value : Json) (least : Int)
  | tooShort (value : Json) (least : Nat)
  deriving Repr

def quotedNames (names : List String) : String :=
  Text.joined ", " (names.map Text.quoted)

def Mismatch.message : Mismatch → String
  | .notOfKind value kinds =>
      displayed value ++ " is not of type " ++ quotedNames (kinds.map Kind.shapeName)
  | .missing name => Text.quoted name ++ " is a required property"
  | .unexpected names =>
      "Additional properties are not allowed (" ++ quotedNames names ++
        (if names.length = 1 then " was" else " were") ++ " unexpected)"
  | .below value least =>
      displayed value ++ " is less than the minimum of " ++ Number.wholeText least
  | .tooShort value least =>
      displayed value ++ (if least = 1 then " should be non-empty" else " is too short")

inductive Step where
  | field (name : String)
  | item (index : Nat)
  deriving DecidableEq, Repr

def Step.text : Step → String
  | .field name => name
  | .item index => Number.naturalText index

structure Violation where
  path : List Step
  mismatch : Mismatch
  deriving Repr

namespace Violation

def place : List Step → String
  | [] => "root"
  | path => Text.joined "." (path.map Step.text)

def message (violation : Violation) : String :=
  place violation.path ++ ": " ++ violation.mismatch.message

def under (step : Step) (violation : Violation) : Violation :=
  { violation with path := step :: violation.path }

end Violation

namespace Shape

def atRoot (wrong : Bool) (mismatch : Mismatch) : List Violation :=
  if wrong then [⟨[], mismatch⟩] else []

def kindViolations (kinds : List Kind) (value : Json) : List Violation :=
  atRoot (!kinds.any value.isOfKind) (.notOfKind value kinds)

/-- A number below the least one allowed. What is no number is not. -/
def isBelow (least : Int) : Json → Bool
  | .whole value => value < least
  | .float value => value.lessThanWhole least
  | _ => false

def missingFields (fields : List (String × Json)) (required : List String) : List Violation :=
  (required.filter fun name => (field? fields name).isNone).map fun name => ⟨[], .missing name⟩

def unknownNames (fields : List (String × Json)) (known : List String) : List String :=
  ((fields.map (·.1)).filter fun name => !known.contains name).mergeSort
    fun left right => left ≤ right

def otherFields (fields : List (String × Json)) (known : List String) : List Violation :=
  atRoot (!(unknownNames fields known).isEmpty) (.unexpected (unknownNames fields known))

def itemViolations (check : Json → List Violation) (index : Nat) : List Json → List Violation
  | [] => []
  | item :: rest =>
      (check item).map (Violation.under (.item index)) ++ itemViolations check (index + 1) rest

mutual

def violations : Shape → Json → List Violation
  | .oneOf kinds, value => kindViolations kinds value
  | .count least, value =>
      kindViolations [.whole] value ++ atRoot (isBelow least value) (.below value least)
  | .text least, value =>
      kindViolations [.text] value ++ match value with
        | .text content => atRoot (content.length < least) (.tooShort value least)
        | _ => []
  | .listOf item, value =>
      kindViolations [.list] value ++ match value with
        | .list items => itemViolations (violations item) 0 items
        | _ => []
  | .record required others known, value =>
      kindViolations [.object] value ++ match value with
        | .object fields =>
            missingFields fields required ++
              (if others then [] else otherFields fields (known.map (·.1))) ++
              fieldViolations known fields
        | _ => []

def fieldViolations : List (String × Shape) → List (String × Json) → List Violation
  | [], _ => []
  | (name, shape) :: rest, fields =>
      (match field? fields name with
        | none => []
        | some value => (violations shape value).map (Violation.under (.field name))) ++
        fieldViolations rest fields

end

end Shape

end ProjectScan.Json
