import ProjectScan.Json.Value
import ProjectScan.Number.Decimal
import ProjectScan.Text.Quoted

/-!
Values as messages show them. A text on its own is shown as it is; inside a list or an object, and
where a message asks for it, in quotes.
-/

namespace ProjectScan.Json

def displayedLeaf (quote : String → String) : Json → String
  | .null => "None"
  | .bool true => "True"
  | .bool false => "False"
  | .whole value => Number.wholeText value
  | .float value => value.text
  | .text value => quote value
  | .list _ => "[]"
  | .object _ => "\x7b\x7d"

mutual

def displayedBy (quote : String → String) : Json → String
  | .list items => "[" ++ displayedItems quote items ++ "]"
  | .object fields => "\x7b" ++ displayedFields quote fields ++ "\x7d"
  | leaf => displayedLeaf quote leaf

def displayedItems (quote : String → String) : List Json → String
  | [] => ""
  | [last] => displayedBy quote last
  | item :: next :: items =>
      displayedBy quote item ++ ", " ++ displayedItems quote (next :: items)

def displayedFields (quote : String → String) : List (String × Json) → String
  | [] => ""
  | [(key, value)] => quote key ++ ": " ++ displayedBy quote value
  | (key, value) :: next :: fields =>
      quote key ++ ": " ++ displayedBy quote value ++ ", " ++
        displayedFields quote (next :: fields)

end

def displayed (value : Json) : String := displayedBy Text.quoted value

def asciiDisplayed (value : Json) : String := displayedBy Text.asciiQuoted value

/-- A value in a message: a text as it is, everything else as inside a list. -/
def shown : Json → String
  | .text value => value
  | value => displayed value

end ProjectScan.Json
