import ProjectScan.Json.Value
import ProjectScan.Number.Decimal
import ProjectScan.Text.Quoted

/-!
Writing JSON text, on one line or indented by two spaces a level. Characters above ASCII stand for
themselves; control characters are escaped, so a text on one line stays on one line.
-/

namespace ProjectScan.Json

open Text (backslash doubleQuote)

def writtenChar (c : Char) : List Char :=
  if c = doubleQuote ∨ c = backslash then [backslash, c]
  else if c = '\n' then [backslash, 'n']
  else if c = '\r' then [backslash, 'r']
  else if c = '\t' then [backslash, 't']
  else if c = '\x0c' then [backslash, 'f']
  else if c = '\x08' then [backslash, 'b']
  else if c.toNat < 0x20 then backslash :: 'u' :: Text.hexDigits 4 c.toNat
  else [c]

def writtenText (source : List Char) : List Char :=
  doubleQuote :: (source.flatMap writtenChar ++ [doubleQuote])

def writtenFloat : Number.Binary64 → List Char
  | .nan => ['N', 'a', 'N']
  | .infinite negative =>
      (if negative then ['-'] else []) ++ ['I', 'n', 'f', 'i', 'n', 'i', 't', 'y']
  | value => value.text.toList

def writtenLeaf : Json → List Char
  | .null => ['n', 'u', 'l', 'l']
  | .bool true => ['t', 'r', 'u', 'e']
  | .bool false => ['f', 'a', 'l', 's', 'e']
  | .whole value => (Number.wholeText value).toList
  | .float value => writtenFloat value
  | .text value => writtenText value.toList
  | .list _ => ['[', ']']
  | .object _ => ['\x7b', '\x7d']

mutual

def written : Json → List Char
  | .list [] => ['[', ']']
  | .list (item :: items) => '[' :: (written item ++ writtenItems items)
  | .object [] => ['\x7b', '\x7d']
  | .object ((key, value) :: fields) =>
      '\x7b' :: (writtenText key.toList ++ ':' :: ' ' :: (written value ++ writtenFields fields))
  | leaf => writtenLeaf leaf

def writtenItems : List Json → List Char
  | [] => [']']
  | item :: items => ',' :: ' ' :: (written item ++ writtenItems items)

def writtenFields : List (String × Json) → List Char
  | [] => ['\x7d']
  | (key, value) :: fields =>
      ',' :: ' ' :: (writtenText key.toList ++ ':' :: ' ' ::
        (written value ++ writtenFields fields))

end

def lineStart (depth : Nat) : List Char := '\n' :: List.replicate (2 * depth) ' '

mutual

def laidOut (depth : Nat) : Json → List Char
  | .list [] => ['[', ']']
  | .list (item :: items) =>
      '[' :: (lineStart (depth + 1) ++ laidOut (depth + 1) item ++ laidOutItems depth items)
  | .object [] => ['\x7b', '\x7d']
  | .object ((key, value) :: fields) =>
      '\x7b' :: (lineStart (depth + 1) ++ writtenText key.toList ++ ':' :: ' ' ::
        (laidOut (depth + 1) value ++ laidOutFields depth fields))
  | leaf => writtenLeaf leaf

def laidOutItems (depth : Nat) : List Json → List Char
  | [] => lineStart depth ++ [']']
  | item :: items =>
      ',' :: (lineStart (depth + 1) ++ laidOut (depth + 1) item ++ laidOutItems depth items)

def laidOutFields (depth : Nat) : List (String × Json) → List Char
  | [] => lineStart depth ++ ['\x7d']
  | (key, value) :: fields =>
      ',' :: (lineStart (depth + 1) ++ writtenText key.toList ++ ':' :: ' ' ::
        (laidOut (depth + 1) value ++ laidOutFields depth fields))

end

def oneLine (value : Json) : String := String.ofList (written value)

def indented (value : Json) : String := String.ofList (laidOut 0 value)

end ProjectScan.Json
