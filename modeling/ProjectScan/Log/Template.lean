import ProjectScan.Json.Display

/-!
Message templates. Two percent signs stand for one; a single one starts a place: a key in
parentheses, flags, a width, a precision after a point, a length letter that means nothing, and the
letter of the conversion. A star takes a width or precision from the arguments. A template is read
into pieces first; filling it goes from left to right, and the first fault found on that way is the
one reported.
-/

namespace ProjectScan.Log

inductive Extent where
  | given (n : Nat)
  | taken
  deriving DecidableEq, Repr

structure Place where
  key : Option String
  left : Bool
  plus : Bool
  blank : Bool
  marked : Bool
  zeros : Bool
  width : Option Extent
  precision : Option Extent
  deriving DecidableEq, Repr

def Place.empty : Place := ⟨none, false, false, false, false, false, none, none⟩

inductive PlaceFault where
  | openKey
  | unfinished
  | width
  | precision
  deriving DecidableEq, Repr

inductive Piece where
  | literal (c : Char)
  | place (place : Place) (letter : Char) (position : Nat)
  | broken (place : Place) (fault : PlaceFault)
  deriving DecidableEq, Repr

inductive Stage where
  | start
  | key (depth : Nat) (reversed : List Char)
  | flags
  | width
  | point
  | precision
  | moreOfPrecision
  | length
  | letter
  deriving DecidableEq, Repr

/-- What one character does to a place: it is read further, or it is complete, or it is wrong. -/
inductive Progress where
  | further (place : Place) (stage : Stage)
  | complete (place : Place) (letter : Char)
  | wrong (place : Place) (fault : PlaceFault)

def greatestWidth : Nat := Number.twoTo 63 - 1
def greatestPrecision : Nat := Number.twoTo 31 - 1

def digitOf (c : Char) : Nat := c.toNat - 0x30

def Place.atLetter (place : Place) (c : Char) : Progress :=
  if c = 'h' ∨ c = 'l' ∨ c = 'L' then .further place .letter else .complete place c

def Place.inPrecision (place : Place) (c : Char) : Progress :=
  if c.isDigit then
    let sofar := match place.precision with
      | some (.given n) => n
      | _ => 0
    if (greatestPrecision - digitOf c) / 10 < sofar then .wrong place .precision
    else .further { place with precision := some (.given (sofar * 10 + digitOf c)) }
      .moreOfPrecision
  else place.atLetter c

def Place.atPrecision (place : Place) (c : Char) : Progress :=
  if c = '*' then .further { place with precision := some .taken } .length
  else { place with precision := some (.given 0) }.inPrecision c

def Place.atPoint (place : Place) (c : Char) : Progress :=
  if c = '.' then .further { place with precision := some (.given 0) } .precision
  else place.atLetter c

def Place.inWidth (place : Place) (c : Char) : Progress :=
  if c.isDigit then
    let sofar := match place.width with
      | some (.given n) => n
      | _ => 0
    if (greatestWidth - digitOf c) / 10 < sofar then .wrong place .width
    else .further { place with width := some (.given (sofar * 10 + digitOf c)) } .width
  else place.atPoint c

def Place.atFlags (place : Place) (c : Char) : Progress :=
  if c = '-' then .further { place with left := true } .flags
  else if c = '+' then .further { place with plus := true } .flags
  else if c = ' ' then .further { place with blank := true } .flags
  else if c = '#' then .further { place with marked := true } .flags
  else if c = '0' then .further { place with zeros := true } .flags
  else if c = '*' then .further { place with width := some .taken } .point
  else place.inWidth c

def Place.read (place : Place) (stage : Stage) (c : Char) : Progress :=
  match stage with
  | .start => if c = '(' then .further place (.key 0 []) else place.atFlags c
  | .key depth reversed =>
      if c = ')' then
        match depth with
        | 0 => .further { place with key := some (String.ofList reversed.reverse) } .flags
        | depth + 1 => .further place (.key depth (c :: reversed))
      else if c = '(' then .further place (.key (depth + 1) (c :: reversed))
      else .further place (.key depth (c :: reversed))
  | .flags => place.atFlags c
  | .width => place.inWidth c
  | .point => place.atPoint c
  | .precision => place.atPrecision c
  | .moreOfPrecision => place.inPrecision c
  | .length => place.atLetter c
  | .letter => .complete place c

/-- The pieces of a template from `position` on; `current` is the place being read, if any.
Nothing is read after a place that is wrong. -/
def piecesFrom (position : Nat) (current : Option (Place × Stage)) : List Char → List Piece
  | [] => match current with
    | none => []
    | some (place, .key _ _) => [.broken place .openKey]
    | some (place, _) => [.broken place .unfinished]
  | c :: rest =>
      match current with
      | none =>
          if c = '%' then piecesFrom (position + 1) (some (.empty, .start)) rest
          else .literal c :: piecesFrom (position + 1) none rest
      | some (place, stage) =>
          if stage = .start ∧ c = '%' then .literal c :: piecesFrom (position + 1) none rest
          else match place.read stage c with
          | .further place stage => piecesFrom (position + 1) (some (place, stage)) rest
          | .complete place letter =>
              .place place letter position :: piecesFrom (position + 1) none rest
          | .wrong place fault => [.broken place fault]

inductive TemplateFault where
  | tooFewArguments
  | tooManyArguments
  | noMapping
  | noKey (key : String)
  | broken (fault : PlaceFault)
  | starKind
  | starWidth
  | starPrecision
  | letter (letter : Char) (position : Nat)
  | realNumber (letter : Char) (found : Json.Kind)
  | integer (letter : Char) (found : Json.Kind)
  | float (found : Json.Kind)
  | infinite
  | notANumber
  | tooLarge
  | character
  | characterRange
  deriving DecidableEq, Repr

def TemplateFault.name : TemplateFault → String
  | .noKey _ => "KeyError"
  | .broken _ | .letter _ _ | .notANumber => "ValueError"
  | .starWidth | .starPrecision | .infinite | .tooLarge | .characterRange => "OverflowError"
  | _ => "TypeError"

def shownLetter (letter : Char) : Char :=
  if 31 ≤ letter.toNat ∧ letter.toNat < 126 then letter else '?'

def TemplateFault.message : TemplateFault → String
  | .tooFewArguments => "not enough arguments for format string"
  | .tooManyArguments => "not all arguments converted during string formatting"
  | .noMapping => "format requires a mapping"
  | .noKey key => Text.quoted key
  | .broken .openKey => "incomplete format key"
  | .broken .unfinished => "incomplete format"
  | .broken .width => "width too big"
  | .broken .precision => "precision too big"
  | .starKind => "* wants int"
  | .starWidth => "Python int too large to convert to C ssize_t"
  | .starPrecision => "Python int too large to convert to C int"
  | .letter c position =>
      "unsupported format character '" ++ String.singleton (shownLetter c) ++ "' (0x" ++
        String.ofList (Nat.toDigits 16 c.toNat) ++ ") at index " ++ Number.naturalText position
  | .realNumber c found =>
      "%" ++ String.singleton c ++ " format: a real number is required, not " ++ found.name
  | .integer c found =>
      "%" ++ String.singleton c ++ " format: an integer is required, not " ++ found.name
  | .float found => "must be real number, not " ++ found.name
  | .infinite => "cannot convert float infinity to integer"
  | .notANumber => "cannot convert float NaN to integer"
  | .tooLarge => "int too large to convert to float"
  | .character => "%c requires int or char"
  | .characterRange => "%c arg not in range(0x110000)"

structure Supply where
  values : List Json
  mapping : Option (List (String × Json))

/-- The arguments as a supply. A single object with fields is looked up by key, or taken whole. -/
def Supply.ofArguments : List Json → Supply
  | [.object (field :: fields)] => ⟨[.object (field :: fields)], some (field :: fields)⟩
  | values => ⟨values, none⟩

def Supply.take (supply : Supply) : Except TemplateFault (Json × Supply) :=
  match supply.values with
  | [] => .error .tooFewArguments
  | value :: values => .ok (value, { supply with values })

def Supply.takeWhole (supply : Supply) : Except TemplateFault (Int × Supply) := do
  let (value, supply) ← supply.take
  match value.wholeValue? with
  | some n => return (n, supply)
  | none => throw .starKind

structure Layout where
  left : Bool
  plus : Bool
  blank : Bool
  marked : Bool
  zeros : Bool
  width : Option Nat
  precision : Option Nat

def Place.layout (place : Place) (supply : Supply) : Except TemplateFault (Layout × Supply) := do
  let supply ← match place.key with
    | none => pure supply
    | some key => match supply.mapping with
      | none => throw .noMapping
      | some fields => match Json.field? fields key with
        | none => throw (.noKey key)
        | some value => pure { supply with values := [value] }
  let (left, width, supply) ← match place.width with
    | none => pure (place.left, none, supply)
    | some (.given n) => pure (place.left, some n, supply)
    | some .taken => do
        let (n, supply) ← supply.takeWhole
        if n < -(Number.twoTo 63 : Int) ∨ (Number.twoTo 63 : Int) ≤ n then throw .starWidth
        pure (place.left || n < 0, some n.natAbs, supply)
  let (precision, supply) ← match place.precision with
    | none => pure (none, supply)
    | some (.given n) => pure (some n, supply)
    | some .taken => do
        let (n, supply) ← supply.takeWhole
        if n < -(Number.twoTo 31 : Int) ∨ (Number.twoTo 31 : Int) ≤ n then throw .starPrecision
        pure (some n.toNat, supply)
  return (⟨left, place.plus, place.blank, place.marked, place.zeros, width, precision⟩, supply)

/-- Text to be laid out: a sign apart, the mark of its base, and the rest. -/
structure Body where
  sign : Option Char
  mark : List Char
  text : List Char

def Layout.sign (layout : Layout) (negative : Bool) : Option Char :=
  if negative then some '-'
  else if layout.plus then some '+'
  else if layout.blank then some ' '
  else none

/-- Fills a text up to the width. Zeros stand between sign and digits, spaces outside. -/
def Layout.fill (layout : Layout) (zeros : Bool) (body : Body) : List Char :=
  let lead := body.sign.toList ++ body.mark
  let missing := layout.width.getD 0 - (lead.length + body.text.length)
  if layout.left then lead ++ body.text ++ List.replicate missing ' '
  else if zeros then lead ++ List.replicate missing '0' ++ body.text
  else List.replicate missing ' ' ++ lead ++ body.text

def Layout.fillText (layout : Layout) (text : String) : List Char :=
  let text := match layout.precision with
    | none => text.toList
    | some n => text.toList.take n
  layout.fill false ⟨none, [], text⟩

def Layout.fillWhole (layout : Layout) (letter : Char) (value : Int) : List Char :=
  let base := if letter = 'o' then 8 else if letter = 'x' ∨ letter = 'X' then 16 else 10
  let digits := Nat.toDigits base value.natAbs
  let digits := List.replicate (layout.precision.getD 0 - digits.length) '0' ++ digits
  let mark := if layout.marked ∧ base ≠ 10 then ['0', if base = 8 then 'o' else 'x'] else []
  let raised (text : List Char) : List Char :=
    if letter = 'X' then text.map Char.toUpper else text
  layout.fill layout.zeros ⟨layout.sign (value < 0), raised mark, raised digits⟩

def floatText (letter : Char) (marked : Bool) (precision mantissa : Nat) (exponent : Int) :
    List Char :=
  let plain := letter.toLower
  if plain = 'f' then
    Number.Binary64.placesOf precision mantissa exponent ++
      if marked ∧ precision = 0 then ['.'] else []
  else if plain = 'e' then
    let text := Number.Binary64.scientificOf precision mantissa exponent
    if marked ∧ precision = 0 then
      text.takeWhile (· ≠ 'e') ++ '.' :: text.dropWhile (· ≠ 'e')
    else text
  else Number.Binary64.generalOf precision marked mantissa exponent

def Layout.fillFloat (layout : Layout) (letter : Char) (value : Number.Binary64) : List Char :=
  let raised (text : List Char) : List Char :=
    if letter.isUpper then text.map Char.toUpper else text
  match value with
  | .nan => layout.fill layout.zeros ⟨layout.sign false, [], raised ['n', 'a', 'n']⟩
  | .infinite negative =>
      layout.fill layout.zeros ⟨layout.sign negative, [], raised ['i', 'n', 'f']⟩
  | .finite negative mantissa exponent =>
      layout.fill layout.zeros ⟨layout.sign negative, [],
        raised (floatText letter layout.marked (layout.precision.getD 6) mantissa exponent)⟩

/-- The whole number for a conversion: a float loses its fraction where base ten is asked for. -/
def wholeFor (letter : Char) (value : Json) : Except TemplateFault Int :=
  match value.wholeValue? with
  | some n => .ok n
  | none =>
      if letter = 'o' ∨ letter = 'x' ∨ letter = 'X' then .error (.integer letter value.kind)
      else match value with
        | .float .nan => .error .notANumber
        | .float (.infinite _) => .error .infinite
        | .float (.finite negative mantissa exponent) =>
            .ok (Number.Binary64.truncated negative mantissa exponent)
        | _ => .error (.realNumber letter value.kind)

def floatFor (value : Json) : Except TemplateFault Number.Binary64 :=
  match value with
  | .float number => .ok number
  | _ => match value.wholeValue? with
    | none => .error (.float value.kind)
    | some n => match Number.Binary64.ofWhole? n with
      | some number => .ok number
      | none => .error .tooLarge

def characterFor (value : Json) : Except TemplateFault Char :=
  match value with
  | .text text => match text.toList with
    | [c] => .ok c
    | _ => .error .character
  | _ => match value.wholeValue? with
    | none => .error .character
    | some n =>
        if n < 0 ∨ 0x10FFFF < n then .error .characterRange else .ok (Char.ofNat n.toNat)

def Layout.convert (layout : Layout) (letter : Char) (position : Nat) (value : Json) :
    Except TemplateFault (List Char) :=
  if letter = 's' then .ok (layout.fillText value.shown)
  else if letter = 'r' then .ok (layout.fillText value.displayed)
  else if letter = 'a' then .ok (layout.fillText value.asciiDisplayed)
  else if ['d', 'i', 'u', 'o', 'x', 'X'].contains letter then
    (wholeFor letter value).map (layout.fillWhole letter)
  else if ['e', 'E', 'f', 'F', 'g', 'G'].contains letter then
    (floatFor value).map (layout.fillFloat letter)
  else if letter = 'c' then
    (characterFor value).map fun c => layout.fill false ⟨none, [], [c]⟩
  else .error (.letter letter position)

/-- Fills one piece. Where values are looked up by key, none may be left over. -/
def Piece.fill (piece : Piece) (supply : Supply) :
    Except TemplateFault (List Char × Supply) := do
  match piece with
  | .literal c => return ([c], supply)
  | .broken spot fault =>
      if fault = .openKey ∧ supply.mapping.isNone then throw .noMapping
      let _ ← spot.layout supply
      throw (.broken fault)
  | .place spot letter position =>
      let (layout, supply) ← spot.layout supply
      let (value, supply) ← supply.take
      let text ← layout.convert letter position value
      if supply.mapping.isSome ∧ supply.values ≠ [] then throw .tooManyArguments
      return (text, supply)

def fillPieces (supply : Supply) : List Piece → Except TemplateFault (List Char)
  | [] => if supply.mapping.isNone ∧ supply.values ≠ [] then .error .tooManyArguments else .ok []
  | piece :: rest => do
      let (text, supply) ← piece.fill supply
      let more ← fillPieces supply rest
      return text ++ more

/-- A template filled with its arguments; without arguments it stands as it is. -/
def fillTemplate (template : String) (arguments : List Json) : Except TemplateFault String :=
  if arguments = [] then .ok template
  else
    (fillPieces (Supply.ofArguments arguments) (piecesFrom 0 none template.toList)).map
      String.ofList

end ProjectScan.Log
