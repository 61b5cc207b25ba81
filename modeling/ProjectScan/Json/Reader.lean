import ProjectScan.Json.Lexeme

/-!
Reading JSON text. The lexemes are taken one by one; what may come next depends on the containers
that are still open and on what the innermost of them holds so far. The first lexeme that may not
come is the fault, and its place is part of what is said about it.
-/

namespace ProjectScan.Json

/-- A container that is not closed yet: a list with its items, the newest first, or an object with
its complete fields and the key whose value is being read. -/
inductive Open where
  | list (items : List Json)
  | object (fields : List (String × Json)) (key : String)

/-- What may come next, inside the containers `outer`, the innermost first. -/
inductive Expecting where
  | value (outer : List Open)
  | itemOrEnd (outer : List Open)
  | keyOrEnd (outer : List Open)
  | key (fields : List (String × Json)) (outer : List Open)
  | colon (fields : List (String × Json)) (key : String) (outer : List Open)
  | more (value : Json) (outer : List Open)

inductive Wrong where
  | value
  | key
  | colon
  | comma
  | extra
  | text (fault : TextFault)
  | byteOrderMark
  deriving DecidableEq, Repr

def Wrong.message : Wrong → String
  | .value => "Expecting value"
  | .key => "Expecting property name enclosed in double quotes"
  | .colon => "Expecting ':' delimiter"
  | .comma => "Expecting ',' delimiter"
  | .extra => "Extra data"
  | .text .unterminated => "Unterminated string starting at"
  | .text .control => "Invalid control character at"
  | .text .escape => "Invalid \\escape"
  | .text .code => "Invalid \\uXXXX escape"
  | .byteOrderMark => "Unexpected UTF-8 BOM (decode using utf-8-sig)"

/-- Why reading stopped: something wrong at a place, given as the rest of the text from there on,
or a number with too many digits. -/
inductive Stop where
  | wrong (what : Wrong) (place : List Char)
  | tooLong (digits : Nat)

/-- The value of a number: whole without fraction and power, else the nearest float. -/
def Numeral.value (numeral : Numeral) : Except Stop Json :=
  match numeral.fraction, numeral.power with
  | none, none =>
      match Number.readDigits numeral.whole with
      | .ok n => .ok (.whole (if numeral.negative then -(n : Int) else n))
      | .error (.tooLong digits) => .error (.tooLong digits)
      | .error .malformed => .error (.wrong .value [])
  | fraction, power =>
      .ok (.float (Number.Binary64.ofParts numeral.negative numeral.whole (fraction.getD [])
        (power.getD 0)))

def begin? (outer : List Open) (next : Placed) : Except Stop Expecting :=
  match next.lexeme with
  | .openList => .ok (.itemOrEnd outer)
  | .openObject => .ok (.keyOrEnd outer)
  | .text value => .ok (.more (.text (String.ofList value)) outer)
  | .numeral value => value.value.map (.more · outer)
  | .named value => .ok (.more value outer)
  | .broken fault place => .error (.wrong (.text fault) place)
  | _ => .error (.wrong .value next.place)

def beginKey? (fields : List (String × Json)) (outer : List Open) (next : Placed) :
    Except Stop Expecting :=
  match next.lexeme with
  | .text key => .ok (.colon fields (String.ofList key) outer)
  | .broken fault place => .error (.wrong (.text fault) place)
  | _ => .error (.wrong .key next.place)

def continue? (value : Json) (outer : List Open) (next : Placed) : Except Stop Expecting :=
  match outer, next.lexeme with
  | [], _ => .error (.wrong .extra next.place)
  | .list items :: outer, .comma => .ok (.value (.list (value :: items) :: outer))
  | .list items :: outer, .closeList => .ok (.more (.list (value :: items).reverse) outer)
  | .object fields key :: outer, .comma => .ok (.key (setField fields key value) outer)
  | .object fields key :: outer, .closeObject =>
      .ok (.more (.object (setField fields key value)) outer)
  | _, _ => .error (.wrong .comma next.place)

def take? (expecting : Expecting) (next : Placed) : Except Stop Expecting :=
  match expecting with
  | .value outer => begin? outer next
  | .itemOrEnd outer =>
      match next.lexeme with
      | .closeList => .ok (.more (.list []) outer)
      | _ =>
          -- The first item stands in the list that was opened.
          begin? (.list [] :: outer) next
  | .keyOrEnd outer =>
      match next.lexeme with
      | .closeObject => .ok (.more (.object []) outer)
      | _ => beginKey? [] outer next
  | .key fields outer => beginKey? fields outer next
  | .colon fields key outer =>
      match next.lexeme with
      | .colon => .ok (.value (.object fields key :: outer))
      | _ => .error (.wrong .colon next.place)
  | .more value outer => continue? value outer next

def finish? : Expecting → Except Stop Json
  | .value _ => .error (.wrong .value [])
  | .itemOrEnd _ => .error (.wrong .value [])
  | .keyOrEnd _ => .error (.wrong .key [])
  | .key _ _ => .error (.wrong .key [])
  | .colon _ _ _ => .error (.wrong .colon [])
  | .more value [] => .ok value
  | .more _ (_ :: _) => .error (.wrong .comma [])

def readLexemes (expecting : Expecting) : List Placed → Except Stop Json
  | [] => finish? expecting
  | next :: rest =>
      match take? expecting next with
      | .error stop => .error stop
      | .ok expecting => readLexemes expecting rest

def readValue (source : List Char) : Except Stop Json := readLexemes (.value []) (lexemes source)

/-- What there is no stack left for: one more list or object, or one of the calls that report a
fault. -/
inductive Excess where
  | list
  | object
  | call
  | frame
  deriving DecidableEq, Repr

def Excess.message (excess : Excess) : String :=
  "maximum recursion depth exceeded" ++ match excess with
    | .list => " while decoding a JSON array from a unicode string"
    | .object => " while decoding a JSON object from a unicode string"
    | .call => " while calling a Python object"
    | .frame => ""

inductive Fault where
  | wrong (what : Wrong) (line column offset : Nat)
  | tooLong (digits : Nat)
  | tooDeep (excess : Excess)
  deriving DecidableEq, Repr

def Fault.message : Fault → String
  | .wrong what line column offset =>
      what.message ++ ": line " ++ Number.naturalText line ++ " column " ++
        Number.naturalText column ++ " (char " ++ Number.naturalText offset ++ ")"
  | .tooLong digits => Number.tooLongText digits
  | .tooDeep excess => excess.message

def faultAt (source : List Char) (what : Wrong) (offset : Nat) : Fault :=
  let before := source.take offset
  .wrong what (before.count '\n' + 1) ((Text.afterLast '\n' before).length + 1) offset

def read (source : List Char) : Except Fault Json :=
  if source.head? = some (Char.ofNat 0xFEFF) then .error (faultAt source .byteOrderMark 0)
  else match readValue source with
    | .ok value => .ok value
    | .error (.wrong what place) => .error (faultAt source what (source.length - place.length))
    | .error (.tooLong digits) => .error (.tooLong digits)

def Expecting.depth : Expecting → Nat
  | .value outer | .more _ outer => outer.length
  | .itemOrEnd outer | .keyOrEnd outer | .key _ outer | .colon _ _ outer => outer.length + 1

/-- The levels of the stack that are free for the report of a fault. -/
def reportLevels : Nat := 3

/-- A container that was opened with no level left for it. -/
def Expecting.excess? (room : Nat) : Expecting → Option Excess
  | .itemOrEnd outer => if outer.length < room + reportLevels then none else some .list
  | .keyOrEnd outer => if outer.length < room + reportLevels then none else some .object
  | _ => none

/-- What the report of a fault at some depth has no level left for. A missing value, and what follows
the whole value, are reported outside of all containers. -/
def Stop.excess? (room depth : Nat) : Stop → Option Excess
  | .wrong .key _ | .wrong .colon _ | .wrong .comma _ | .wrong (.text _) _ =>
      if depth ≤ room then none
      else if depth = room + 2 then some .frame
      else some .call
  | _ => none

def excessOn? (room : Nat) (expecting : Expecting) : List Placed → Option Excess
  | [] => match finish? expecting with
      | .error stop => stop.excess? room expecting.depth
      | .ok _ => none
  | next :: rest => match take? expecting next with
      | .error stop => stop.excess? room expecting.depth
      | .ok later => match later.excess? room with
          | some excess => some excess
          | none => excessOn? room later rest

def excess? (room : Nat) (source : List Char) : Option Excess :=
  excessOn? room (.value []) (lexemes source)

/-- Reads a text on a stack that has room for this many containers, besides the levels for a
report. -/
def readWithin (room : Nat) (source : List Char) : Except Fault Json :=
  match excess? room source with
  | some excess => .error (.tooDeep excess)
  | none => read source

/-- The room that there usually is, in a stack of a thousand levels. -/
def usualRoom : Nat := 960

theorem readWithin_eq_ok_iff {room : Nat} {source : List Char} {value : Json} :
    readWithin room source = .ok value ↔ excess? room source = none ∧ read source = .ok value := by
  unfold readWithin
  cases excess? room source <;> simp

theorem read_ne_tooDeep (source : List Char) (excess : Excess) :
    read source ≠ .error (.tooDeep excess) := by
  unfold read faultAt
  split
  · nofun
  · split <;> nofun

theorem readWithin_eq_tooDeep_iff {room : Nat} {source : List Char} {excess : Excess} :
    readWithin room source = .error (.tooDeep excess) ↔ excess? room source = some excess := by
  unfold readWithin
  cases excess? room source with
  | none => simp [read_ne_tooDeep]
  | some other => simp

end ProjectScan.Json
