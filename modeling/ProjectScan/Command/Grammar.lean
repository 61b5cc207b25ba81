import ProjectScan.Number.Whole
import ProjectScan.Text.Cut
import ProjectScan.Text.Quoted

/-!
Command lines: options, which start with a hyphen, and operands. A long option may be cut short as
long as only one begins like it, and its value follows as a word of its own or after an equals
sign. Flags of one letter may stand together behind one hyphen. After a word of two hyphens alone
everything is an operand.

`Grammar.read` first understands every word, then takes the options in order, and last looks at what
is missing or left over; the first misuse met on that way is the one reported.
-/

namespace ProjectScan.Command

/-- What is given for an option: nothing; a value of two hyphens alone, which stands for no value;
or a value. -/
inductive Given (α : Type) where
  | absent
  | blank
  | value (value : α)
  deriving DecidableEq, Repr

/-- Options with their spellings, in the order in which they are declared; which of them have
values; and the name of the operand, if one is wanted. -/
structure Grammar (ω : Type) where
  spellings : List (String × ω)
  hasValue : ω → Bool
  operand : Option String

structure Occurrence (ω : Type) where
  option : ω
  given : Given String
  deriving Repr

/-- A command line that cannot be used. Options go by their label. -/
inductive Misuse where
  | ambiguous (word : String) (spellings : List String)
  | noValue (label : String)
  | unusedValue (label value : String)
  | notWhole (label value : String)
  | missing (operand : String)
  | leftOver (words : List String)
  deriving DecidableEq, Repr

def aboutOption (label message : String) : String := "argument " ++ label ++ ": " ++ message

def Misuse.message : Misuse → String
  | .ambiguous word spellings =>
      "ambiguous option: " ++ word ++ " could match " ++ Text.joined ", " spellings
  | .noValue label => aboutOption label "expected one argument"
  | .unusedValue label value =>
      aboutOption label ("ignored explicit argument " ++ Text.quoted value)
  | .notWhole label value => aboutOption label ("invalid int value: " ++ Text.quoted value)
  | .missing operand => "the following arguments are required: " ++ operand
  | .leftOver words => "unrecognized arguments: " ++ Text.joined " " words

inductive Stop where
  | help
  | version
  | misuse (misuse : Misuse)
  deriving DecidableEq, Repr

/-- How a word is understood. An option comes with its spelling in full and with what is attached
to it. -/
inductive Word (ω : Type) where
  | operand
  | divider
  | option (option : ω) (spelling : String) (attached : Option String)
  | unknown
  deriving Repr

def dividerWord : String := "--"

def givenText (text : String) : Given String :=
  if text = dividerWord then .blank else .value text

def isDecimalDigit (c : Char) : Bool := (Number.plainDigit c).isDigit

def withoutLineEnd (text : List Char) : List Char :=
  if text.getLast? = some '\n' then text.dropLast else text

def isNegativeNumber (word : List Char) : Bool :=
  match word with
  | '-' :: rest =>
      let body := withoutLineEnd rest
      match Text.cutFirst '.' body with
      | (whole, none) => !whole.isEmpty && whole.all isDecimalDigit
      | (whole, some fraction) =>
          whole.all isDecimalDigit && !fraction.isEmpty && fraction.all isDecimalDigit
  | _ => false

def attachedParts (word : String) : String × Option String :=
  let (name, attached) := Text.cutFirst '=' word.toList
  (String.ofList name, attached.map String.ofList)

namespace Grammar

variable {ω : Type} [DecidableEq ω]

def label (grammar : Grammar ω) (option : ω) : String :=
  Text.joined "/" ((grammar.spellings.filter (·.2 = option)).map (·.1))

def spelled? (grammar : Grammar ω) (spelling : String) : Option ω :=
  grammar.spellings.lookup spelling

/-- The options that a word may stand for which is no spelling: those that begin like it and, behind
a single hyphen, the one of its first letter with the others attached. -/
def readings (grammar : Grammar ω) (word : String) : List (ω × String × Option String) :=
  let (name, attached) := attachedParts word
  match word.toList with
  | '-' :: '-' :: _ =>
      (grammar.spellings.filter fun entry => name.toList.isPrefixOf entry.1.toList).map
        fun entry => (entry.2, entry.1, attached)
  | '-' :: letter :: others =>
      grammar.spellings.filterMap fun entry =>
        if entry.1.toList = ['-', letter] then some (entry.2, entry.1, some (String.ofList others))
        else if word.toList.isPrefixOf entry.1.toList then some (entry.2, entry.1, none)
        else none
  | _ => []

/-- Understands a word that is no spelling. A word that stands for no option is an operand when it
is a number or holds a space. -/
def guess (grammar : Grammar ω) (word : String) : Except Misuse (Word ω) :=
  match grammar.readings word with
  | [] =>
      if isNegativeNumber word.toList || word.toList.contains ' ' then .ok .operand
      else .ok .unknown
  | [(option, spelling, attached)] => .ok (.option option spelling attached)
  | several => .error (.ambiguous word (several.map (·.2.1)))

def understandHyphened (grammar : Grammar ω) (word : String) : Except Misuse (Word ω) :=
  match grammar.spelled? word with
  | some option => .ok (.option option word none)
  | none =>
      if word.length = 1 then .ok .operand
      else match attachedParts word with
        | (spelling, some attached) => match grammar.spelled? spelling with
            | some option => .ok (.option option spelling (some attached))
            | none => grammar.guess word
        | (_, none) => grammar.guess word

def understand (grammar : Grammar ω) (word : String) : Except Misuse (Word ω) :=
  match word.toList with
  | '-' :: _ => grammar.understandHyphened word
  | _ => .ok .operand

def understandAll (grammar : Grammar ω) : List String → Except Misuse (List (String × Word ω))
  | [] => .ok []
  | word :: rest =>
      if word = dividerWord then
        .ok ((word, .divider) :: rest.map fun operand => (operand, .operand))
      else
        match grammar.understand word with
        | .error misuse => .error misuse
        | .ok understood => (grammar.understandAll rest).map ((word, understood) :: ·)

/-! ### Taking options -/

/-- The options in one word, from one on that has something attached; and the option whose value
has to follow, if the last one has a value and nothing is attached to it. -/
def unpack (grammar : Grammar ω) (option : ω) (short : Bool) (attached : List Char) :
    Except Misuse (List (Occurrence ω) × Option ω) :=
  let unused : Misuse := .unusedValue (grammar.label option) (String.ofList attached)
  if grammar.hasValue option then .ok ([⟨option, givenText (String.ofList attached)⟩], none)
  else if !short then .error unused
  else match attached with
    | [] => .error unused
    | letter :: others => match grammar.spelled? (String.ofList ['-', letter]) with
      | none => .error unused
      | some next => match others with
        | [] =>
            if grammar.hasValue next then .ok ([⟨option, .absent⟩], some next)
            else .ok ([⟨option, .absent⟩, ⟨next, .absent⟩], none)
        | letters =>
            (grammar.unpack next true letters).map fun found =>
              (⟨option, .absent⟩ :: found.1, found.2)

def options (grammar : Grammar ω) (option : ω) (spelling : String) (attached : Option String) :
    Except Misuse (List (Occurrence ω) × Option ω) :=
  match attached with
  | some text => grammar.unpack option (!"--".toList.isPrefixOf spelling.toList) text.toList
  | none =>
      if grammar.hasValue option then .ok ([], some option) else .ok ([⟨option, .absent⟩], none)

/-- What a command line says: its options in order, up to the first misuse, and either that misuse
or the operand and the words that are left over. -/
structure Reading (ω : Type) where
  occurrences : List (Occurrence ω)
  ending : Except Misuse (Option String × List String)
  deriving Repr

namespace Reading

def failed (misuse : Misuse) : Reading ω := ⟨[], .error misuse⟩

def after (occurrences : List (Occurrence ω)) (reading : Reading ω) : Reading ω :=
  { reading with occurrences := occurrences ++ reading.occurrences }

def withOperand (operand : String) (reading : Reading ω) : Reading ω :=
  { reading with ending := reading.ending.map fun ending => (some operand, ending.2) }

def withLeftOver (word : String) (reading : Reading ω) : Reading ω :=
  { reading with ending := reading.ending.map fun ending => (ending.1, word :: ending.2) }

end Reading

def walk (grammar : Grammar ω) (wanted : Bool) : List (String × Word ω) → Reading ω
  | [] => ⟨[], .ok (none, [])⟩
  | (_, .option option spelling attached) :: rest =>
      match grammar.options option spelling attached with
      | .error misuse => .failed misuse
      | .ok (found, none) => (grammar.walk wanted rest).after found
      | .ok (found, some last) => match rest with
        | (value, .operand) :: rest =>
            (grammar.walk wanted rest).after (found ++ [⟨last, .value value⟩])
        | _ => .failed (.noValue (grammar.label last))
  | (word, .unknown) :: rest => (grammar.walk wanted rest).withLeftOver word
  | (word, .operand) :: rest =>
      if wanted then match rest with
        | (_, .divider) :: rest => (grammar.walk false rest).withOperand word
        | rest => (grammar.walk false rest).withOperand word
      else (grammar.walk wanted rest).withLeftOver word
  | (word, .divider) :: rest =>
      if wanted then match rest with
        | (operand, .operand) :: rest => (grammar.walk false rest).withOperand operand
        | rest => (grammar.walk wanted rest).withLeftOver word
      else (grammar.walk wanted rest).withLeftOver word

def conclude (grammar : Grammar ω) (ending : Except Misuse (Option String × List String)) :
    Except Misuse (Option String) :=
  match ending with
  | .error misuse => .error misuse
  | .ok (operand, leftOver) =>
      match grammar.operand, operand with
      | some name, none => .error (.missing name)
      | _, _ => if leftOver.isEmpty then .ok operand else .error (.leftOver leftOver)

def applyAll {α : Type} (apply : α → Occurrence ω → Except Stop α) (start : α) :
    List (Occurrence ω) → Except Stop α
  | [] => .ok start
  | occurrence :: rest => match apply start occurrence with
    | .error stop => .error stop
    | .ok next => applyAll apply next rest

def read {α : Type} (grammar : Grammar ω) (apply : α → Occurrence ω → Except Stop α) (start : α)
    (words : List String) : Except Stop (α × Option String) :=
  match grammar.understandAll words with
  | .error misuse => .error (.misuse misuse)
  | .ok understood =>
      let reading := grammar.walk grammar.operand.isSome understood
      match applyAll apply start reading.occurrences with
      | .error stop => .error stop
      | .ok taken => match grammar.conclude reading.ending with
        | .error misuse => .error (.misuse misuse)
        | .ok operand => .ok (taken, operand)

end Grammar

end ProjectScan.Command
