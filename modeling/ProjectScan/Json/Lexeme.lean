import ProjectScan.Json.Value
import ProjectScan.Number.Decimal
import ProjectScan.Text.Quoted

/-!
The lexemes of JSON text: punctuation, texts in quotes, numbers and the named values. Every lexeme
keeps the place where it starts, as the rest of the text from there on. The first character that
starts no lexeme, or a text that does not end well, is the last lexeme. Besides `null`, `true` and
`false` the names `NaN`, `Infinity` and `-Infinity` are values.
-/

namespace ProjectScan.Json

open Text (backslash doubleQuote hexValue?)

inductive TextFault where
  | unterminated
  | control
  | escape
  | code
  deriving DecidableEq, Repr

structure Numeral where
  negative : Bool
  whole : List Char
  fraction : Option (List Char)
  power : Option Int
  deriving DecidableEq, Repr

inductive Lexeme where
  | openList
  | closeList
  | openObject
  | closeObject
  | comma
  | colon
  | text (value : List Char)
  | numeral (value : Numeral)
  | named (value : Json)
  | broken (fault : TextFault) (place : List Char)
  | junk
  deriving Repr

structure Placed where
  lexeme : Lexeme
  place : List Char
  deriving Repr

def isGap (c : Char) : Bool := c = ' ' || c = '\t' || c = '\n' || c = '\r'

def codeUnit? (a b c d : Char) : Option Nat := do
  let a ← hexValue? a
  let b ← hexValue? b
  let c ← hexValue? c
  let d ← hexValue? d
  return ((a * 16 + b) * 16 + c) * 16 + d

/-- The character of two code units that follow one another, if they are halves of one. -/
def pairedUnits? (high low : Nat) : Option Char :=
  if 0xD800 ≤ high ∧ high ≤ 0xDBFF ∧ 0xDC00 ≤ low ∧ low ≤ 0xDFFF then
    some (Char.ofNat (0x10000 + (high - 0xD800) * 0x400 + (low - 0xDC00)))
  else none

/-- The character of a single code unit; a half without its other half has none of its own. -/
def unitChar (unit : Nat) : Char :=
  if 0xD800 ≤ unit ∧ unit ≤ 0xDFFF then Char.ofNat 0xFFFD else Char.ofNat unit

def shortEscape? (c : Char) : Option Char :=
  if c = doubleQuote ∨ c = backslash ∨ c = '/' then some c
  else if c = 'b' then some '\x08'
  else if c = 'f' then some '\x0c'
  else if c = 'n' then some '\n'
  else if c = 'r' then some '\r'
  else if c = 't' then some '\t'
  else none

def leadingUnit? : List Char → Option Nat
  | slash :: 'u' :: a :: b :: c :: d :: _ :: _ =>
      if slash = backslash then codeUnit? a b c d else none
  | _ => none

/-- Reads a text up to its closing quote. The other half of a pair is read with the first and
then passed over, which `skip` counts. -/
def quotedText (skip : Nat) : List Char → Except (TextFault × List Char) (List Char × List Char)
  | [] => .error (.unterminated, [])
  | c :: rest =>
      if 0 < skip then quotedText (skip - 1) rest
      else if c = doubleQuote then .ok ([], rest)
      else if c = backslash then
        match rest with
        | [] => .error (.unterminated, [])
        | 'u' :: rest' =>
            match leadingUnit? (c :: rest) with
            | none => .error (.code, rest)
            | some unit =>
                match (leadingUnit? (rest'.drop 4)).bind (pairedUnits? unit) with
                | some both => (quotedText 10 rest').map fun read => (both :: read.1, read.2)
                | none => (quotedText 4 rest').map fun read => (unitChar unit :: read.1, read.2)
        | letter :: rest' =>
            match shortEscape? letter with
            | none => .error (.escape, c :: rest)
            | some plain => (quotedText 0 rest').map fun read => (plain :: read.1, read.2)
      else if c.toNat < 0x20 then .error (.control, c :: rest)
      else (quotedText 0 rest).map fun read => (c :: read.1, read.2)

def leadingDigits (source : List Char) : List Char × List Char :=
  (source.takeWhile Char.isDigit, source.dropWhile Char.isDigit)

def leadingSign : List Char → Bool × List Char
  | '-' :: rest => (true, rest)
  | '+' :: rest => (false, rest)
  | rest => (false, rest)

def leadingWhole? : List Char → Option (List Char × List Char)
  | '0' :: rest => some (['0'], rest)
  | source =>
      if (leadingDigits source).1 = [] then none else some (leadingDigits source)

def leadingFraction : List Char → Option (List Char) × List Char
  | '.' :: rest =>
      if (leadingDigits rest).1 = [] then (none, '.' :: rest)
      else (some (leadingDigits rest).1, (leadingDigits rest).2)
  | rest => (none, rest)

def leadingPower : List Char → Option Int × List Char
  | mark :: rest =>
      if (mark = 'e' ∨ mark = 'E') ∧ (leadingDigits (leadingSign rest).2).1 ≠ [] then
        let power : Int := Nat.ofDigitChars 10 (leadingDigits (leadingSign rest).2).1 0
        (some (if (leadingSign rest).1 then -power else power),
          (leadingDigits (leadingSign rest).2).2)
      else (none, mark :: rest)
  | [] => (none, [])

def numeral? (negative : Bool) (source : List Char) : Option (Numeral × List Char) :=
  match leadingWhole? source with
  | none => none
  | some (digits, rest) =>
      let (fraction, rest) := leadingFraction rest
      let (power, rest) := leadingPower rest
      some (⟨negative, digits, fraction, power⟩, rest)

def names : List (List Char × Json) := [
  (['n', 'u', 'l', 'l'], .null), (['t', 'r', 'u', 'e'], .bool true),
  (['f', 'a', 'l', 's', 'e'], .bool false), (['N', 'a', 'N'], .float .nan),
  (['I', 'n', 'f', 'i', 'n', 'i', 't', 'y'], .float (.infinite false)),
  (['-', 'I', 'n', 'f', 'i', 'n', 'i', 't', 'y'], .float (.infinite true))]

def named? (source : List Char) : Option (Json × List Char) :=
  (names.find? fun entry => entry.1.isPrefixOf source).map fun entry =>
    (entry.2, source.drop entry.1.length)

def punctuation? (c : Char) : Option Lexeme :=
  if c = '[' then some .openList
  else if c = ']' then some .closeList
  else if c = '{' then some .openObject
  else if c = '}' then some .closeObject
  else if c = ',' then some .comma
  else if c = ':' then some .colon
  else none

def nextLexeme (c : Char) (rest : List Char) : Lexeme × List Char :=
  match punctuation? c with
  | some lexeme => (lexeme, rest)
  | none =>
      if c = doubleQuote then
        match quotedText 0 rest with
        | .ok (value, rest) => (.text value, rest)
        | .error (.unterminated, _) => (.broken .unterminated (c :: rest), [])
        | .error (fault, place) => (.broken fault place, [])
      else
        match named? (c :: rest) with
        | some (value, rest) => (.named value, rest)
        | none =>
            match if c = '-' then numeral? true rest else numeral? false (c :: rest) with
            | some (value, rest) => (.numeral value, rest)
            | none => (.junk, [])

theorem rest_length_of_map {read : Except (TextFault × List Char) (List Char × List Char)}
    {head : Char} {value rest : List Char} {bound : Nat}
    (shorter : ∀ {value rest}, read = .ok (value, rest) → rest.length < bound)
    (mapped : (read.map fun read => (head :: read.1, read.2)) = .ok (value, rest)) :
    rest.length < bound := by
  cases read with
  | error fault => simp [Except.map] at mapped
  | ok pair =>
      simp only [Except.map, Except.ok.injEq, Prod.mk.injEq] at mapped
      exact mapped.2 ▸ shorter rfl

theorem quotedText_length {skip : Nat} {source value rest : List Char}
    (read : quotedText skip source = .ok (value, rest)) : rest.length < source.length := by
  fun_induction quotedText skip source generalizing value rest
  all_goals try contradiction
  case case2 ih => exact Nat.lt_succ_of_lt (ih read)
  case case3 =>
    simp only [Except.ok.injEq, Prod.mk.injEq] at read
    simp [read.2]
  case case5 => simp_all
  case case6 unit both paired _ leading ih =>
    simp only [leading, paired] at read
    exact Nat.lt_succ_of_lt (Nat.lt_succ_of_lt (rest_length_of_map ih read))
  case case7 unit single _ leading ih =>
    simp only [leading, single] at read
    exact Nat.lt_succ_of_lt (Nat.lt_succ_of_lt (rest_length_of_map ih read))
  case case9 ih => exact Nat.lt_succ_of_lt (Nat.lt_succ_of_lt (rest_length_of_map ih read))
  case case11 ih => exact Nat.lt_succ_of_lt (rest_length_of_map ih read)

theorem leadingDigits_append (source : List Char) :
    (leadingDigits source).1 ++ (leadingDigits source).2 = source :=
  List.takeWhile_append_dropWhile

theorem leadingDigits_length (source : List Char) :
    (leadingDigits source).1.length + (leadingDigits source).2.length = source.length := by
  rw [← List.length_append, leadingDigits_append]

theorem leadingSign_length (source : List Char) :
    (leadingSign source).2.length ≤ source.length := by
  unfold leadingSign
  split <;> simp

theorem leadingWhole_length {source digits rest : List Char}
    (read : leadingWhole? source = some (digits, rest)) : rest.length < source.length := by
  unfold leadingWhole? at read
  split at read
  · simp only [Option.some.injEq, Prod.mk.injEq] at read
    simp [read.2]
  · split at read
    · cases read
    · rename_i nonempty
      have total := leadingDigits_length source
      have positive := List.length_pos_iff.mpr nonempty
      rw [Option.some.inj read] at total positive
      simp only at total positive
      omega

theorem leadingFraction_length (source : List Char) :
    (leadingFraction source).2.length ≤ source.length := by
  unfold leadingFraction
  split
  · rename_i rest
    have total := leadingDigits_length rest
    split <;> simp only [List.length_cons] <;> omega
  · exact Nat.le_refl _

theorem leadingPower_length (source : List Char) :
    (leadingPower source).2.length ≤ source.length := by
  unfold leadingPower
  split
  · rename_i mark rest
    have total := leadingDigits_length (leadingSign rest).2
    have signless := leadingSign_length rest
    split <;> simp only [List.length_cons] <;> omega
  · exact Nat.le_refl _

theorem numeral_length {negative : Bool} {source rest : List Char} {value : Numeral}
    (read : numeral? negative source = some (value, rest)) : rest.length < source.length := by
  unfold numeral? at read
  split at read
  · cases read
  · rename_i digits more whole
    have first := leadingWhole_length whole
    have second := leadingFraction_length more
    have third := leadingPower_length (leadingFraction more).2
    simp only [Option.some.injEq, Prod.mk.injEq] at read
    rw [← read.2]
    omega

theorem named_length {source rest : List Char} {value : Json}
    (read : named? source = some (value, rest)) : rest.length < source.length := by
  unfold named? at read
  obtain ⟨entry, found, same⟩ := Option.map_eq_some_iff.mp read
  have starts := List.find?_some found
  have member := List.mem_of_find?_eq_some found
  have longest := (List.isPrefixOf_iff_prefix.mp starts).length_le
  have nonempty : 0 < entry.1.length := by
    have all : names.all (fun entry => 0 < entry.1.length) = true := by decide
    exact of_decide_eq_true (List.all_eq_true.mp all entry member)
  simp only [Prod.mk.injEq] at same
  rw [← same.2, List.length_drop]
  omega

theorem nextLexeme_length (c : Char) (rest : List Char) :
    (nextLexeme c rest).2.length ≤ rest.length := by
  unfold nextLexeme
  split
  · exact Nat.le_refl _
  · split
    · split
      · rename_i read
        exact Nat.le_of_lt (quotedText_length read)
      · exact Nat.zero_le _
      · exact Nat.zero_le _
    · split
      · rename_i read
        exact Nat.le_of_lt_succ (named_length read)
      · split
        · rename_i read
          split at read
          · exact Nat.le_of_lt (numeral_length read)
          · exact Nat.le_of_lt_succ (numeral_length read)
        · exact Nat.zero_le _

/-- The lexemes of a text. Nothing is read after one that is broken or junk. -/
def lexemes : List Char → List Placed
  | [] => []
  | c :: rest =>
      if isGap c then lexemes rest
      else ⟨(nextLexeme c rest).1, c :: rest⟩ :: lexemes (nextLexeme c rest).2
  termination_by source => source.length
  decreasing_by
    · simp
    · exact Nat.lt_succ_of_le (nextLexeme_length c rest)

end ProjectScan.Json
