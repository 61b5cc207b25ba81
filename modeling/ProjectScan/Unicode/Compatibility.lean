import Std.Data.HashMap
import ProjectScan.Text.Cut
import ProjectScan.Text.Quoted
import ProjectScan.Unicode.CompatibilityData
import ProjectScan.Unicode.CompositionData

/-!
Normalization form KC: every character is replaced by its full compatibility decomposition, marks
are put in canonical order, and what composes is composed again. Hangul syllables are decomposed
and composed by arithmetic.
-/

namespace ProjectScan.Unicode

def hexNumber (digits : List Char) : Nat :=
  digits.foldl (fun sofar c => sofar * 16 + (Text.hexValue? c).getD 0) 0

def entries (rows : List String) : List (List Nat) :=
  rows.flatMap fun row =>
    (Text.pieces (· == ';') row.toList).filterMap fun entry =>
      if entry = [] then none else some ((Text.pieces (· == ' ') entry).map hexNumber)

def tableOf (rows : List String) : Std.HashMap Nat (List Nat) :=
  (entries rows).foldl (fun table entry => match entry with
    | key :: values => table.insert key values
    | [] => table) {}

def compatibility : Std.HashMap Nat (List Nat) := tableOf compatibilityRows

def composites : Std.HashMap (Nat × Nat) Nat :=
  (entries compositionRows).foldl (fun table entry => match entry with
    | [first, second, whole] => table.insert (first, second) whole
    | _ => table) {}

def combiningClass (n : Nat) : Nat :=
  match combiningRuns.find? fun run => run.1 ≤ n ∧ n ≤ run.2.1 with
  | some run => run.2.2
  | none => 0

/-- Hangul syllables start here; a syllable is a lead, a vowel and one of 28 tails or none. -/
def firstSyllable : Nat := 0xAC00
def firstLead : Nat := 0x1100
def firstVowel : Nat := 0x1161
def beforeTails : Nat := 0x11A7

def syllableParts (n : Nat) : List Nat :=
  let index := n - firstSyllable
  let parts := [firstLead + index / 588, firstVowel + index % 588 / 28]
  if index % 28 = 0 then parts else parts ++ [beforeTails + index % 28]

def decomposed (n : Nat) : List Nat :=
  if firstSyllable ≤ n ∧ n < firstSyllable + 11172 then syllableParts n
  else (compatibility.get? n).getD [n]

/-- Puts a code point before the marks of higher class at the end of a text in reverse order. -/
def placeMark (n cls : Nat) : List Nat → List Nat
  | [] => [n]
  | last :: before =>
      if cls < combiningClass last then last :: placeMark n cls before else n :: last :: before

/-- Marks between characters of class zero in the order of their classes, equal classes as they
stand. -/
def ordered (text : List Nat) : List Nat :=
  (text.foldl (fun reversed n =>
    let cls := combiningClass n
    if cls = 0 then n :: reversed else placeMark n cls reversed) []).reverse

def composite? (first second : Nat) : Option Nat :=
  if firstLead ≤ first ∧ first < firstLead + 19 ∧ firstVowel ≤ second ∧
      second < firstVowel + 21 then
    some (firstSyllable + ((first - firstLead) * 21 + (second - firstVowel)) * 28)
  else if firstSyllable ≤ first ∧ first < firstSyllable + 11172 ∧
      (first - firstSyllable) % 28 = 0 ∧ beforeTails < second ∧ second < beforeTails + 28 then
    some (first + (second - beforeTails))
  else composites.get? (first, second)

/-- Composition, from a starter and the marks after it that did not compose, the last one first. -/
def composedFrom (starter : Nat) (marks : List Nat) : List Nat → List Nat
  | [] => starter :: marks.reverse
  | n :: rest =>
      let cls := combiningClass n
      let free := match marks with
        | [] => true
        | last :: _ => combiningClass last < cls
      match if free then composite? starter n else none with
      | some whole => composedFrom whole marks rest
      | none =>
          if cls = 0 then starter :: (marks.reverse ++ composedFrom n [] rest)
          else composedFrom starter (n :: marks) rest

def composed : List Nat → List Nat
  | [] => []
  | n :: rest => composedFrom n [] rest

def compatibilityForm (text : List Char) : List Char :=
  (composed (ordered ((text.map Char.toNat).flatMap decomposed))).map Char.ofNat

end ProjectScan.Unicode
