import Mathlib.Tactic.ByContra
import ProjectScan.Json.Reader

/-!
JSON text at its beginning. Gaps in front of a text are passed over, and every other character has to
start a lexeme. So a text that can be read begins, gaps aside, with one of a few characters.
-/

namespace ProjectScan.Json

open Text (doubleQuote)

def starters : List Char :=
  ['[', ']', '\x7b', '\x7d', ',', ':', doubleQuote, '-', '0', '1', '2', '3', '4', '5', '6', '7', '8',
    '9', 'n', 't', 'f', 'N', 'I']

theorem forall_isDigit {P : Char → Prop} (all : ∀ value < 10, P (Char.ofNat (48 + value))) {c : Char}
    (digit : c.isDigit = true) : P c := by
  have bounds : 48 ≤ c.toNat ∧ c.toNat ≤ 57 := Char.isDigit_iff_toNat.mp digit
  have known := all (c.toNat - 48) (by omega)
  rwa [show 48 + (c.toNat - 48) = c.toNat by omega, Char.ofNat_toNat] at known

theorem punctuation?_of_notMem {c : Char} (stray : c ∉ starters) : punctuation? c = none := by
  unfold punctuation?
  simp only [starters, List.mem_cons, not_or] at stray
  simp [stray]

theorem named?_of_head {c : Char} (other : ∀ entry ∈ names, entry.1.head? ≠ some c)
    (rest : List Char) : named? (c :: rest) = none := by
  unfold named?
  rw [Option.map_eq_none_iff, List.find?_eq_none]
  intro entry member found
  have spelled : ∀ entry ∈ names, entry.1 ≠ [] := by decide
  obtain ⟨head, more, spelling⟩ := List.exists_cons_of_ne_nil (spelled entry member)
  rw [spelling, List.isPrefixOf_cons_cons, Bool.and_eq_true, beq_iff_eq] at found
  apply other entry member
  rw [spelling, found.1]
  rfl

theorem named?_of_notMem {c : Char} (stray : c ∉ starters) (rest : List Char) :
    named? (c :: rest) = none := by
  apply named?_of_head
  intro entry member begins
  have first : names.all (fun entry => entry.1.head?.all starters.contains) = true := by decide
  have starts := List.all_eq_true.mp first entry member
  rw [begins] at starts
  exact stray (List.contains_iff_mem.mp starts)

theorem numeral?_of_notMem {c : Char} (stray : c ∉ starters) (rest : List Char) :
    numeral? false (c :: rest) = none := by
  have noDigit : c.isDigit = false := by
    by_contra digit
    exact stray (forall_isDigit (P := (· ∈ starters)) (by decide) (Bool.of_not_eq_false digit))
  have noZero : c ≠ '0' := by
    rintro rfl
    cases noDigit
  have noWhole : leadingWhole? (c :: rest) = none := by
    unfold leadingWhole?
    split
    · rename_i same
      exact absurd (List.cons.inj same).1 noZero
    · simp [leadingDigits, noDigit]
  unfold numeral?
  rw [noWhole]

theorem nextLexeme_of_notMem {c : Char} (stray : c ∉ starters) (rest : List Char) :
    nextLexeme c rest = (.junk, []) := by
  have noQuote : c ≠ doubleQuote := by
    rintro rfl
    exact stray (by decide)
  have noSign : c ≠ '-' := by
    rintro rfl
    exact stray (by decide)
  unfold nextLexeme
  rw [punctuation?_of_notMem stray]
  dsimp only
  rw [if_neg noQuote, named?_of_notMem stray]
  dsimp only
  rw [if_neg noSign, numeral?_of_notMem stray]

@[simp] theorem lexemes_nil : lexemes [] = [] := by
  unfold lexemes
  rfl

theorem lexemes_gap {c : Char} (gap : isGap c = true) (rest : List Char) :
    lexemes (c :: rest) = lexemes rest := by
  rw [lexemes, if_pos gap]

theorem lexemes_solid {c : Char} (solid : isGap c = false) (rest : List Char) :
    lexemes (c :: rest) =
      ⟨(nextLexeme c rest).1, c :: rest⟩ :: lexemes (nextLexeme c rest).2 := by
  rw [lexemes, if_neg (by simp [solid])]

theorem lexemes_dropWhile (source : List Char) :
    lexemes (source.dropWhile isGap) = lexemes source := by
  induction source with
  | nil => rfl
  | cons c rest ih =>
      cases gap : isGap c with
      | true => rw [List.dropWhile_cons, if_pos gap, ih, lexemes_gap gap]
      | false => rw [List.dropWhile_cons, if_neg (by simp [gap])]

theorem readValue_dropWhile (source : List Char) :
    readValue (source.dropWhile isGap) = readValue source := by
  unfold readValue
  rw [lexemes_dropWhile]

theorem mem_starters_of_readValue {c : Char} {rest : List Char} {value : Json}
    (solid : isGap c = false) (reads : readValue (c :: rest) = .ok value) : c ∈ starters := by
  by_contra stray
  unfold readValue at reads
  rw [lexemes_solid solid, nextLexeme_of_notMem stray] at reads
  cases reads

/-- A byte order mark starts no lexeme, so nothing is refused for it that could be read. -/
theorem read_eq_ok_iff {source : List Char} {value : Json} :
    read source = .ok value ↔ readValue source = .ok value := by
  unfold read
  split
  · rename_i marked
    constructor
    · nofun
    · intro reads
      obtain ⟨rest, rfl⟩ := List.head?_eq_some_iff.mp marked
      have starts := mem_starters_of_readValue (by decide) reads
      exact absurd starts (by decide)
  · cases reads : readValue source with
    | ok found => simp
    | error stop => cases stop <;> simp

end ProjectScan.Json
