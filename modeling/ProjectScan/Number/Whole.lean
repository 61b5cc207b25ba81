import ProjectScan.Text.Blank
import ProjectScan.Unicode.Numeral

/-!
Whole numbers as text. A number is written with the fewest digits. Reading accepts blanks around
the number, one sign, digits of any script and single low lines between digits; more than 4300
digits are refused, so reading stays cheap.
-/

namespace ProjectScan.Number

def naturalDigits (n : Nat) : List Char := Nat.toDigits 10 n

def naturalText (n : Nat) : String := String.ofList (naturalDigits n)

def wholeText : Int → String
  | .ofNat n => naturalText n
  | .negSucc n => "-" ++ naturalText (n + 1)

def digitLimit : Nat := 4300

inductive WholeFault where
  | malformed
  | tooLong (digits : Nat)
  deriving DecidableEq, Repr

def tooLongText (digits : Nat) : String :=
  "Exceeds the limit (4300 digits) for integer string conversion: value has " ++
    naturalText digits ++ " digits; use sys.set_int_max_str_digits() to increase the limit"

def readDigits (digits : List Char) : Except WholeFault Nat :=
  if digits.length ≤ digitLimit then .ok (Nat.ofDigitChars 10 digits 0)
  else .error (.tooLong digits.length)

/-- Blanks that may surround a numeral: all but the four ASCII separators. -/
def surroundsNumeral (c : Char) : Bool :=
  Text.isBlank c && !(0x1C ≤ c.toNat && c.toNat ≤ 0x1F)

def plainDigit (c : Char) : Char :=
  if Text.isAscii c then c
  else match Unicode.digitValue? c with
    | some value => Nat.digitChar value
    | none => c

/-- Removes low lines that stand between digits; `none` if a character is out of place. The flag
says whether the character before was a digit. -/
def numeralDigits (afterDigit : Bool) : List Char → Option (List Char)
  | [] => if afterDigit then some [] else none
  | c :: rest =>
      if c.isDigit then (numeralDigits true rest).map (c :: ·)
      else if c = '_' ∧ afterDigit then numeralDigits false rest
      else none

def readWhole (text : List Char) : Except WholeFault Int :=
  let body := Text.dropEndWhile surroundsNumeral (text.dropWhile surroundsNumeral)
  let (negative, numeral) := match body with
    | '-' :: rest => (true, rest)
    | '+' :: rest => (false, rest)
    | rest => (false, rest)
  match numeralDigits false (numeral.map plainDigit) with
  | none => .error .malformed
  | some digits => (readDigits digits).map fun n => if negative then -(n : Int) else (n : Int)

theorem readDigits_naturalDigits (n : Nat) (short : (naturalDigits n).length ≤ digitLimit) :
    readDigits (naturalDigits n) = .ok n := by
  unfold readDigits
  rw [if_pos short]
  simp only [naturalDigits, Nat.ofDigitChars_ten_toDigits]

theorem naturalDigits_isDigit {n : Nat} {c : Char} (member : c ∈ naturalDigits n) :
    c.isDigit = true :=
  Nat.isDigit_of_mem_toDigits (by decide) (by decide) member

theorem naturalDigits_ne_nil (n : Nat) : naturalDigits n ≠ [] := Nat.toDigits_ne_nil

end ProjectScan.Number
