import ProjectScan.Number.Binary64
import ProjectScan.Number.Whole

/-!
Floats as decimal text. `shortest` gives the fewest digits that read back to the number, the
nearest of those that have that few; `places` and `significant` round to a given length, a tie to
the even digit. A `FloatStyle` says how digits are laid out.
-/

namespace ProjectScan.Number

def digitCount (n : Nat) : Nat := (naturalDigits n).length

structure Decimal where
  digits : Nat
  power : Int
  deriving DecidableEq, Repr

def leadingPower (num den : Nat) : Int :=
  if den ≤ num then (digitCount (num / den) : Int) - 1
  else -(digitCount ((den + num - 1) / num - 1) : Int)

def withoutTens (num den : Nat) (power : Int) : Nat × Nat :=
  if 0 ≤ power then (num, den * tenTo power.toNat) else (num * tenTo (-power).toNat, den)

/-- The real numbers that round to `mantissa * 2 ^ exponent`, in quarters of the last place: the
two ends as multiples of `2 ^ (exponent - 2)`. The lower neighbour of a power of two is nearer. -/
def quarterBounds (mantissa : Nat) (exponent : Int) : Nat × Nat :=
  (if mantissa = twoTo 52 ∧ Binary64.leastExponent < exponent then 4 * mantissa - 1
    else 4 * mantissa - 2, 4 * mantissa + 2)

def readsBack (mantissa : Nat) (exponent : Int) (candidate : Nat) (power : Int) : Bool :=
  let (low, high) := quarterBounds mantissa exponent
  let (unit, per) := Binary64.quotient 1 (exponent - 2)
  let (num, den) := if 0 ≤ power then (candidate * tenTo power.toNat, 1)
    else (candidate, tenTo (-power).toNat)
  let left := low * unit * den
  let middle := num * per
  let right := high * unit * den
  if mantissa % 2 = 0 then left ≤ middle && middle ≤ right else left < middle && middle < right

/-- The nearest decimal of `length` digits that reads back, if there is one. -/
def shortestOf (mantissa : Nat) (exponent : Int) (num den : Nat) (length : Nat) : Option Decimal :=
  let power := leadingPower num den - (length : Int) + 1
  let (top, bottom) := withoutTens num den power
  let below := top / bottom
  let nearer := halfEven top bottom
  let other := if nearer = below then below + 1 else below
  if readsBack mantissa exponent nearer power then some ⟨nearer, power⟩
  else if readsBack mantissa exponent other power then some ⟨other, power⟩
  else none

/-- The shortest decimal that reads back. Seventeen digits always do. -/
def shortest (mantissa : Nat) (exponent : Int) : Decimal :=
  let (num, den) := Binary64.quotient mantissa exponent
  ((List.range 17).findSome? fun k => shortestOf mantissa exponent num den (k + 1)).getD ⟨0, 0⟩

/-- A positive quotient rounded to `length` significant digits, with the power of the first. -/
def significant (num den : Nat) (length : Nat) : Nat × Int :=
  if num = 0 then (0, 0)
  else
    let lead := leadingPower num den
    let (top, bottom) := withoutTens num den (lead - (length : Int) + 1)
    let rounded := halfEven top bottom
    if rounded = tenTo length then (tenTo (length - 1), lead + 1) else (rounded, lead)

def paddedDigits (width n : Nat) : List Char :=
  let digits := naturalDigits n
  List.replicate (width - digits.length) '0' ++ digits

def pointed (units count : Nat) : List Char :=
  if count = 0 then naturalDigits units
  else
    let digits := paddedDigits (count + 1) units
    digits.take (digits.length - count) ++ '.' :: digits.drop (digits.length - count)

def exponentText (power : Int) : List Char :=
  (if power < 0 then '-' else '+') :: paddedDigits 2 power.natAbs

def signText (negative : Bool) : List Char := if negative then ['-'] else []

def withoutTrailingZeros (text : List Char) : List Char :=
  Text.dropEndWhile (· == '.') (Text.dropEndWhile (· == '0') text)

/-- The layout of a float in messages and reports: positional for the powers from -4 to 15 with at
least one place, and in exponent form outside. -/
def Decimal.layout (decimal : Decimal) : List Char :=
  let digits := Text.dropEndWhile (· == '0') (naturalDigits decimal.digits)
  let lead := decimal.power + (digitCount decimal.digits : Int) - 1
  if lead < -4 ∨ 15 < lead then
    (match digits with
      | [] => []
      | [only] => [only]
      | first :: rest => first :: '.' :: rest) ++ 'e' :: exponentText lead
  else if lead < 0 then
    '0' :: '.' :: (List.replicate ((-lead).toNat - 1) '0' ++ digits)
  else
    let whole := lead.toNat + 1
    if digits.length ≤ whole then
      digits ++ List.replicate (whole - digits.length) '0' ++ ['.', '0']
    else digits.take whole ++ '.' :: digits.drop whole

namespace Binary64

def text : Binary64 → String
  | .nan => "nan"
  | .infinite negative => if negative then "-inf" else "inf"
  | .finite negative mantissa exponent => String.ofList <|
      signText negative ++
        (if mantissa = 0 then ['0', '.', '0'] else (shortest mantissa exponent).layout)

def placesOf (count : Nat) (mantissa : Nat) (exponent : Int) : List Char :=
  let (num, den) := quotient mantissa exponent
  pointed (halfEven (num * tenTo count) den) count

def places (count : Nat) : Binary64 → String
  | .nan => "nan"
  | .infinite negative => if negative then "-inf" else "inf"
  | .finite negative mantissa exponent =>
      String.ofList (signText negative ++ placesOf count mantissa exponent)

/-- The magnitude of a float with one digit before the point and `count` after it. -/
def scientificOf (count : Nat) (mantissa : Nat) (exponent : Int) : List Char :=
  let (num, den) := quotient mantissa exponent
  let (digits, lead) := significant num den (count + 1)
  pointed digits count ++ 'e' :: exponentText lead

/-- The magnitude of a float with `count` significant digits, positional where the power of the
first digit is at least -4 and below `count`; zeros at the end go unless they are kept. -/
def generalOf (count : Nat) (keepZeros : Bool) (mantissa : Nat) (exponent : Int) : List Char :=
  let count := if count = 0 then 1 else count
  let (num, den) := quotient mantissa exponent
  let (digits, lead) := significant num den count
  let trimmed (text : List Char) : List Char :=
    if keepZeros then (if '.' ∈ text then text else text ++ ['.'])
    else if '.' ∈ text then withoutTrailingZeros text else text
  if lead < -4 ∨ (count : Int) ≤ lead then
    trimmed (pointed digits (count - 1)) ++ 'e' :: exponentText lead
  else
    let after := ((count : Int) - 1 - lead).toNat
    trimmed (pointed (if mantissa = 0 then 0 else digits) after)

/-- Reads the digits of a plain decimal: digits with at most one point, then perhaps an exponent. -/
def ofParts (negative : Bool) (whole fraction : List Char) (power : Int) : Binary64 :=
  let digits := (whole ++ fraction).dropWhile (· == '0')
  ofDecimal negative (Nat.ofDigitChars 10 digits 0) digits.length
    (power - (fraction.length : Int))

def readPower? : List Char → Option Int
  | '-' :: rest => if rest.all Char.isDigit ∧ rest ≠ [] then
      some (-(Nat.ofDigitChars 10 rest 0 : Int)) else none
  | '+' :: rest => if rest.all Char.isDigit ∧ rest ≠ [] then
      some (Nat.ofDigitChars 10 rest 0 : Int) else none
  | rest => if rest.all Char.isDigit ∧ rest ≠ [] then
      some (Nat.ofDigitChars 10 rest 0 : Int) else none

/-- Reads a decimal with optional sign, point and exponent, or a spelling of infinity or of no
number. -/
def read? (text : String) : Option Binary64 :=
  let body := Text.trim text.toList
  let (negative, body) := match body with
    | '-' :: rest => (true, rest)
    | '+' :: rest => (false, rest)
    | rest => (false, rest)
  let lowered := String.ofList (body.map Char.toLower)
  if lowered = "inf" ∨ lowered = "infinity" then some (.infinite negative)
  else if lowered = "nan" then some .nan
  else
    let whole := body.takeWhile Char.isDigit
    let rest := body.dropWhile Char.isDigit
    let (fraction, rest) := match rest with
      | '.' :: more => (more.takeWhile Char.isDigit, more.dropWhile Char.isDigit)
      | other => ([], other)
    if whole = [] ∧ fraction = [] then none
    else match rest with
      | [] => some (ofParts negative whole fraction 0)
      | mark :: power =>
          if mark = 'e' ∨ mark = 'E' then (readPower? power).map (ofParts negative whole fraction)
          else none

end Binary64

end ProjectScan.Number
