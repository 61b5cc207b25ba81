import ProjectScan.Number.Power

/-!
Binary floating point numbers of 64 bits, as exact values. A finite number is
`mantissa * 2 ^ exponent`, with a mantissa below `2 ^ 53` and an exponent from -1074 to 971; below
`2 ^ 52` only the least exponent is used, so each number has one form. Every operation computes
an exact quotient and rounds it once, to the nearest number and to an even mantissa on a tie.
-/

namespace ProjectScan.Number

inductive Binary64 where
  | nan
  | infinite (negative : Bool)
  | finite (negative : Bool) (mantissa : Nat) (exponent : Int)
  deriving DecidableEq, Repr

/-- The whole number nearest to a quotient, the even one of two that are equally near. -/
def halfEven (num den : Nat) : Nat :=
  let below := num / den
  let rest := num % den
  if den < 2 * rest ∨ (den = 2 * rest ∧ below % 2 = 1) then below + 1 else below

namespace Binary64

def leastExponent : Int := -1074

def greatestExponent : Int := 971

def zero (negative : Bool) : Binary64 := .finite negative 0 leastExponent

/-- The quotient `num / den` with `2 ^ exponent` taken out of it, again as a quotient. -/
def scaled (num den : Nat) (exponent : Int) : Nat × Nat :=
  if 0 ≤ exponent then (num, den * twoTo exponent.toNat) else (num * twoTo (-exponent).toNat, den)

def ofQuotient (negative : Bool) (num den : Nat) : Binary64 :=
  if num = 0 then zero negative
  else
    let guess : Int := (Nat.log2 num : Int) - (Nat.log2 den : Int) - 52
    let (top, bottom) := scaled num den guess
    let wanted := if top / bottom < twoTo 52 then guess - 1 else guess
    let exponent := if wanted < leastExponent then leastExponent else wanted
    let (top, bottom) := scaled num den exponent
    let mantissa := halfEven top bottom
    let (mantissa, exponent) :=
      if mantissa = twoTo 53 then (twoTo 52, exponent + 1) else (mantissa, exponent)
    if greatestExponent < exponent then .infinite negative
    else .finite negative mantissa exponent

def ofWhole? (n : Int) : Option Binary64 :=
  match ofQuotient (n < 0) n.natAbs 1 with
  | .infinite _ => none
  | number => some number

/-- The number nearest to `digits * 10 ^ power`, where `digits` has `count` decimal digits.
Magnitudes far outside the range are decided without computing the power. -/
def ofDecimal (negative : Bool) (digits count : Nat) (power : Int) : Binary64 :=
  if digits = 0 then zero negative
  else if 400 < power + count then .infinite negative
  else if power + count < -400 then zero negative
  else if 0 ≤ power then ofQuotient negative (digits * tenTo power.toNat) 1
  else ofQuotient negative digits (tenTo (-power).toNat)

def quotient (mantissa : Nat) (exponent : Int) : Nat × Nat :=
  if 0 ≤ exponent then (mantissa * twoTo exponent.toNat, 1)
  else (mantissa, twoTo (-exponent).toNat)

def timesNat (number : Binary64) (factor : Nat) : Binary64 :=
  match number with
  | .nan => .nan
  | .infinite negative => if factor = 0 then .nan else .infinite negative
  | .finite negative mantissa exponent =>
      let (num, den) := quotient mantissa exponent
      ofQuotient negative (num * factor) den

/-- Two to a whole power, as a float; powers below the range are zero. -/
def powerOfTwo? (power : Int) : Option Binary64 :=
  if 1024 ≤ power then none
  else if power < leastExponent then (ofWhole? power).map fun _ => zero false
  else if 0 ≤ power then some (ofQuotient false (twoTo power.toNat) 1)
  else some (ofQuotient false 1 (twoTo (-power).toNat))

/-- The sign and magnitude as an order key over a common denominator: `left < right` on finite
numbers. -/
def finiteLess (leftNegative : Bool) (left : Nat × Nat) (rightNegative : Bool)
    (right : Nat × Nat) : Bool :=
  let signed (negative : Bool) (n : Nat) : Int := if negative then -(n : Int) else (n : Int)
  signed leftNegative (left.1 * right.2) < signed rightNegative (right.1 * left.2)

/-- Strict order; nothing is below or above a number that is none. -/
def less : Binary64 → Binary64 → Bool
  | .nan, _ => false
  | _, .nan => false
  | .infinite leftNegative, .infinite rightNegative => leftNegative && !rightNegative
  | .infinite negative, .finite .. => negative
  | .finite .., .infinite negative => !negative
  | .finite leftNegative m e, .finite rightNegative n f =>
      finiteLess leftNegative (quotient m e) rightNegative (quotient n f)

/-- The smaller of two numbers; the first when neither is below the other. -/
def lesser (left right : Binary64) : Binary64 := if less right left then right else left

def truncated (negative : Bool) (mantissa : Nat) (exponent : Int) : Int :=
  let (num, den) := quotient mantissa exponent
  if negative then -((num / den : Nat) : Int) else ((num / den : Nat) : Int)

def isWhole : Binary64 → Bool
  | .finite _ mantissa exponent =>
      let (num, den) := quotient mantissa exponent
      num % den = 0
  | _ => false

def isZero : Binary64 → Bool
  | .finite _ mantissa _ => mantissa = 0
  | _ => false

def lessThanWhole (number : Binary64) (n : Int) : Bool :=
  match number with
  | .nan => false
  | .infinite negative => negative
  | .finite negative mantissa exponent =>
      finiteLess negative (quotient mantissa exponent) (n < 0) (n.natAbs, 1)

def equalsWhole (number : Binary64) (n : Int) : Bool :=
  match number with
  | .finite negative mantissa exponent =>
      isWhole number && truncated negative mantissa exponent == n
  | _ => false

/-- Two numbers have the same value: the zeros agree, and so does what is no number. -/
def same (left right : Binary64) : Bool :=
  left == right || (isZero left && isZero right)

end Binary64

theorem halfEven_of_dvd {num den : Nat} (exact : num % den = 0) (positive : 0 < den) :
    halfEven num den = num / den := by
  unfold halfEven
  simp only [exact, Nat.mul_zero]
  rw [if_neg]
  omega

end ProjectScan.Number
