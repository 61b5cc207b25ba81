import ProjectScan.Number.Decimal

/-!
Points in time as dates. Time is counted in seconds from the start of 1970, without leap seconds;
dates are those of the Gregorian calendar, also before it was in use. Only the years from 1 to 9999
have dates.
-/

namespace ProjectScan.Log

structure Timestamp where
  year : Int
  month : Nat
  day : Nat
  hour : Nat
  minute : Nat
  second : Nat
  microsecond : Nat
  deriving DecidableEq, Repr

inductive TimeFault where
  | notANumber
  | outOfRange
  | tooLarge
  | year (year : Int)
  deriving DecidableEq, Repr

def TimeFault.name : TimeFault → String
  | .notANumber | .year _ => "ValueError"
  | .outOfRange => "OverflowError"
  | .tooLarge => "OSError"

def TimeFault.message : TimeFault → String
  | .notANumber => "Invalid value NaN (not a number)"
  | .outOfRange => "timestamp out of range for platform time_t"
  | .tooLarge => "[Errno 75] Value too large for defined data type"
  | .year found => "year " ++ Number.wholeText found ++ " is out of range"

/-- The year, month and day of a day counted from the start of 1970. Years are counted from March,
so that the leap day is the last of its year; 146097 days are four centuries. -/
def civilDate (days : Int) : Int × Nat × Nat :=
  let shifted := days + 719468
  let era := shifted.fdiv 146097
  let dayOfEra := (shifted - era * 146097).toNat
  let yearOfEra := (dayOfEra - dayOfEra / 1460 + dayOfEra / 36524 - dayOfEra / 146096) / 365
  let dayOfYear := dayOfEra - (365 * yearOfEra + yearOfEra / 4 - yearOfEra / 100)
  let monthFromMarch := (5 * dayOfYear + 2) / 153
  let day := dayOfYear - (153 * monthFromMarch + 2) / 5 + 1
  let month := if monthFromMarch < 10 then monthFromMarch + 3 else monthFromMarch - 9
  ((yearOfEra : Int) + era * 400 + if month ≤ 2 then 1 else 0, month, day)

/-- Whole seconds and millionths; a fraction is rounded to the nearest millionth, a tie to the even
one, after it was multiplied as a float. -/
def secondsAndMillionths (negative : Bool) (mantissa : Nat) (exponent : Int) : Int × Nat :=
  let (num, den) := Number.Binary64.quotient mantissa exponent
  let millionths := match
      (Number.Binary64.ofQuotient false (num % den) den).timesNat 1000000 with
    | .finite _ mantissa exponent =>
        let (num, den) := Number.Binary64.quotient mantissa exponent
        Number.halfEven num den
    | _ => 0
  let whole : Int := (num / den : Nat)
  if negative then
    if millionths = 0 then (-whole, 0)
    else if 1000000 ≤ millionths then (-whole - 1, 0)
    else (-whole - 1, 1000000 - millionths)
  else if 1000000 ≤ millionths then (whole + 1, 0)
  else (whole, millionths)

/-- The years that a broken-down time can hold count from 1900 in 32 bits. -/
def yearFits (year : Int) : Bool :=
  -(Number.twoTo 31 : Int) ≤ year - 1900 && year - 1900 < (Number.twoTo 31 : Int)

def Timestamp.ofSeconds (seconds : Number.Binary64) : Except TimeFault Timestamp :=
  match seconds with
  | .nan => .error .notANumber
  | .infinite _ => .error .outOfRange
  | .finite negative mantissa exponent =>
      let (whole, microsecond) := secondsAndMillionths negative mantissa exponent
      if whole < -(Number.twoTo 63 : Int) ∨ (Number.twoTo 63 : Int) ≤ whole then .error .outOfRange
      else
        let days := whole.fdiv 86400
        let time := (whole - days * 86400).toNat
        let (year, month, day) := civilDate days
        if !yearFits year then .error .tooLarge
        else if year < 1 ∨ 9999 < year then .error (.year (year.bmod (Number.twoTo 32)))
        else .ok ⟨year, month, day, time / 3600, time / 60 % 60, time % 60, microsecond⟩

def twoDigits (n : Nat) : List Char := Number.paddedDigits 2 n

def Timestamp.clock (time : Timestamp) : String :=
  String.ofList (twoDigits time.hour ++ ':' :: twoDigits time.minute ++ ':' ::
    twoDigits time.second)

/-- Date and time with the zone; millionths are written where they are not zero. -/
def Timestamp.text (time : Timestamp) : String :=
  String.ofList (Number.paddedDigits 4 time.year.toNat ++ '-' :: twoDigits time.month ++ '-' ::
    twoDigits time.day ++ ['T']) ++ time.clock ++
    String.ofList ((if time.microsecond = 0 then []
      else '.' :: Number.paddedDigits 6 time.microsecond) ++ ['+', '0', '0', ':', '0', '0'])

end ProjectScan.Log
