import ProjectScan.Text.Blank

/-!
Punycode, the form of a label in letters, digits and hyphens (RFC 3492): first the ASCII characters,
then where and which others are put among them, as differences in digits of variable weight.
-/

namespace ProjectScan.Address.Punycode

def digit (value : Nat) : Char :=
  if value < 26 then Char.ofNat (0x61 + value) else Char.ofNat (0x30 + (value - 26))

def threshold (position bias : Nat) : Nat :=
  if position ≤ bias + 1 then 1 else if bias + 26 ≤ position then 26 else position - bias

theorem threshold_pos (position bias : Nat) : 0 < threshold position bias := by
  unfold threshold
  split
  · omega
  · split <;> omega

theorem threshold_le (position bias : Nat) : threshold position bias ≤ 26 := by
  unfold threshold
  split
  · omega
  · split <;> omega

def digits (number position bias : Nat) : List Char :=
  let edge := threshold position bias
  if number < edge then [digit number]
  else digit (edge + (number - edge) % (36 - edge)) ::
    digits ((number - edge) / (36 - edge)) (position + 36) bias
  termination_by number
  decreasing_by
    have low := threshold_pos position bias
    have high := threshold_le position bias
    have small : (number - threshold position bias) / (36 - threshold position bias) ≤
        number - threshold position bias := Nat.div_le_self _ _
    omega

/-- Divides a difference by 35 until it is at most 455, and counts 36 for each division. -/
def settle (difference counted : Nat) : Nat × Nat :=
  if 455 < difference then settle (difference / 35) (counted + 36) else (difference, counted)
  termination_by difference
  decreasing_by exact Nat.div_lt_self (by omega) (by omega)

def adapted (difference length : Nat) (first : Bool) : Nat :=
  let reduced := if first then difference / 700 else difference / 2
  let (left, counted) := settle (reduced + reduced / length) 0
  counted + 36 * left / (left + 38)

/-- What is carried through the text: the difference so far, the bias, how many characters are
placed, and the digits written, the last one first. -/
structure Progress where
  difference : Nat
  bias : Nat
  placed : Nat
  written : List Char

def Progress.meet (basics wanted : Nat) (progress : Progress) (c : Char) : Progress :=
  if c.toNat < wanted then { progress with difference := progress.difference + 1 }
  else if c.toNat = wanted then
    { difference := 0
      bias := adapted progress.difference (progress.placed + 1) (progress.placed = basics)
      placed := progress.placed + 1
      written := (digits progress.difference 36 progress.bias).reverse ++ progress.written }
  else progress

/-- Places all characters equal to `wanted`; `next` is the least that could have been placed. -/
def place (label : List Char) (basics : Nat) (state : Progress × Nat) (wanted : Nat) :
    Progress × Nat :=
  let (progress, next) := state
  let start :=
    { progress with difference := progress.difference + (wanted - next) * (progress.placed + 1) }
  let progress := label.foldl (Progress.meet basics wanted) start
  ({ progress with difference := progress.difference + 1 }, wanted + 1)

def encoded (label : List Char) : List Char :=
  let basics := label.filter Text.isAscii
  let wanted := ((label.filter fun c => !Text.isAscii c).map Char.toNat).mergeSort.eraseDups
  let (progress, _) := wanted.foldl (place label basics.length) (⟨0, 72, basics.length, []⟩, 0x80)
  (if basics = [] then [] else basics ++ ['-']) ++ progress.written.reverse

end ProjectScan.Address.Punycode
