import ProjectScan.Number.Binary64

/-!
Whole numbers as floats. Those below `2 ^ 53` are kept exactly, so that floats of whole numbers are
ordered as the numbers are; a whole number has no finite float exactly if it is as far from zero as
the middle between the greatest finite float and `2 ^ 1024`.
-/

namespace ProjectScan.Number.Binary64

def ofNatural (n : Nat) : Binary64 := ofQuotient false n 1

@[irreducible] def overflowBound : Nat := (twoTo 54 - 1) * twoTo 970

theorem twoTo_add (first second : Nat) : twoTo (first + second) = twoTo first * twoTo second :=
  Nat.pow_add 2 first second

theorem twoTo_le_twoTo {first second : Nat} (fewer : first ≤ second) :
    twoTo first ≤ twoTo second :=
  Nat.pow_le_pow_right Nat.two_pos fewer

section Logarithm

variable {n digits : Nat}

theorem twoTo_log2_le (some : 0 < n) : twoTo n.log2 ≤ n :=
  Nat.log2_self_le (Nat.pos_iff_ne_zero.mp some)

theorem lt_twoTo_log2 (n : Nat) : n < twoTo (n.log2 + 1) := Nat.lt_log2_self

theorem log2_le_of_lt (some : 0 < n) (bound : n < twoTo (digits + 1)) : n.log2 ≤ digits :=
  Nat.le_of_lt_succ ((Nat.log2_lt (Nat.pos_iff_ne_zero.mp some)).mpr bound)

theorem le_log2_of_le (bound : twoTo digits ≤ n) : digits ≤ n.log2 := by
  have some : 0 < n := Nat.lt_of_lt_of_le (twoTo_pos digits) bound
  exact (Nat.le_log2 (Nat.pos_iff_ne_zero.mp some)).mpr bound

end Logarithm

def bounded (negative : Bool) (mantissa : Nat) (exponent : Int) : Binary64 :=
  if greatestExponent < exponent then .infinite negative else .finite negative mantissa exponent

theorem scaled_of_small {n : Nat} (small : n.log2 ≤ 52) :
    scaled n 1 ((n.log2 : Int) - 52) = (n * twoTo (52 - n.log2), 1) := by
  unfold scaled
  by_cases all : n.log2 = 52
  · rw [all]
    exact congrArg (·, 1) (Nat.mul_one n).symm
  · have shift : (-((n.log2 : Int) - 52)).toNat = 52 - n.log2 := by omega
    rw [if_neg (by omega), shift]

theorem scaled_of_large {n : Nat} (large : 52 ≤ n.log2) :
    scaled n 1 ((n.log2 : Int) - 52) = (n, twoTo (n.log2 - 52)) := by
  have shift : ((n.log2 : Int) - 52).toNat = n.log2 - 52 := by omega
  unfold scaled
  rw [if_pos (by omega), shift, Nat.one_mul]

theorem le_scaled {n : Nat} (some : 0 < n) :
    twoTo 52 ≤ (scaled n 1 ((n.log2 : Int) - 52)).1 / (scaled n 1 ((n.log2 : Int) - 52)).2 := by
  rcases Nat.le_total n.log2 52 with small | large
  · rw [scaled_of_small small, Nat.div_one]
    calc twoTo 52 = twoTo (n.log2 + (52 - n.log2)) := by rw [Nat.add_sub_cancel' small]
      _ = twoTo n.log2 * twoTo (52 - n.log2) := twoTo_add _ _
      _ ≤ n * twoTo (52 - n.log2) := Nat.mul_le_mul_right _ (twoTo_log2_le some)
  · rw [scaled_of_large large]
    refine (Nat.le_div_iff_mul_le (twoTo_pos _)).mpr ?_
    rw [← twoTo_add, Nat.add_sub_cancel' large]
    exact twoTo_log2_le some

theorem ofQuotient_whole {n : Nat} (some : 0 < n) (negative : Bool) :
    let exponent : Int := (n.log2 : Int) - 52
    let mantissa := halfEven (scaled n 1 exponent).1 (scaled n 1 exponent).2
    ofQuotient negative n 1 =
      if mantissa = twoTo 53 then bounded negative (twoTo 52) (exponent + 1)
      else bounded negative mantissa exponent := by
  have one : ((Nat.log2 1 : Nat) : Int) = 0 := rfl
  have size := le_scaled some
  have least : ¬ (n.log2 : Int) - 52 < leastExponent := by
    unfold leastExponent
    omega
  unfold ofQuotient
  rw [if_neg (Nat.pos_iff_ne_zero.mp some), one, Int.sub_zero]
  simp only [if_neg (Nat.not_lt.mpr size), if_neg least]
  generalize halfEven _ _ = mantissa
  by_cases carries : mantissa = twoTo 53
  · simp only [if_pos carries]
    rfl
  · simp only [if_neg carries]
    rfl

theorem exists_bounded (n : Nat) (negative : Bool) : ∃ mantissa exponent,
    ofQuotient negative n 1 = bounded negative mantissa exponent ∧ (0 < n → 0 < mantissa) := by
  rcases Nat.eq_zero_or_pos n with rfl | some
  · exact ⟨0, leastExponent, rfl, nofun⟩
  · have size := le_scaled some
    have whole := ofQuotient_whole some negative
    dsimp only at whole
    rw [whole]
    split
    · exact ⟨_, _, rfl, fun _ => twoTo_pos 52⟩
    · refine ⟨_, _, rfl, fun _ => ?_⟩
      have positive := twoTo_pos 52
      unfold halfEven
      dsimp only
      split <;> omega

theorem ofQuotient_small {n : Nat} (some : 0 < n) (small : n < twoTo 53) (negative : Bool) :
    ofQuotient negative n 1 =
      .finite negative (n * twoTo (52 - n.log2)) ((n.log2 : Int) - 52) := by
  have digits : n.log2 ≤ 52 := log2_le_of_lt some small
  have bound : n * twoTo (52 - n.log2) < twoTo 53 := by
    calc n * twoTo (52 - n.log2) < twoTo (n.log2 + 1) * twoTo (52 - n.log2) :=
          Nat.mul_lt_mul_of_pos_right (lt_twoTo_log2 n) (twoTo_pos _)
      _ = twoTo (n.log2 + 1 + (52 - n.log2)) := (twoTo_add _ _).symm
      _ = twoTo 53 := by congr 1; omega
  have whole := ofQuotient_whole some negative
  dsimp only at whole
  rw [scaled_of_small digits] at whole
  dsimp only at whole
  rw [halfEven_of_dvd (Nat.mod_one _) Nat.one_pos, Nat.div_one, if_neg (Nat.ne_of_lt bound)] at whole
  rw [whole]
  unfold bounded
  rw [if_neg (by unfold greatestExponent; omega)]

theorem ofQuotient_large {n : Nat} (large : twoTo 53 ≤ n) (negative : Bool) :
    ∃ mantissa exponent, twoTo 52 ≤ mantissa ∧ 0 < exponent ∧
      ofQuotient negative n 1 = bounded negative mantissa exponent := by
  have some : 0 < n := Nat.lt_of_lt_of_le (twoTo_pos 53) large
  have digits : 53 ≤ n.log2 := le_log2_of_le large
  have size := le_scaled some
  have whole := ofQuotient_whole some negative
  dsimp only at whole
  rw [whole]
  split
  · exact ⟨_, _, Nat.le_refl _, by omega, rfl⟩
  · refine ⟨_, _, ?_, by omega, rfl⟩
    unfold halfEven
    dsimp only
    split <;> omega

/-! ### The order of whole numbers -/

theorem quotient_small {n : Nat} (small : n < twoTo 53) (negative : Bool) :
    ∃ mantissa exponent den, ofQuotient negative n 1 = .finite negative mantissa exponent ∧
      0 < den ∧ quotient mantissa exponent = (n * den, den) := by
  rcases Nat.eq_zero_or_pos n with rfl | some
  · refine ⟨0, leastExponent, twoTo 1074, rfl, twoTo_pos _, ?_⟩
    rw [Nat.zero_mul]
    rfl
  · have digits : n.log2 ≤ 52 := log2_le_of_lt some small
    refine ⟨_, _, twoTo (52 - n.log2), ofQuotient_small some small negative, twoTo_pos _, ?_⟩
    unfold quotient
    by_cases all : n.log2 = 52
    · rw [all, if_pos (by decide)]
      refine Prod.ext ?_ rfl
      exact Nat.mul_one _
    · have shift : (-((n.log2 : Int) - 52)).toNat = 52 - n.log2 := by omega
      rw [if_neg (by omega), shift]

theorem quotient_large {n : Nat} (large : twoTo 53 ≤ n) (negative : Bool) :
    ofQuotient negative n 1 = .infinite negative ∨
      ∃ mantissa exponent whole, ofQuotient negative n 1 = .finite negative mantissa exponent ∧
        twoTo 53 ≤ whole ∧ quotient mantissa exponent = (whole, 1) := by
  obtain ⟨mantissa, exponent, size, grows, float⟩ := ofQuotient_large large negative
  rw [float]
  unfold bounded
  split
  · exact .inl rfl
  · refine .inr ⟨mantissa, exponent, mantissa * twoTo exponent.toNat, rfl, ?_, ?_⟩
    · calc twoTo 53 = twoTo 52 * twoTo 1 := twoTo_add 52 1
        _ ≤ mantissa * twoTo exponent.toNat := Nat.mul_le_mul size (twoTo_le_twoTo (by omega))
    · unfold quotient
      rw [if_pos (by omega)]

theorem ofNatural_small {n : Nat} (small : n < twoTo 53) : ∃ mantissa exponent den,
    ofNatural n = .finite false mantissa exponent ∧ 0 < den ∧
      quotient mantissa exponent = (n * den, den) :=
  quotient_small small false

theorem less_ofNatural {first : Nat} (small : first < twoTo 53) (second : Nat) :
    less (ofNatural first) (ofNatural second) = decide (first < second) := by
  obtain ⟨mantissa, exponent, den, float, positive, value⟩ := ofNatural_small small
  rcases Nat.lt_or_ge second (twoTo 53) with alsoSmall | large
  · obtain ⟨mantissa', exponent', den', float', positive', value'⟩ := ofNatural_small alsoSmall
    rw [float, float']
    simp only [less, finiteLess, value, value', Bool.false_eq_true, if_false]
    refine decide_eq_decide.mpr ?_
    have scaled : first * den * den' = first * (den * den') := Nat.mul_assoc _ _ _
    have scaled' : second * den' * den = second * (den * den') := by
      rw [Nat.mul_assoc, Nat.mul_comm den']
    rw [scaled, scaled', Int.ofNat_lt]
    exact Nat.mul_lt_mul_right (Nat.mul_pos positive positive')
  · have above : first < second := Nat.lt_of_lt_of_le small large
    rw [decide_eq_true above, float]
    rcases quotient_large large false with float' | ⟨_, _, whole, float', size, value'⟩
    · rw [ofNatural, float']
      rfl
    · rw [ofNatural, float']
      simp only [less, finiteLess, value, value', Bool.false_eq_true, if_false, Nat.mul_one]
      refine decide_eq_true (Int.ofNat_lt.mpr ?_)
      exact Nat.mul_lt_mul_of_pos_right (Nat.lt_of_lt_of_le small size) positive

theorem lesser_ofNatural (n : Nat) {limit : Nat} (small : limit < twoTo 53) :
    (ofNatural n).lesser (ofNatural limit) = ofNatural (min n limit) := by
  unfold lesser
  rw [less_ofNatural small]
  by_cases above : limit < n
  · rw [if_pos (decide_eq_true above), Nat.min_eq_right (Nat.le_of_lt above)]
  · rw [if_neg (by simpa using above), Nat.min_eq_left (Nat.not_lt.mp above)]

theorem lessThanWhole_finite (mantissa : Nat) (exponent : Int) :
    (finite false mantissa exponent).lessThanWhole 0 = false := by
  simp [lessThanWhole, finiteLess]

theorem lessThanWhole_ofNatural (n : Nat) : (ofNatural n).lessThanWhole 0 = false := by
  obtain ⟨mantissa, exponent, float, _⟩ := exists_bounded n false
  have float : ofNatural n = bounded false mantissa exponent := float
  rw [float]
  unfold bounded
  split
  · rfl
  · exact lessThanWhole_finite mantissa exponent

theorem less_ofNatural_negative (n mantissa : Nat) (exponent : Int) :
    less (ofNatural n) (.finite true mantissa exponent) = false := by
  obtain ⟨mantissa', exponent', float, _⟩ := exists_bounded n false
  rw [ofNatural, float]
  unfold bounded
  split
  · rfl
  · simp only [less, finiteLess, Bool.false_eq_true, if_false, if_true, decide_eq_false_iff_not]
    omega

theorem lessThanWhole_ofQuotient_negative {n : Nat} (some : 0 < n) :
    (ofQuotient true n 1).lessThanWhole 0 = true := by
  obtain ⟨mantissa, exponent, float, positive⟩ := exists_bounded n true
  have nonzero := positive some
  rw [float]
  unfold bounded
  split
  · rfl
  · have value : 0 < (quotient mantissa exponent).1 := by
      unfold quotient
      split
      · exact Nat.mul_pos nonzero (twoTo_pos _)
      · exact nonzero
    simp only [lessThanWhole, finiteLess]
    simpa using value

/-- A whole number below zero is smaller than a float above `-2 ^ 53` exactly if it is as a number. -/
theorem less_ofQuotient_negative (n : Nat) {mantissa num den : Nat} {exponent : Int}
    (value : quotient mantissa exponent = (num, den)) (small : num < twoTo 53 * den) :
    less (ofQuotient true n 1) (.finite true mantissa exponent) = decide (num < n * den) := by
  rcases Nat.lt_or_ge n (twoTo 53) with below | large
  · obtain ⟨_, _, scale, float, positive, value'⟩ := quotient_small below true
    rw [float]
    simp only [less, finiteLess, value, value', if_true]
    refine decide_eq_decide.mpr ?_
    rw [Int.neg_lt_neg_iff, Int.ofNat_lt, Nat.mul_right_comm]
    exact Nat.mul_lt_mul_right positive
  · have above : num < n * den := Nat.lt_of_lt_of_le small (Nat.mul_le_mul_right den large)
    rw [decide_eq_true above]
    rcases quotient_large large true with float | ⟨_, _, whole, float, size, value'⟩
    · rw [float]
      rfl
    · rw [float]
      simp only [less, finiteLess, value, value', if_true, Nat.mul_one]
      refine decide_eq_true (Int.neg_lt_neg (Int.ofNat_lt.mpr ?_))
      exact Nat.lt_of_lt_of_le small (Nat.mul_le_mul_right den size)

theorem lesser_ofNatural_negative {number : Binary64} (below : number.lessThanWhole 0 = true)
    {limit : Nat} (small : limit < twoTo 53) : number.lesser (ofNatural limit) = number := by
  obtain ⟨mantissa, exponent, den, float, positive, value⟩ := ofNatural_small small
  have least : less (ofNatural limit) number = false := by
    rw [float]
    cases number with
    | nan => rfl
    | infinite negative =>
        change negative = true at below
        rw [below]
        rfl
    | finite negative mantissa' exponent' =>
        cases negative with
        | false =>
            rw [lessThanWhole_finite] at below
            cases below
        | true =>
            simp only [less, finiteLess, value, Bool.false_eq_true, if_false, if_true,
              decide_eq_false_iff_not]
            omega
  unfold lesser
  rw [least]
  rfl

/-! ### Numbers without a float -/

/-- Rounded to fifty-three digits, a number of 1024 digits carries exactly if it is not below the
middle between the greatest float and the next power of two. -/
theorem halfEven_carries {n half : Nat} (bound : n < twoTo 53 * (2 * half)) (positive : 0 < half) :
    halfEven n (2 * half) = twoTo 53 ↔ (twoTo 54 - 1) * half ≤ n := by
  have below : n / (2 * half) < twoTo 53 := (Nat.div_lt_iff_lt_mul (by omega)).mpr bound
  have parts := Nat.div_add_mod n (2 * half)
  have rest := Nat.mod_lt n (by omega : 0 < 2 * half)
  unfold halfEven
  dsimp only
  generalize n / (2 * half) = quotient at below parts ⊢
  generalize n % (2 * half) = remainder at rest parts ⊢
  have whole : twoTo 53 = 9007199254740992 := by decide
  have double : twoTo 54 = 18014398509481984 := by decide
  rw [whole] at below ⊢
  rw [double]
  constructor
  · intro carries
    split at carries
    · have last : quotient = 9007199254740991 := by omega
      subst last
      omega
    · omega
  · intro reaches
    have last : quotient = 9007199254740991 := by
      rcases Nat.lt_or_ge quotient 9007199254740991 with less | enough
      · have fewer : quotient ≤ 9007199254740990 := Nat.le_of_lt_succ less
        have product := Nat.mul_le_mul_left (2 * half) fewer
        omega
      · omega
    subst last
    rw [if_pos (by omega)]

theorem ofQuotient_infinite_iff (n : Nat) (negative : Bool) :
    ofQuotient negative n 1 = .infinite negative ↔ overflowBound ≤ n := by
  have lower : twoTo 1023 ≤ overflowBound := by decide +kernel
  have upper : overflowBound ≤ twoTo 1024 := by decide +kernel
  have infinite (mantissa : Nat) (exponent : Int) :
      bounded negative mantissa exponent = .infinite negative ↔ greatestExponent < exponent := by
    unfold bounded
    split <;> simp [*]
  rcases Nat.eq_zero_or_pos n with rfl | some
  · constructor
    · nofun
    · intro reaches
      have positive := twoTo_pos 1023
      omega
  have whole := ofQuotient_whole some negative
  dsimp only at whole
  rw [whole]
  have size := twoTo_log2_le some
  have bound := lt_twoTo_log2 n
  -- Only a number of 1024 binary digits is brought over the greatest float by rounding it.
  rcases Nat.lt_trichotomy n.log2 1023 with fewer | same | more
  · have below : n < twoTo 1023 :=
      Nat.lt_of_lt_of_le bound (twoTo_le_twoTo fewer)
    have finite : ¬ overflowBound ≤ n := by omega
    split <;> (rw [infinite]; unfold greatestExponent; omega)
  · rw [scaled_of_large (by omega), same]
    rw [same] at bound
    have half : twoTo (1023 - 52) = 2 * twoTo 970 := by decide +kernel
    have product : twoTo (1023 + 1) = twoTo 53 * (2 * twoTo 970) := by decide +kernel
    rw [product] at bound
    have carries : halfEven n (2 * twoTo 970) = twoTo 53 ↔ overflowBound ≤ n := by
      unfold overflowBound
      exact halfEven_carries bound (twoTo_pos 970)
    rw [half]
    dsimp only
    by_cases carry : halfEven n (2 * twoTo 970) = twoTo 53
    · rw [if_pos carry, infinite]
      exact iff_of_true (by decide) (carries.mp carry)
    · rw [if_neg carry, infinite]
      exact iff_of_false (by decide) fun reaches => carry (carries.mpr reaches)
  · have above : twoTo 1024 ≤ n := Nat.le_trans (twoTo_le_twoTo more) size
    have reaches : overflowBound ≤ n := by omega
    split <;> (rw [infinite]; unfold greatestExponent; omega)

theorem ofWhole?_eq (n : Int) :
    ofWhole? n =
      if overflowBound ≤ n.natAbs then none else some (ofQuotient (n < 0) n.natAbs 1) := by
  have infinite := ofQuotient_infinite_iff n.natAbs (n < 0)
  obtain ⟨mantissa, exponent, float, _⟩ := exists_bounded n.natAbs (n < 0)
  unfold ofWhole?
  by_cases reaches : overflowBound ≤ n.natAbs
  · rw [if_pos reaches, infinite.mpr reaches]
  · rw [if_neg reaches, float]
    rw [← infinite, float] at reaches
    unfold bounded at reaches ⊢
    split at reaches
    · exact absurd rfl reaches
    · rename_i finite
      rw [if_neg finite]

end ProjectScan.Number.Binary64
