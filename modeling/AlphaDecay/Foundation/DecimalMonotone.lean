import AlphaDecay.Foundation.DecimalRounding

/-!
# Monotonicity of rounded arithmetic

A rounded decimal is a nearest one of those that fit: `abs_value_round_sub_le_of_fits`. Of two
numbers on either side of the midpoint between two results the lower one is rounded down, so
rounding, and with it addition, subtraction, multiplication by what is not negative and division by
what is positive, is monotone: `value_round_mono` and `value_div_mono`.
-/

namespace Foundation.Decimal

/-! ## The nearest decimal that fits -/

/-- A shifted coefficient is as close to the coefficient as the multiples on either side. -/
theorem abs_shiftHalfEven_sub_le_sides (coefficient places : Nat) :
    |(shiftHalfEven coefficient places : ℚ) * 10 ^ places - coefficient| ≤
        (coefficient % 10 ^ places : Nat) ∧
      |(shiftHalfEven coefficient places : ℚ) * 10 ^ places - coefficient| ≤
        10 ^ places - (coefficient % 10 ^ places : Nat) := by
  have hsplit : (coefficient : ℚ) =
      10 ^ places * (coefficient / 10 ^ places : Nat) + (coefficient % 10 ^ places : Nat) := by
    exact_mod_cast (Nat.div_add_mod coefficient (10 ^ places)).symm
  have hlt : ((coefficient % 10 ^ places : Nat) : ℚ) < 10 ^ places := by
    exact_mod_cast Nat.mod_lt coefficient (Nat.pow_pos (by decide))
  have hnonneg : (0 : ℚ) ≤ (coefficient % 10 ^ places : Nat) := Nat.cast_nonneg _
  unfold shiftHalfEven
  dsimp only
  split
  · rename_i hup
    have hhalf : (10 : ℚ) ^ places ≤ 2 * (coefficient % 10 ^ places : Nat) := by
      have hnat : 10 ^ places ≤ 2 * (coefficient % 10 ^ places) := by omega
      exact_mod_cast hnat
    have hdistance : ((coefficient / 10 ^ places + 1 : Nat) : ℚ) * 10 ^ places - coefficient =
        10 ^ places - (coefficient % 10 ^ places : Nat) := by
      rw [hsplit]
      push_cast
      ring
    rw [hdistance, abs_of_nonneg (by linarith)]
    constructor <;> linarith
  · rename_i hdown
    have hhalf : 2 * ((coefficient % 10 ^ places : Nat) : ℚ) ≤ 10 ^ places := by
      have hnat : 2 * (coefficient % 10 ^ places) ≤ 10 ^ places := by omega
      exact_mod_cast hnat
    have hdistance : ((coefficient / 10 ^ places : Nat) : ℚ) * 10 ^ places - coefficient =
        -(coefficient % 10 ^ places : Nat) := by
      rw [hsplit]
      ring
    rw [hdistance, abs_neg, abs_of_nonneg hnonneg]
    constructor <;> linarith

variable {x : Decimal}

/-- A decimal that fits and has all the digits over a power of ten is a multiple of it. -/
theorem exists_multiple_of_fits (hfits : x.Fits) {exponent : Int}
    (h : 10 ^ (precision - 1) * (10 : ℚ) ^ exponent ≤ x.magnitude) :
    ∃ n : Nat, x.magnitude = n * (10 : ℚ) ^ exponent := by
  have hexponent : exponent ≤ x.exponent := by
    by_contra hlower
    have hbelow := magnitude_lt_of_fits hfits (not_le.mp hlower)
    linarith
  exact ⟨_, magnitude_eq_mul hexponent⟩

theorem abs_magnitude_round_sub_le (hfits : x.Fits) (d : Decimal) :
    |(round d).magnitude - d.magnitude| ≤ |x.magnitude - d.magnitude| := by
  rcases (magnitude_round d).2 with hself | ⟨places, hkeep, hround⟩
  · rw [hself, sub_self, abs_zero]
    exact abs_nonneg _
  have hscale : (0 : ℚ) < (10 : ℚ) ^ d.exponent := zpow_pos (by norm_num) _
  have hunit : (10 : ℚ) ^ (d.exponent + (places : Int)) = 10 ^ places * (10 : ℚ) ^ d.exponent := by
    rw [zpow_add₀ (by norm_num), zpow_natCast, mul_comm]
  have hsplit : d.magnitude = ((d.coefficient / 10 ^ places : Nat) : ℚ) * 10 ^ places *
      (10 : ℚ) ^ d.exponent + (d.coefficient % 10 ^ places : Nat) * (10 : ℚ) ^ d.exponent := by
    have hcoefficient : (d.coefficient : ℚ) =
        10 ^ places * (d.coefficient / 10 ^ places : Nat) +
          (d.coefficient % 10 ^ places : Nat) := by
      exact_mod_cast (Nat.div_add_mod d.coefficient (10 ^ places)).symm
    rw [magnitude, hcoefficient]
    ring
  have hdistance : |(round d).magnitude - d.magnitude| =
      |(shiftHalfEven d.coefficient places : ℚ) * 10 ^ places - d.coefficient| *
        (10 : ℚ) ^ d.exponent := by
    rw [hround, hunit, magnitude, ← abs_of_pos hscale, ← abs_mul, abs_of_pos hscale]
    congr 1
    ring
  obtain ⟨hbelow, habove⟩ := abs_shiftHalfEven_sub_le_sides d.coefficient places
  have hsides : x.magnitude ≤ ((d.coefficient / 10 ^ places : Nat) : ℚ) * 10 ^ places *
        (10 : ℚ) ^ d.exponent ∨
      ((d.coefficient / 10 ^ places : Nat) + 1 : ℚ) * 10 ^ places * (10 : ℚ) ^ d.exponent ≤
        x.magnitude := by
    rcases lt_or_ge x.exponent (d.exponent + places) with hfine | hcoarse
    · have hlt := magnitude_lt_of_fits hfits hfine
      have hkept : (10 : ℚ) ^ (precision - 1) ≤ (d.coefficient / 10 ^ places : Nat) := by
        exact_mod_cast hkeep
      rw [hunit] at hlt
      refine Or.inl (hlt.le.trans ?_)
      rw [mul_assoc]
      gcongr
    · have hmultiple := magnitude_eq_mul hcoarse
      rw [hunit] at hmultiple
      generalize x.coefficient * 10 ^ (x.exponent - (d.exponent + places)).toNat = n at hmultiple
      rw [hmultiple, ← mul_assoc]
      rcases Nat.lt_or_ge (d.coefficient / 10 ^ places) n with hgreater | hless
      · refine Or.inr ?_
        gcongr
        exact_mod_cast hgreater
      · refine Or.inl ?_
        gcongr
  rw [hdistance]
  rcases hsides with hless | hgreater
  · refine le_trans (mul_le_mul_of_nonneg_right hbelow hscale.le) ?_
    rw [abs_sub_comm]
    exact le_trans (by linarith) (le_abs_self _)
  · refine le_trans (mul_le_mul_of_nonneg_right habove hscale.le) ?_
    exact le_trans (by linarith) (le_abs_self _)

theorem abs_value_sub_eq {a b : Decimal} (h : a.sign = b.sign) :
    |a.value - b.value| = |a.magnitude - b.magnitude| := by
  rw [value_eq_sign_magnitude, value_eq_sign_magnitude, h, ← mul_sub, abs_mul, abs_sign, one_mul]

theorem abs_value (d : Decimal) : |d.value| = d.magnitude := by
  rw [value_eq_sign_magnitude, abs_mul, abs_sign, one_mul, abs_of_nonneg (magnitude_nonneg d)]

theorem abs_value_round_sub_le_of_fits (hfits : x.Fits) (d : Decimal) :
    |(round d).value - d.value| ≤ |x.value - d.value| := by
  rw [abs_value_sub_eq (magnitude_round d).1]
  refine (abs_magnitude_round_sub_le hfits d).trans ?_
  rw [← abs_value, ← abs_value]
  exact abs_abs_sub_abs_le _ _

/-- What is rounded above a decimal that fits is not below the midpoint. -/
theorem midpoint_le_of_lt_round {d : Decimal} (hfits : x.Fits) (h : x.value < (round d).value) :
    (x.value + (round d).value) / 2 ≤ d.value := by
  by_contra hbelow
  have hnear := abs_value_round_sub_le_of_fits hfits d
  rw [abs_of_nonneg (by linarith)] at hnear
  rcases abs_cases (x.value - d.value) with ⟨hcase, -⟩ | ⟨hcase, -⟩ <;> linarith

theorem le_midpoint_of_round_lt {d : Decimal} (hfits : x.Fits) (h : (round d).value < x.value) :
    d.value ≤ ((round d).value + x.value) / 2 := by
  by_contra habove
  have hnear := abs_value_round_sub_le_of_fits hfits d
  rw [abs_of_nonpos (by linarith)] at hnear
  rcases abs_cases (x.value - d.value) with ⟨hcase, -⟩ | ⟨hcase, -⟩ <;> linarith

section Monotone

variable {a a' b b' q q' : Decimal}

theorem value_round_mono (h : a.value ≤ a'.value) : (round a).value ≤ (round a').value := by
  by_contra hless
  have hlt : (round a').value < (round a).value := not_le.mp hless
  have hlower := midpoint_le_of_lt_round (fits_round a') hlt
  have hupper := le_midpoint_of_round_lt (fits_round a) hlt
  have heq : a.value = a'.value := by linarith
  rw [value_round_congr heq] at hlt
  exact lt_irrefl _ hlt

theorem value_add_mono (ha : a.value ≤ a'.value) (hb : b.value ≤ b'.value) :
    (a + b).value ≤ (a' + b').value := by
  obtain ⟨exact, hvalue, hround⟩ := Decimal.value_add a b
  obtain ⟨exact', hvalue', hround'⟩ := Decimal.value_add a' b'
  rw [hround, hround']
  exact value_round_mono (by rw [hvalue, hvalue']; linarith)

theorem value_sub_mono (ha : a.value ≤ a'.value) (hb : b'.value ≤ b.value) :
    (a - b).value ≤ (a' - b').value := by
  obtain ⟨exact, hvalue, hround⟩ := Decimal.value_sub a b
  obtain ⟨exact', hvalue', hround'⟩ := Decimal.value_sub a' b'
  rw [hround, hround']
  exact value_round_mono (by rw [hvalue, hvalue']; linarith)

/-- Products with a factor that is not negative are monotone. -/
theorem value_mul_mono (hb : 0 ≤ b.value) (ha : a.value ≤ a'.value) :
    (b * a).value ≤ (b * a').value := by
  obtain ⟨exact, hvalue, hround⟩ := Decimal.value_mul b a
  obtain ⟨exact', hvalue', hround'⟩ := Decimal.value_mul b a'
  rw [hround, hround']
  refine value_round_mono ?_
  rw [hvalue, hvalue']
  exact mul_le_mul_of_nonneg_left ha hb

/-- Products by a number that is not negative are monotone in their first factor. -/
theorem value_mul_mono_left (hb : 0 ≤ b.value) (ha : a.value ≤ a'.value) :
    (a * b).value ≤ (a' * b).value := by
  obtain ⟨exact, hvalue, hround⟩ := Decimal.value_mul a b
  obtain ⟨exact', hvalue', hround'⟩ := Decimal.value_mul a' b
  rw [hround, hround']
  refine value_round_mono ?_
  rw [hvalue, hvalue']
  exact mul_le_mul_of_nonneg_right ha hb

end Monotone

/-! ## Division -/

/-- A multiple of five lies on the same side of a marked quotient as of the exact one. -/
theorem markedQuotient_compare (numerator : Nat) {denominator n : Nat} (hpos : 0 < denominator)
    (hfive : n % 5 = 0) :
    (numerator < n * denominator → markedQuotient numerator denominator < n) ∧
      (numerator = n * denominator → markedQuotient numerator denominator = n) ∧
      (n * denominator < numerator → n < markedQuotient numerator denominator) := by
  have hsplit := Nat.div_add_mod numerator denominator
  have hrest := Nat.mod_lt numerator hpos
  unfold markedQuotient
  dsimp only
  generalize numerator / denominator = quotient at hsplit ⊢
  generalize numerator % denominator = remainder at hsplit hrest ⊢
  subst hsplit
  refine ⟨fun hlt => ?_, fun heq => ?_, fun hgt => ?_⟩
  · have hquotient : quotient < n := by
      by_contra hnot
      have hle : n * denominator ≤ quotient * denominator := Nat.mul_le_mul_right _ (by omega)
      have hcomm : denominator * quotient = quotient * denominator := Nat.mul_comm _ _
      omega
    split <;> omega
  · have hquotient : quotient = n ∧ remainder = 0 := by
      have hmod : (denominator * quotient + remainder) % denominator = 0 := by
        rw [heq]
        exact Nat.mul_mod_left n denominator
      rw [Nat.mul_add_mod, Nat.mod_eq_of_lt hrest] at hmod
      refine ⟨?_, hmod⟩
      rw [hmod, Nat.add_zero, Nat.mul_comm] at heq
      exact Nat.eq_of_mul_eq_mul_right hpos heq
    rw [if_neg (by omega)]
    exact hquotient.1
  · have hquotient : n ≤ quotient := by
      by_contra hnot
      have hle : (quotient + 1) * denominator ≤ n * denominator :=
        Nat.mul_le_mul_right _ (by omega)
      have hcomm : (quotient + 1) * denominator = denominator * quotient + denominator := by ring
      omega
    split
    · omega
    · rename_i hunmarked
      rcases Nat.lt_or_ge n quotient with hmore | hsame
      · exact hmore
      · obtain rfl : n = quotient := by omega
        have hcomm : n * denominator = denominator * n := Nat.mul_comm _ _
        omega

section Quotients

variable {a b : Decimal}

/-- The power of ten over which a long quotient is an integer. -/
def quotientExponent (a b : Decimal) : Int :=
  a.exponent - b.exponent - quotientShift a b

theorem magnitude_longQuotient_eq (a b : Decimal) :
    (longQuotient a b).magnitude =
      markedQuotient (a.coefficient * 10 ^ (quotientShift a b).toNat)
        (b.coefficient * 10 ^ (-quotientShift a b).toNat) * (10 : ℚ) ^ quotientExponent a b :=
  magnitude_longQuotient a b

/-- A multiple of five times the power of ten of a long quotient lies on the same side of it as of
the exact quotient. -/
theorem longQuotient_compare (hb : 0 < b.coefficient) {n : Nat} (hfive : n % 5 = 0) :
    (a.magnitude < n * (10 : ℚ) ^ quotientExponent a b * b.magnitude →
      (longQuotient a b).magnitude < n * (10 : ℚ) ^ quotientExponent a b) ∧
    (a.magnitude = n * (10 : ℚ) ^ quotientExponent a b * b.magnitude →
      (longQuotient a b).magnitude = n * (10 : ℚ) ^ quotientExponent a b) ∧
    (n * (10 : ℚ) ^ quotientExponent a b * b.magnitude < a.magnitude →
      n * (10 : ℚ) ^ quotientExponent a b < (longQuotient a b).magnitude) := by
  have hdenominator : 0 < b.coefficient * 10 ^ (-quotientShift a b).toNat :=
    Nat.mul_pos hb (Nat.pow_pos (by decide))
  have hunit : (0 : ℚ) < (10 : ℚ) ^ quotientExponent a b := zpow_pos (by norm_num) _
  have hbm := magnitude_pos hb
  have hscale : a.magnitude * (b.coefficient * 10 ^ (-quotientShift a b).toNat : Nat) =
      (a.coefficient * 10 ^ (quotientShift a b).toNat : Nat) *
        ((10 : ℚ) ^ quotientExponent a b * b.magnitude) := quotient_scale a b (quotientShift a b)
  rw [magnitude_longQuotient_eq]
  obtain ⟨hless, hequal, hgreater⟩ := markedQuotient_compare
    (a.coefficient * 10 ^ (quotientShift a b).toNat) hdenominator hfive
  generalize a.coefficient * 10 ^ (quotientShift a b).toNat = numerator at *
  generalize b.coefficient * 10 ^ (-quotientShift a b).toNat = denominator at *
  have hcast : (0 : ℚ) < denominator := by exact_mod_cast hdenominator
  have hproduct : (0 : ℚ) < (10 : ℚ) ^ quotientExponent a b * b.magnitude := mul_pos hunit hbm
  -- both sides are multiplied by the denominator
  have hexact : (n : ℚ) * (10 : ℚ) ^ quotientExponent a b * b.magnitude * denominator =
      (n * denominator : ℚ) * ((10 : ℚ) ^ quotientExponent a b * b.magnitude) := by ring
  refine ⟨fun hlt => ?_, fun heq => ?_, fun hgt => ?_⟩
  · have hnumerator : numerator < n * denominator := by
      have hmul := mul_lt_mul_of_pos_right hlt hcast
      rw [hscale, hexact, mul_lt_mul_iff_left₀ hproduct] at hmul
      exact_mod_cast hmul
    have hmarked : (markedQuotient numerator denominator : ℚ) < n := by
      exact_mod_cast hless hnumerator
    exact mul_lt_mul_of_pos_right hmarked hunit
  · have hnumerator : numerator = n * denominator := by
      have hmul : a.magnitude * denominator = n * (10 : ℚ) ^ quotientExponent a b * b.magnitude *
          denominator := by rw [heq]
      rw [hscale, hexact, mul_left_inj' hproduct.ne'] at hmul
      exact_mod_cast hmul
    rw [hequal hnumerator]
  · have hnumerator : n * denominator < numerator := by
      have hmul := mul_lt_mul_of_pos_right hgt hcast
      rw [hscale, hexact, mul_lt_mul_iff_left₀ hproduct] at hmul
      exact_mod_cast hmul
    have hmarked : (n : ℚ) < (markedQuotient numerator denominator : ℚ) := by
      exact_mod_cast hgreater hnumerator
    exact mul_lt_mul_of_pos_right hmarked hunit

/-- The least number with all the digits over the power of ten of a long quotient is not above the
exact quotient. -/
theorem quotientExponent_le (ha : 0 < a.coefficient) (hb : 0 < b.coefficient) :
    10 ^ precision * (10 : ℚ) ^ quotientExponent a b * b.magnitude ≤ a.magnitude := by
  have hquotient := quotientOf_marked ha hb
  have hfloor := hquotient.floor_le
  refine le_trans ?_ hfloor
  have hleast : (10 : ℚ) ^ precision ≤ (a.coefficient * 10 ^ (quotientShift a b).toNat /
      (b.coefficient * 10 ^ (-quotientShift a b).toNat) : Nat) := by
    exact_mod_cast hquotient.least
  have hunit : (0 : ℚ) < (10 : ℚ) ^ quotientExponent a b := zpow_pos (by norm_num) _
  have hbm := magnitude_pos hb
  show _ ≤ _ * (10 : ℚ) ^ quotientExponent a b * b.magnitude
  gcongr

end Quotients

variable {a a' b q q' : Decimal}

theorem div_of_pos (h : div a b = some q) (ha : 0 < a.value) (hb : 0 < b.value) :
    q = round (longQuotient a b) ∧ (longQuotient a b).value = (longQuotient a b).magnitude := by
  obtain ⟨hnegative, -⟩ := positive_parts ha
  rcases div_cases h hb with ⟨hzero, -⟩ | ⟨-, hround, hsign⟩
  · rw [hzero] at ha
    exact absurd ha (lt_irrefl _)
  · exact ⟨hround, value_of_positive (hsign.trans hnegative)⟩

/-- The midpoint of two decimals that fit and are not below the least number with all the digits is
compared with a long quotient as with the exact one. -/
theorem midpoint_compare (ha : 0 < a.value) (hb : 0 < b.value) {x y : Decimal}
    (hx : x.Fits) (hy : y.Fits)
    (hxleast : 10 ^ precision * (10 : ℚ) ^ quotientExponent a b ≤ x.value)
    (hyleast : 10 ^ precision * (10 : ℚ) ^ quotientExponent a b ≤ y.value) :
    (a.value < (x.value + y.value) / 2 * b.value →
      (longQuotient a b).magnitude < (x.value + y.value) / 2) ∧
    (a.value = (x.value + y.value) / 2 * b.value →
      (longQuotient a b).magnitude = (x.value + y.value) / 2) ∧
    ((x.value + y.value) / 2 * b.value < a.value →
      (x.value + y.value) / 2 < (longQuotient a b).magnitude) := by
  obtain ⟨hasign, hacoefficient⟩ := positive_parts ha
  obtain ⟨hbsign, hbcoefficient⟩ := positive_parts hb
  have hunit : (0 : ℚ) < (10 : ℚ) ^ quotientExponent a b := zpow_pos (by norm_num) _
  have hten : (10 : ℚ) ^ (quotientExponent a b + 1) = 10 * (10 : ℚ) ^ quotientExponent a b := by
    rw [zpow_add_one₀ (by norm_num), mul_comm]
  have hdigits : (10 : ℚ) ^ precision * (10 : ℚ) ^ quotientExponent a b =
      10 ^ (precision - 1) * (10 : ℚ) ^ (quotientExponent a b + 1) := by
    rw [hten, ← mul_assoc]
    norm_num [precision]
  have hpositive : (0 : ℚ) < 10 ^ precision * (10 : ℚ) ^ quotientExponent a b := by positivity
  have hxm : x.value = x.magnitude := by
    rw [← abs_value, abs_of_nonneg (hpositive.le.trans hxleast)]
  have hym : y.value = y.magnitude := by
    rw [← abs_value, abs_of_nonneg (hpositive.le.trans hyleast)]
  obtain ⟨i, hi⟩ := exists_multiple_of_fits hx (by rw [← hdigits, ← hxm]; exact hxleast)
  obtain ⟨j, hj⟩ := exists_multiple_of_fits hy (by rw [← hdigits, ← hym]; exact hyleast)
  have hmidpoint : (x.value + y.value) / 2 =
      ((5 * (i + j) : Nat) : ℚ) * (10 : ℚ) ^ quotientExponent a b := by
    rw [hxm, hym, hi, hj, hten]
    push_cast
    ring
  have hcompare := longQuotient_compare (a := a) hbcoefficient (n := 5 * (i + j)) (by omega)
  rw [hmidpoint, value_of_positive hasign, value_of_positive hbsign]
  exact hcompare

/-- The least number with all the digits of a long quotient, as a decimal. -/
theorem exists_least (a b : Decimal) : ∃ x : Decimal, x.Fits ∧
    x.value = 10 ^ precision * (10 : ℚ) ^ quotientExponent a b := by
  refine ⟨⟨false, 10 ^ (precision - 1), quotientExponent a b + 1⟩, ?_, ?_⟩
  · show 10 ^ (precision - 1) < 10 ^ precision
    decide
  rw [value_of_positive rfl]
  show ((10 ^ (precision - 1) : Nat) : ℚ) * (10 : ℚ) ^ (quotientExponent a b + 1) = _
  rw [zpow_add_one₀ (by norm_num)]
  norm_num [precision]
  ring

/-- Quotients of positive decimals by the same positive decimal are monotone. -/
theorem value_div_mono_of_pos (h : div a b = some q) (h' : div a' b = some q') (ha : 0 < a.value)
    (hb : 0 < b.value) (hle : a.value ≤ a'.value) : q.value ≤ q'.value := by
  have ha' : 0 < a'.value := ha.trans_le hle
  obtain ⟨hbsign, hbcoefficient⟩ := positive_parts hb
  -- the least numbers with all the digits are below both quotients
  have hleast : ∀ {c p : Decimal}, div c b = some p → 0 < c.value → c.value ≤ a'.value →
      10 ^ precision * (10 : ℚ) ^ quotientExponent c b ≤ p.value ∧
        10 ^ precision * (10 : ℚ) ^ quotientExponent c b ≤ q'.value := by
    intro c p hdiv hc hcle
    obtain ⟨x, hfits, hvalue⟩ := exists_least c b
    obtain ⟨hcsign, hccoefficient⟩ := positive_parts hc
    have hbelow := quotientExponent_le hccoefficient hbcoefficient
    rw [← value_of_positive hcsign, ← value_of_positive hbsign, ← hvalue] at hbelow
    rw [← hvalue]
    exact ⟨le_value_div hdiv hfits hb hbelow, le_value_div h' hfits hb (hbelow.trans hcle)⟩
  obtain ⟨hfirst, hsecond⟩ := hleast h ha hle
  obtain ⟨hthird, -⟩ := hleast h' ha' le_rfl
  by_contra hless
  have hlt : q'.value < q.value := not_le.mp hless
  obtain ⟨rfl, hlong⟩ := div_of_pos h ha hb
  obtain ⟨rfl, hlong'⟩ := div_of_pos h' ha' hb
  have hlower := midpoint_le_of_lt_round (fits_round (longQuotient a' b)) hlt
  have hupper := le_midpoint_of_round_lt (fits_round (longQuotient a b)) hlt
  obtain ⟨hbelow, hequal, -⟩ := midpoint_compare ha hb (fits_round (longQuotient a' b))
    (fits_round (longQuotient a b)) hsecond hfirst
  obtain ⟨-, hequal', habove⟩ := midpoint_compare ha' hb (fits_round (longQuotient a' b))
    (fits_round (longQuotient a b)) hthird (hthird.trans hlt.le)
  rw [hlong] at hlower
  rw [hlong'] at hupper
  -- both exact quotients are the midpoint, and so are both long ones
  have hexact := not_lt.mp fun hstrict => absurd (hbelow hstrict) (not_lt.mpr hlower)
  have hexact' := not_lt.mp fun hstrict => absurd (habove hstrict) (not_lt.mpr hupper)
  have hsame : (longQuotient a b).value = (longQuotient a' b).value := by
    rw [hlong, hlong', hequal (le_antisymm (hle.trans hexact') hexact),
      hequal' (le_antisymm hexact' (hexact.trans hle))]
  rw [value_round_congr hsame] at hlt
  exact lt_irrefl _ hlt

/-- The quotient of a negated decimal is the negated quotient. -/
theorem div_neg (h : div a b = some q) : div a.neg b = some q.neg := by
  have hsign : ((!a.negative) != b.negative) = !(a.negative != b.negative) := by
    cases a.negative <;> cases b.negative <;> rfl
  unfold div at h ⊢
  by_cases hb : b.coefficient = 0
  · rw [if_pos hb] at h
    cases h
  · rw [if_neg hb] at h ⊢
    by_cases ha : a.coefficient = 0
    · rw [if_pos ha] at h
      obtain rfl := Option.some.inj h
      rw [if_pos (show a.neg.coefficient = 0 from ha)]
      show some (⟨(!a.negative) != b.negative, 0, a.exponent - b.exponent⟩ : Decimal) = _
      rw [hsign]
      rfl
    · rw [if_neg ha] at h
      obtain rfl := Option.some.inj h
      rw [if_neg (show a.neg.coefficient ≠ 0 from ha), ← round_of_neg]
      congr 2
      unfold longQuotient
      show (⟨(!a.negative) != b.negative, _, _⟩ : Decimal) = _
      rw [hsign]
      rfl

theorem value_div_nonpos (h : div a b = some q) (ha : a.value ≤ 0) (hb : 0 < b.value) :
    q.value ≤ 0 := by
  have hneg := value_div_nonneg (div_neg h) (by rw [value_neg]; linarith) hb
  rw [value_neg] at hneg
  linarith

/-- Quotients by the same positive decimal are monotone. -/
theorem value_div_mono (h : div a b = some q) (h' : div a' b = some q') (hb : 0 < b.value)
    (hle : a.value ≤ a'.value) : q.value ≤ q'.value := by
  rcases lt_or_ge 0 a.value with ha | ha
  · exact value_div_mono_of_pos h h' ha hb hle
  · rcases le_or_gt 0 a'.value with ha' | ha'
    · exact (value_div_nonpos h ha hb).trans (value_div_nonneg h' ha' hb)
    · have hneg := value_div_mono_of_pos (div_neg h') (div_neg h) (by rw [value_neg]; linarith) hb
        (by rw [value_neg, value_neg]; linarith)
      rw [value_neg, value_neg] at hneg
      linarith

end Foundation.Decimal
