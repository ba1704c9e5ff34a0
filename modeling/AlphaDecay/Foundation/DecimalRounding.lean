import AlphaDecay.Foundation.Decimal
import Mathlib.Data.Rat.Floor

/-!
# Rounding, division and quantization of decimals

Rounding to the context does not cross a decimal that fits the precision: `le_value_round` and
`value_round_le`. Division computes more digits than the precision, marks a remainder in the last
one, and rounds once, so it does not cross a decimal that fits either. Quantization cuts a decimal
to whole units of a power of ten, down or up.
-/

namespace Foundation.Decimal

/-! ## Rounding does not cross a decimal that fits -/

/-- Rounding half to even gives the floor or the next integer. -/
theorem shiftHalfEven_bounds (coefficient places : Nat) :
    coefficient / 10 ^ places ≤ shiftHalfEven coefficient places ∧
      (shiftHalfEven coefficient places = coefficient / 10 ^ places ∨
        shiftHalfEven coefficient places = coefficient / 10 ^ places + 1 ∧
          coefficient % 10 ^ places ≠ 0) := by
  have hpos : 0 < 10 ^ places := Nat.pow_pos (by decide)
  unfold shiftHalfEven
  dsimp only
  split
  · rename_i hup
    refine ⟨Nat.le_succ _, Or.inr ⟨rfl, ?_⟩⟩
    rcases hup with hup | hup <;> omega
  · exact ⟨le_rfl, Or.inl rfl⟩

/-- A coefficient below a multiple of a power of ten is below it after the power is cut off. -/
theorem shiftHalfEven_le {coefficient places n : Nat} (h : coefficient ≤ n * 10 ^ places) :
    shiftHalfEven coefficient places ≤ n := by
  have hpos : 0 < 10 ^ places := Nat.pow_pos (by decide)
  have hdiv : coefficient / 10 ^ places ≤ n := Nat.div_le_of_le_mul (by rwa [Nat.mul_comm])
  rcases (shiftHalfEven_bounds coefficient places).2 with heq | ⟨heq, hrest⟩
  · rw [heq]
    exact hdiv
  · rw [heq]
    by_contra hnot
    have hn : coefficient / 10 ^ places = n := by omega
    have hsplit := Nat.div_add_mod coefficient (10 ^ places)
    rw [hn, Nat.mul_comm] at hsplit
    omega

def magnitude (d : Decimal) : ℚ :=
  d.coefficient * (10 : ℚ) ^ d.exponent

theorem value_eq_sign_magnitude (d : Decimal) : d.value = d.sign * d.magnitude :=
  value_eq_sign d

theorem magnitude_nonneg (d : Decimal) : 0 ≤ d.magnitude := by
  unfold magnitude
  positivity

variable {d : Decimal} {exponent : Int}

/-- A decimal is a multiple of every power of ten that is not above its own. -/
theorem magnitude_eq_mul (h : exponent ≤ d.exponent) :
    d.magnitude = ((d.coefficient * 10 ^ (d.exponent - exponent).toNat : Nat) : ℚ) *
      (10 : ℚ) ^ exponent := by
  have hsplit : d.exponent = ((d.exponent - exponent).toNat : Int) + exponent := by omega
  rw [magnitude]
  conv_lhs => rw [hsplit, zpow_add₀ (by norm_num), zpow_natCast]
  push_cast
  ring

/-- A decimal that fits is small against every higher power of ten. -/
theorem magnitude_lt_of_fits (hfits : d.Fits) (h : d.exponent < exponent) :
    d.magnitude < 10 ^ (precision - 1) * (10 : ℚ) ^ exponent := by
  have hcoefficient : (d.coefficient : ℚ) < 10 ^ precision := by
    exact_mod_cast hfits
  have hscale : (0 : ℚ) < (10 : ℚ) ^ d.exponent := zpow_pos (by norm_num) _
  have hstep : (10 : ℚ) ^ (d.exponent + 1) ≤ (10 : ℚ) ^ exponent :=
    zpow_le_zpow_right₀ (by norm_num) (by omega)
  have hten : (10 : ℚ) ^ precision * (10 : ℚ) ^ d.exponent =
      10 ^ (precision - 1) * (10 : ℚ) ^ (d.exponent + 1) := by
    rw [zpow_add₀ (by norm_num), zpow_one, precision]
    norm_num
    ring
  calc d.magnitude < 10 ^ precision * (10 : ℚ) ^ d.exponent :=
        mul_lt_mul_of_pos_right hcoefficient hscale
    _ = 10 ^ (precision - 1) * (10 : ℚ) ^ (d.exponent + 1) := hten
    _ ≤ 10 ^ (precision - 1) * (10 : ℚ) ^ exponent := by gcongr

/-- The magnitude of a rounding, as the coefficient cut at some place. -/
theorem magnitude_round (d : Decimal) :
    (round d).sign = d.sign ∧ (round d = d ∨
      ∃ places : Nat, 10 ^ (precision - 1) ≤ d.coefficient / 10 ^ places ∧
        (round d).magnitude =
          shiftHalfEven d.coefficient places * (10 : ℚ) ^ (d.exponent + places)) := by
  have hsign : (round d).sign = d.sign := by
    unfold round sign
    dsimp only
    split
    · rfl
    · split <;> rfl
  refine ⟨hsign, ?_⟩
  rcases value_round d with hself | ⟨places, hkeep, hvalue⟩
  · exact Or.inl hself
  · refine Or.inr ⟨places, hkeep, ?_⟩
    rw [value_eq_sign_magnitude, hsign] at hvalue
    have hne : d.sign ≠ 0 := by
      intro hzero
      have habs := abs_sign d
      rw [hzero, abs_zero] at habs
      norm_num at habs
    rw [mul_left_cancel₀ hne hvalue, zpow_add₀ (by norm_num), zpow_natCast]
    ring

/-- The magnitude of a rounding is not below a decimal that fits and that the magnitude is not
below. -/
theorem le_magnitude_round {x : Decimal} (hfits : x.Fits) (h : x.magnitude ≤ d.magnitude) :
    x.magnitude ≤ (round d).magnitude := by
  rcases (magnitude_round d).2 with hself | ⟨places, hkeep, hround⟩
  · rw [hself]
    exact h
  · have hunit : (0 : ℚ) < (10 : ℚ) ^ (d.exponent + places) := zpow_pos (by norm_num) _
    have hfloor := (shiftHalfEven_bounds d.coefficient places).1
    rw [hround]
    by_cases hexponent : d.exponent + places ≤ x.exponent
    · rw [magnitude_eq_mul hexponent] at h ⊢
      refine mul_le_mul_of_nonneg_right (Nat.cast_le.mpr (le_trans ?_ hfloor)) hunit.le
      rw [Nat.le_div_iff_mul_le (Nat.pow_pos (by decide))]
      rw [magnitude, zpow_add₀ (by norm_num), zpow_natCast, ← mul_assoc] at h
      have hscale : (0 : ℚ) < (10 : ℚ) ^ d.exponent := zpow_pos (by norm_num) _
      have hle : ((x.coefficient * 10 ^ (x.exponent - (d.exponent + places)).toNat : Nat) : ℚ) *
          10 ^ places ≤ d.coefficient := by
        refine le_of_mul_le_mul_right ?_ hscale
        calc _ = ((x.coefficient * 10 ^ (x.exponent - (d.exponent + places)).toNat : Nat) : ℚ) *
              (10 : ℚ) ^ d.exponent * 10 ^ places := by ring
          _ ≤ _ := h
      exact_mod_cast hle
    · have hlt := magnitude_lt_of_fits hfits (lt_of_not_ge hexponent)
      refine hlt.le.trans (mul_le_mul_of_nonneg_right ?_ hunit.le)
      exact_mod_cast hkeep.trans hfloor

/-- The magnitude of a rounding is not above a decimal that fits and that the magnitude is not
above. -/
theorem magnitude_round_le {x : Decimal} (hfits : x.Fits) (h : d.magnitude ≤ x.magnitude) :
    (round d).magnitude ≤ x.magnitude := by
  rcases (magnitude_round d).2 with hself | ⟨places, hkeep, hround⟩
  · rw [hself]
    exact h
  · have hunit : (0 : ℚ) < (10 : ℚ) ^ (d.exponent + places) := zpow_pos (by norm_num) _
    have hscale : (0 : ℚ) < (10 : ℚ) ^ d.exponent := zpow_pos (by norm_num) _
    have hcut : (d.magnitude : ℚ) = d.coefficient * (10 : ℚ) ^ d.exponent := rfl
    have hsplit : (10 : ℚ) ^ (d.exponent + places) = 10 ^ places * (10 : ℚ) ^ d.exponent := by
      rw [zpow_add₀ (by norm_num), zpow_natCast, mul_comm]
    rw [hround]
    by_cases hexponent : d.exponent + places ≤ x.exponent
    · rw [magnitude_eq_mul hexponent] at h ⊢
      refine mul_le_mul_of_nonneg_right (Nat.cast_le.mpr (shiftHalfEven_le ?_)) hunit.le
      rw [hcut, hsplit, ← mul_assoc] at h
      exact_mod_cast le_of_mul_le_mul_right h hscale
    · -- a decimal that fits and has smaller digits is below the leading digits that are kept
      have hlt := magnitude_lt_of_fits hfits (lt_of_not_ge hexponent)
      have hlead : (10 : ℚ) ^ (precision - 1) * (10 : ℚ) ^ (d.exponent + places) ≤ d.magnitude := by
        have hle : 10 ^ (precision - 1) * 10 ^ places ≤ d.coefficient :=
          Nat.mul_le_of_le_div _ _ _ hkeep
        rw [hcut, hsplit, ← mul_assoc]
        refine mul_le_mul_of_nonneg_right ?_ hscale.le
        exact_mod_cast hle
      exact absurd (h.trans_lt hlt) (not_lt.mpr hlead)

theorem value_of_positive (h : d.negative = false) : d.value = d.magnitude := by
  simp [value_eq_sign_magnitude, sign, h]

theorem value_of_negative (h : d.negative = true) : d.value = -d.magnitude := by
  simp [value_eq_sign_magnitude, sign, h]

/-- Rounding keeps the sign. -/
theorem negative_round (d : Decimal) : (round d).negative = d.negative := by
  unfold round
  dsimp only
  split
  · rfl
  · split <;> rfl

/-- A rounding is not below a decimal that fits and that the exact result is not below. -/
theorem le_value_round {x : Decimal} (hfits : x.Fits) (h : x.value ≤ d.value) :
    x.value ≤ (round d).value := by
  have hd := magnitude_nonneg d
  have hx := magnitude_nonneg x
  have hr := magnitude_nonneg (round d)
  cases hsign : d.negative with
  | false =>
      rw [value_of_positive hsign] at h
      rw [value_of_positive ((negative_round d).trans hsign)]
      cases hother : x.negative with
      | false =>
          rw [value_of_positive hother] at h ⊢
          exact le_magnitude_round hfits h
      | true =>
          rw [value_of_negative hother]
          linarith
  | true =>
      rw [value_of_negative hsign] at h
      rw [value_of_negative ((negative_round d).trans hsign)]
      cases hother : x.negative with
      | false =>
          rw [value_of_positive hother] at h ⊢
          have hle := magnitude_round_le hfits (d := d) (by linarith)
          linarith
      | true =>
          rw [value_of_negative hother] at h ⊢
          have hle := magnitude_round_le hfits (d := d) (by linarith)
          linarith

/-- Rounding commutes with negation. -/
theorem round_of_neg (d : Decimal) : round d.neg = (round d).neg := by
  unfold round neg
  dsimp only
  split
  · rfl
  · split <;> rfl

/-- A rounding is not above a decimal that fits and that the exact result is not above. -/
theorem value_round_le {x d : Decimal} (hfits : x.Fits) (h : d.value ≤ x.value) :
    (round d).value ≤ x.value := by
  have hneg : x.neg.value ≤ d.neg.value := by
    rw [value_neg, value_neg]
    linarith
  have hle := le_value_round (x := x.neg) hfits hneg
  rw [round_of_neg, value_neg, value_neg] at hle
  linarith

/-- A rounding is positive exactly when the exact result is. -/
theorem value_round_pos : 0 < (round d).value ↔ 0 < d.value := by
  have hzero : (ofInt 0).Fits := Nat.pow_pos (by decide)
  have hvalue : (ofInt 0).value = 0 := by simp
  have hle := value_round_le (d := d) hzero
  rw [hvalue] at hle
  constructor
  · intro h
    by_contra hnot
    exact absurd (hle (not_lt.mp hnot)) (not_le.mpr h)
  · intro h
    refine lt_of_le_of_ne (value_round_nonneg.mpr h.le) fun heq => ?_
    have hclose := abs_value_round_sub_le d
    rw [← heq] at hclose
    simp only [zero_sub, abs_neg, abs_zero, mul_zero] at hclose
    rw [abs_of_pos h] at hclose
    linarith

/-! ## Division -/

/-- The number of digits of a coefficient, by recursion on a bound. -/
def digitCount : Nat → Nat → Nat
  | 0, _ => 1
  | fuel + 1, n => if n < 10 then 1 else digitCount fuel (n / 10) + 1

/-- By how many places a coefficient is moved before it is divided. -/
def quotientShift (a b : Decimal) : Int :=
  digitCount b.coefficient b.coefficient - digitCount a.coefficient a.coefficient + precision + 1

/-- A quotient of coefficients that marks a remainder in its last digit, so that no tie is left
that is none. -/
def markedQuotient (numerator denominator : Nat) : Nat :=
  let quotient := numerator / denominator
  if numerator % denominator ≠ 0 ∧ quotient % 5 = 0 then quotient + 1 else quotient

/-- A quotient with more digits than the precision. An exact one comes close to the exponent that
its operands suggest. -/
def longQuotient (a b : Decimal) : Decimal :=
  let shift := quotientShift a b
  let numerator := a.coefficient * 10 ^ shift.toNat
  let denominator := b.coefficient * 10 ^ (-shift).toNat
  let stripped := stripZeros (if numerator % denominator = 0 then shift.toNat else 0)
    (markedQuotient numerator denominator) (a.exponent - b.exponent - shift)
  ⟨a.negative != b.negative, stripped.1, stripped.2⟩

/-- The quotient of two decimals, rounded to the context, unless the divisor is zero. -/
def div (a b : Decimal) : Option Decimal :=
  if b.coefficient = 0 then none
  else if a.coefficient = 0 then
    some ⟨a.negative != b.negative, 0, a.exponent - b.exponent⟩
  else some (round (longQuotient a b))

/-- A coefficient has as many digits as are counted. -/
theorem digitCount_bounds {fuel n : Nat} (hfuel : n ≤ fuel) (hpos : 0 < n) :
    10 ^ (digitCount fuel n - 1) ≤ n ∧ n < 10 ^ digitCount fuel n ∧ 0 < digitCount fuel n := by
  induction fuel generalizing n with
  | zero => omega
  | succ fuel ih =>
      rw [digitCount]
      by_cases hsmall : n < 10
      · rw [if_pos hsmall]
        exact ⟨hpos, by simpa using hsmall, Nat.one_pos⟩
      · rw [if_neg hsmall]
        obtain ⟨hlow, hhigh, hcount⟩ := ih (n := n / 10) (by omega) (by omega)
        refine ⟨?_, ?_, Nat.succ_pos _⟩
        · rw [Nat.add_sub_cancel, show digitCount fuel (n / 10) =
            digitCount fuel (n / 10) - 1 + 1 by omega, pow_succ]
          omega
        · rw [pow_succ]
          omega

theorem stripZeros_magnitude (fuel coefficient : Nat) (exponent : Int) :
    ((stripZeros fuel coefficient exponent).1 : ℚ) *
        (10 : ℚ) ^ (stripZeros fuel coefficient exponent).2 =
      coefficient * (10 : ℚ) ^ exponent := by
  induction fuel generalizing coefficient exponent with
  | zero => rfl
  | succ fuel ih =>
      rw [stripZeros]
      by_cases hzero : coefficient % 10 = 0
      · rw [if_pos hzero, ih, zpow_add₀ (by norm_num), zpow_one]
        have hsplit : ((coefficient / 10 : Nat) : ℚ) * 10 = coefficient := by
          exact_mod_cast Nat.div_mul_cancel (Nat.dvd_of_mod_eq_zero hzero)
        rw [← hsplit]
        ring
      · rw [if_neg hzero]

/-- An exact quotient of coefficients before it is rounded: the floor, or the next integer when
there is a remainder. -/
structure QuotientOf (a b : Decimal) (shift : Int) (quotient result : Nat) : Prop where
  floor : quotient = a.coefficient * 10 ^ shift.toNat / (b.coefficient * 10 ^ (-shift).toNat)
  least : 10 ^ precision ≤ quotient
  divisor : 0 < b.coefficient
  lower : quotient ≤ result
  upper : ∀ n, a.coefficient * 10 ^ shift.toNat ≤ n * (b.coefficient * 10 ^ (-shift).toNat) →
    result ≤ n

/-- The scale between the coefficients of a quotient and its operands. -/
theorem quotient_scale (a b : Decimal) (shift : Int) :
    a.magnitude * (b.coefficient * 10 ^ (-shift).toNat : Nat) =
      (a.coefficient * 10 ^ shift.toNat : Nat) *
        ((10 : ℚ) ^ (a.exponent - b.exponent - shift) * b.magnitude) := by
  have hten : (10 : ℚ) ≠ 0 := by norm_num
  have hshift : (10 : ℚ) ^ (-shift).toNat = (10 : ℚ) ^ shift.toNat * (10 : ℚ) ^ (-shift) := by
    rw [← zpow_natCast, ← zpow_natCast, ← zpow_add₀ hten]
    congr 1
    omega
  have hexponent : (10 : ℚ) ^ a.exponent * (10 : ℚ) ^ (-shift) =
      (10 : ℚ) ^ (a.exponent - b.exponent - shift) * (10 : ℚ) ^ b.exponent := by
    rw [← zpow_add₀ hten, ← zpow_add₀ hten]
    congr 1
    omega
  rw [magnitude, magnitude, Nat.cast_mul, Nat.cast_mul, Nat.cast_pow, Nat.cast_pow, Nat.cast_ofNat,
    hshift]
  calc (a.coefficient : ℚ) * (10 : ℚ) ^ a.exponent *
        (b.coefficient * ((10 : ℚ) ^ shift.toNat * (10 : ℚ) ^ (-shift)))
      = a.coefficient * (10 : ℚ) ^ shift.toNat * b.coefficient *
        ((10 : ℚ) ^ a.exponent * (10 : ℚ) ^ (-shift)) := by ring
    _ = _ := by
        rw [hexponent]
        ring

section Quotients

variable {a b : Decimal} {shift : Int} {quotient result : Nat}

/-- The decimal of a quotient before it is rounded. -/
def unrounded (a b : Decimal) (shift : Int) (result : Nat) : Decimal :=
  ⟨a.negative != b.negative, result, a.exponent - b.exponent - shift⟩

/-- The floor of a quotient is at most the exact quotient. -/
theorem QuotientOf.floor_le (h : QuotientOf a b shift quotient result) :
    quotient * (10 : ℚ) ^ (a.exponent - b.exponent - shift) * b.magnitude ≤ a.magnitude := by
  have hdenominator : 0 < b.coefficient * 10 ^ (-shift).toNat :=
    Nat.mul_pos h.divisor (Nat.pow_pos (by decide))
  have hcast : (0 : ℚ) < (b.coefficient * 10 ^ (-shift).toNat : Nat) := by exact_mod_cast
    hdenominator
  have hunit : 0 ≤ (10 : ℚ) ^ (a.exponent - b.exponent - shift) * b.magnitude :=
    mul_nonneg (zpow_nonneg (by norm_num) _) (magnitude_nonneg b)
  refine le_of_mul_le_mul_right ?_ hcast
  rw [quotient_scale]
  have hfloor : quotient * (b.coefficient * 10 ^ (-shift).toNat) ≤
      a.coefficient * 10 ^ shift.toNat := by
    rw [h.floor]
    exact Nat.div_mul_le_self _ _
  calc (quotient : ℚ) * (10 : ℚ) ^ (a.exponent - b.exponent - shift) * b.magnitude *
        (b.coefficient * 10 ^ (-shift).toNat : Nat)
      = ((quotient * (b.coefficient * 10 ^ (-shift).toNat) : Nat) : ℚ) *
        ((10 : ℚ) ^ (a.exponent - b.exponent - shift) * b.magnitude) := by
        push_cast
        ring
    _ ≤ _ := mul_le_mul_of_nonneg_right (by exact_mod_cast hfloor) hunit

theorem magnitude_pos (h : 0 < b.coefficient) : 0 < b.magnitude :=
  mul_pos (by exact_mod_cast h) (zpow_pos (by norm_num) _)

/-- An unrounded quotient is not below a decimal that fits and that the quotient is not below. -/
theorem QuotientOf.le_unrounded (h : QuotientOf a b shift quotient result) {x : Decimal}
    (hfits : x.Fits) (hle : x.magnitude * b.magnitude ≤ a.magnitude) :
    x.magnitude ≤ (unrounded a b shift result).magnitude := by
  have hb := magnitude_pos h.divisor
  have hunit : (0 : ℚ) < (10 : ℚ) ^ (a.exponent - b.exponent - shift) := zpow_pos (by norm_num) _
  have hresult : (quotient : ℚ) * (10 : ℚ) ^ (a.exponent - b.exponent - shift) ≤
      (unrounded a b shift result).magnitude :=
    mul_le_mul_of_nonneg_right (by exact_mod_cast h.lower) hunit.le
  refine le_trans ?_ hresult
  by_cases hexponent : a.exponent - b.exponent - shift ≤ x.exponent
  · have hcast : (0 : ℚ) < (b.coefficient * 10 ^ (-shift).toNat : Nat) := by
      exact_mod_cast Nat.mul_pos h.divisor (Nat.pow_pos (n := (-shift).toNat) (by decide : 0 < 10))
    have hscaled := mul_le_mul_of_nonneg_right hle hcast.le
    rw [quotient_scale] at hscaled
    rw [magnitude_eq_mul hexponent] at hscaled ⊢
    refine mul_le_mul_of_nonneg_right (Nat.cast_le.mpr ?_) hunit.le
    rw [h.floor, Nat.le_div_iff_mul_le (Nat.mul_pos h.divisor (Nat.pow_pos (by decide)))]
    have hpos : 0 < (10 : ℚ) ^ (a.exponent - b.exponent - shift) * b.magnitude := mul_pos hunit hb
    have hnat : ((x.coefficient * 10 ^ (x.exponent - (a.exponent - b.exponent - shift)).toNat : Nat)
        : ℚ) * (b.coefficient * 10 ^ (-shift).toNat : Nat) ≤
        (a.coefficient * 10 ^ shift.toNat : Nat) := by
      refine le_of_mul_le_mul_right ?_ hpos
      refine le_trans (le_of_eq ?_) hscaled
      ring
    exact_mod_cast hnat
  · refine (magnitude_lt_of_fits hfits (lt_of_not_ge hexponent)).le.trans ?_
    refine mul_le_mul_of_nonneg_right ?_ hunit.le
    exact_mod_cast (Nat.pow_le_pow_right (by decide) (by decide)).trans h.least

/-- An unrounded quotient is not above a decimal that fits and that the quotient is not above. -/
theorem QuotientOf.unrounded_le (h : QuotientOf a b shift quotient result) {x : Decimal}
    (hfits : x.Fits) (hle : a.magnitude ≤ x.magnitude * b.magnitude) :
    (unrounded a b shift result).magnitude ≤ x.magnitude := by
  have hb := magnitude_pos h.divisor
  have hunit : (0 : ℚ) < (10 : ℚ) ^ (a.exponent - b.exponent - shift) := zpow_pos (by norm_num) _
  by_cases hexponent : a.exponent - b.exponent - shift ≤ x.exponent
  · have hcast : (0 : ℚ) < (b.coefficient * 10 ^ (-shift).toNat : Nat) := by
      exact_mod_cast Nat.mul_pos h.divisor (Nat.pow_pos (n := (-shift).toNat) (by decide : 0 < 10))
    have hscaled := mul_le_mul_of_nonneg_right hle hcast.le
    rw [quotient_scale] at hscaled
    rw [magnitude_eq_mul hexponent] at hscaled ⊢
    have hpos : 0 < (10 : ℚ) ^ (a.exponent - b.exponent - shift) * b.magnitude := mul_pos hunit hb
    have hnat : ((a.coefficient * 10 ^ shift.toNat : Nat) : ℚ) ≤
        (x.coefficient * 10 ^ (x.exponent - (a.exponent - b.exponent - shift)).toNat : Nat) *
          (b.coefficient * 10 ^ (-shift).toNat : Nat) := by
      refine le_of_mul_le_mul_right ?_ hpos
      refine le_trans hscaled (le_of_eq ?_)
      ring
    have hupper := h.upper _ (by exact_mod_cast hnat)
    exact mul_le_mul_of_nonneg_right (Nat.cast_le.mpr hupper) hunit.le
  · -- a decimal that fits and has smaller digits is below the floor of the quotient
    have hlt := magnitude_lt_of_fits hfits (lt_of_not_ge hexponent)
    have hlead : (10 : ℚ) ^ (precision - 1) * (10 : ℚ) ^ (a.exponent - b.exponent - shift) ≤
        quotient * (10 : ℚ) ^ (a.exponent - b.exponent - shift) := by
      refine mul_le_mul_of_nonneg_right ?_ hunit.le
      exact_mod_cast (Nat.pow_le_pow_right (by decide) (by decide)).trans h.least
    have hfloor := h.floor_le
    have hstrict : x.magnitude * b.magnitude < a.magnitude :=
      lt_of_lt_of_le (mul_lt_mul_of_pos_right (hlt.trans_le hlead) hb) hfloor
    exact absurd hle (not_le.mpr hstrict)

/-- The quotient that division computes has more digits than the precision. -/
theorem precision_le_quotient (ha : 0 < a.coefficient) (hb : 0 < b.coefficient) :
    10 ^ precision ≤ a.coefficient * 10 ^ (quotientShift a b).toNat /
      (b.coefficient * 10 ^ (-quotientShift a b).toNat) := by
  have hshift : quotientShift a b = digitCount b.coefficient b.coefficient -
      digitCount a.coefficient a.coefficient + precision + 1 := rfl
  generalize quotientShift a b = shift at *
  obtain ⟨hlow, -, hcount⟩ := digitCount_bounds le_rfl ha
  obtain ⟨-, hhigh, -⟩ := digitCount_bounds le_rfl hb
  generalize digitCount a.coefficient a.coefficient = da at *
  generalize digitCount b.coefficient b.coefficient = db at *
  rw [Nat.le_div_iff_mul_le (Nat.mul_pos hb (Nat.pow_pos (by decide)))]
  calc 10 ^ precision * (b.coefficient * 10 ^ (-shift).toNat)
      ≤ 10 ^ precision * (10 ^ db * 10 ^ (-shift).toNat) :=
        Nat.mul_le_mul_left _ (Nat.mul_le_mul_right _ hhigh.le)
    _ = 10 ^ (da - 1) * 10 ^ shift.toNat := by
        rw [← pow_add, ← pow_add, ← pow_add]
        congr 1
        simp only [precision] at hshift ⊢
        omega
    _ ≤ a.coefficient * 10 ^ shift.toNat := Nat.mul_le_mul_right _ hlow

theorem le_markedQuotient (numerator denominator : Nat) :
    numerator / denominator ≤ markedQuotient numerator denominator := by
  unfold markedQuotient
  dsimp only
  split <;> omega

/-- A marked quotient is at most every integer that the quotient is not above. -/
theorem markedQuotient_le {numerator denominator n : Nat} (h : numerator ≤ n * denominator) :
    markedQuotient numerator denominator ≤ n := by
  have hdiv : numerator / denominator ≤ n := Nat.div_le_of_le_mul (by rwa [Nat.mul_comm])
  unfold markedQuotient
  dsimp only
  split
  · rename_i hmark
    by_contra hnot
    have hn : numerator / denominator = n := by omega
    have hsplit := Nat.div_add_mod numerator denominator
    rw [hn, Nat.mul_comm] at hsplit
    omega
  · exact hdiv

/-- The quotient that division computes. -/
theorem quotientOf_marked (ha : 0 < a.coefficient) (hb : 0 < b.coefficient) :
    QuotientOf a b (quotientShift a b)
      (a.coefficient * 10 ^ (quotientShift a b).toNat /
        (b.coefficient * 10 ^ (-quotientShift a b).toNat))
      (markedQuotient (a.coefficient * 10 ^ (quotientShift a b).toNat)
        (b.coefficient * 10 ^ (-quotientShift a b).toNat)) where
  floor := rfl
  least := precision_le_quotient ha hb
  divisor := hb
  lower := le_markedQuotient _ _
  upper _ hn := markedQuotient_le hn

theorem magnitude_longQuotient (a b : Decimal) :
    (longQuotient a b).magnitude = (unrounded a b (quotientShift a b)
      (markedQuotient (a.coefficient * 10 ^ (quotientShift a b).toNat)
        (b.coefficient * 10 ^ (-quotientShift a b).toNat))).magnitude :=
  stripZeros_magnitude _ _ _

end Quotients

/-- A positive decimal has no sign and a positive coefficient. -/
theorem positive_parts {b : Decimal} (h : 0 < b.value) :
    b.negative = false ∧ 0 < b.coefficient := by
  have hmagnitude := magnitude_nonneg b
  constructor
  · by_contra hnot
    rw [value_of_negative (Bool.not_eq_false _ ▸ hnot)] at h
    linarith
  · by_contra hnot
    have hzero : b.coefficient = 0 := by omega
    rw [value_eq_sign_magnitude, magnitude, hzero] at h
    simp at h

theorem value_of_zero (h : d.coefficient = 0) : d.value = 0 := by
  rw [value_eq_sign_magnitude, magnitude, h]
  simp

section Divided

variable {a b q x : Decimal}

/-- A quotient by a positive decimal: zero, or the rounding of a long quotient with the sign of the
dividend. -/
theorem div_cases (h : div a b = some q) (hb : 0 < b.value) :
    (a.value = 0 ∧ q.value = 0) ∨
      (0 < a.coefficient ∧ q = round (longQuotient a b) ∧
        (longQuotient a b).negative = a.negative) := by
  obtain ⟨hsign, hcoefficient⟩ := positive_parts hb
  rw [div, if_neg (by omega)] at h
  by_cases hzero : a.coefficient = 0
  · rw [if_pos hzero] at h
    obtain rfl := Option.some.inj h
    exact Or.inl ⟨value_of_zero hzero, value_of_zero rfl⟩
  · rw [if_neg hzero] at h
    refine Or.inr ⟨by omega, (Option.some.inj h).symm, ?_⟩
    show (a.negative != b.negative) = a.negative
    rw [hsign]
    exact Bool.bne_false a.negative

/-- A long quotient is not below a decimal that fits and that the exact quotient is not below. -/
theorem le_value_longQuotient (ha : 0 < a.coefficient)
    (hsign : (longQuotient a b).negative = a.negative) (hfits : x.Fits) (hb : 0 < b.value)
    (hle : x.value * b.value ≤ a.value) : x.value ≤ (longQuotient a b).value := by
  obtain ⟨hpositive, hcoefficient⟩ := positive_parts hb
  have hquotient := quotientOf_marked ha hcoefficient
  have hlong := magnitude_nonneg (longQuotient a b)
  have hbm := magnitude_pos hcoefficient
  rw [value_of_positive hpositive] at hle
  cases hnegative : a.negative with
  | false =>
      rw [value_of_positive hnegative] at hle
      rw [value_of_positive (hsign.trans hnegative)]
      cases hx : x.negative with
      | false =>
          rw [value_of_positive hx] at hle ⊢
          rw [magnitude_longQuotient]
          exact hquotient.le_unrounded hfits hle
      | true =>
          rw [value_of_negative hx]
          linarith [magnitude_nonneg x]
  | true =>
      rw [value_of_negative hnegative] at hle
      rw [value_of_negative (hsign.trans hnegative)]
      have ham := magnitude_pos ha
      cases hx : x.negative with
      | false =>
          rw [value_of_positive hx] at hle
          have hproduct := mul_nonneg (magnitude_nonneg x) hbm.le
          linarith
      | true =>
          rw [value_of_negative hx] at hle ⊢
          rw [magnitude_longQuotient]
          exact neg_le_neg (hquotient.unrounded_le hfits (by linarith))

/-- A long quotient is not above a decimal that fits and that the exact quotient is not above. -/
theorem value_longQuotient_le (ha : 0 < a.coefficient)
    (hsign : (longQuotient a b).negative = a.negative) (hfits : x.Fits) (hb : 0 < b.value)
    (hle : a.value ≤ x.value * b.value) : (longQuotient a b).value ≤ x.value := by
  obtain ⟨hpositive, hcoefficient⟩ := positive_parts hb
  have hquotient := quotientOf_marked ha hcoefficient
  have hlong := magnitude_nonneg (longQuotient a b)
  have hbm := magnitude_pos hcoefficient
  rw [value_of_positive hpositive] at hle
  cases hnegative : a.negative with
  | false =>
      rw [value_of_positive hnegative] at hle
      rw [value_of_positive (hsign.trans hnegative)]
      have ham := magnitude_pos ha
      cases hx : x.negative with
      | false =>
          rw [value_of_positive hx] at hle ⊢
          rw [magnitude_longQuotient]
          exact hquotient.unrounded_le hfits hle
      | true =>
          rw [value_of_negative hx] at hle
          have hproduct := mul_nonneg (magnitude_nonneg x) hbm.le
          linarith
  | true =>
      rw [value_of_negative hnegative] at hle
      rw [value_of_negative (hsign.trans hnegative)]
      cases hx : x.negative with
      | false =>
          rw [value_of_positive hx]
          linarith [magnitude_nonneg x]
      | true =>
          rw [value_of_negative hx] at hle ⊢
          rw [magnitude_longQuotient]
          exact neg_le_neg (hquotient.le_unrounded hfits (by linarith))

/-- A quotient is not below a decimal that fits and that the exact quotient is not below. -/
theorem le_value_div (h : div a b = some q) (hfits : x.Fits) (hb : 0 < b.value)
    (hle : x.value * b.value ≤ a.value) : x.value ≤ q.value := by
  rcases div_cases h hb with ⟨hzero, hq⟩ | ⟨ha, rfl, hsign⟩
  · rw [hzero] at hle
    rw [hq]
    exact nonpos_of_mul_nonpos_left hle hb
  · exact le_value_round hfits (le_value_longQuotient ha hsign hfits hb hle)

theorem value_div_le (h : div a b = some q) (hfits : x.Fits) (hb : 0 < b.value)
    (hle : a.value ≤ x.value * b.value) : q.value ≤ x.value := by
  rcases div_cases h hb with ⟨hzero, hq⟩ | ⟨ha, rfl, hsign⟩
  · rw [hzero] at hle
    rw [hq]
    exact nonneg_of_mul_nonneg_left hle hb
  · exact value_round_le hfits (value_longQuotient_le ha hsign hfits hb hle)

theorem div_isSome (hb : 0 < b.value) : ∃ q, div a b = some q := by
  have hcoefficient := (positive_parts hb).2
  rw [div, if_neg (by omega)]
  by_cases hzero : a.coefficient = 0
  · exact ⟨_, if_pos hzero⟩
  · exact ⟨_, if_neg hzero⟩

/-- A quotient of positive decimals is positive. -/
theorem value_div_pos (h : div a b = some q) (ha : 0 < a.value)
    (hb : 0 < b.value) : 0 < q.value := by
  obtain ⟨hasign, hacoefficient⟩ := positive_parts ha
  obtain ⟨hbsign, hbcoefficient⟩ := positive_parts hb
  -- a power of ten below the quotient
  let power : Decimal := ⟨false, 1, a.exponent - b.exponent - b.coefficient⟩
  have hpower : power.value = (10 : ℚ) ^ (a.exponent - b.exponent - b.coefficient) := by
    show ((1 : Int) : ℚ) * _ = _
    rw [Int.cast_one, one_mul]
  have hpositive : 0 < power.value := hpower ▸ zpow_pos (by norm_num) _
  refine hpositive.trans_le (le_value_div h (show 1 < 10 ^ precision by decide) hb ?_)
  have hten : (10 : ℚ) ≠ 0 := by norm_num
  have hbound : (b.coefficient : ℚ) ≤ (10 : ℚ) ^ (b.coefficient : Int) := by
    rw [zpow_natCast]
    exact_mod_cast (Nat.lt_pow_self (by decide)).le
  have hone : (1 : ℚ) ≤ a.coefficient := by exact_mod_cast hacoefficient
  rw [hpower, value_of_positive hasign, value_of_positive hbsign, magnitude, magnitude]
  have hscale : (0 : ℚ) ≤ (10 : ℚ) ^ a.exponent := zpow_nonneg (by norm_num) _
  calc (10 : ℚ) ^ (a.exponent - b.exponent - b.coefficient) *
        (b.coefficient * (10 : ℚ) ^ b.exponent)
      ≤ (10 : ℚ) ^ (a.exponent - b.exponent - b.coefficient) *
        ((10 : ℚ) ^ (b.coefficient : Int) * (10 : ℚ) ^ b.exponent) := by gcongr
    _ = (10 : ℚ) ^ a.exponent := by
        rw [← zpow_add₀ hten, ← zpow_add₀ hten]
        congr 1
        omega
    _ ≤ a.coefficient * (10 : ℚ) ^ a.exponent := le_mul_of_one_le_left hscale hone

theorem value_div_nonneg (h : div a b = some q) (ha : 0 ≤ a.value) (hb : 0 < b.value) :
    0 ≤ q.value := by
  have hzero : (ofInt 0).Fits := Nat.pow_pos (by decide)
  have hle := le_value_div h hzero hb (by rw [value_ofInt, Int.cast_zero, zero_mul]; exact ha)
  rwa [value_ofInt, Int.cast_zero] at hle

end Divided

/-- A rounding is above the exact result by less than its last digit. -/
theorem value_round_le_slack {y : ℚ} (h : d.value ≤ y) (hy : 0 ≤ y) :
    (round d).value ≤ y * (1 + 1 / 10 ^ 27) := by
  have hclose := abs_value_round_sub_le d
  by_cases hsign : (round d).value ≤ 0
  · exact hsign.trans (by positivity)
  · rw [abs_of_pos (not_le.mp hsign)] at hclose
    have hupper := (abs_le.mp hclose).2
    linarith

theorem sum_comm (a b : Decimal) : a + b = b + a := by
  show add a b = add b a
  have hexponent : commonExponent a b = commonExponent b a := min_comm _ _
  unfold add
  dsimp only
  rw [hexponent, Int.add_comm, Bool.and_comm]

/-! ## Numbers that fit -/

/-- A number is the value of a decimal that fits the precision. -/
def Representable (x : ℚ) : Prop :=
  ∃ d : Decimal, d.value = x ∧ d.Fits

section Represented

variable {a b : Decimal} {x : ℚ}

theorem Representable.neg (h : Representable x) : Representable (-x) := by
  obtain ⟨d, hvalue, hfits⟩ := h
  exact ⟨d.neg, by rw [value_neg, hvalue], hfits⟩

/-- A number that fits, moved by places. -/
theorem Representable.scaled (h : Representable x) (places : Nat) :
    Representable (x * 10 ^ places) := by
  obtain ⟨d, hvalue, hfits⟩ := h
  refine ⟨{ d with exponent := d.exponent + places }, ?_, hfits⟩
  show (d.significand : ℚ) * (10 : ℚ) ^ (d.exponent + places) = _
  rw [zpow_add₀ (by norm_num), zpow_natCast, ← mul_assoc]
  exact congrArg (· * (10 : ℚ) ^ places) hvalue

theorem Representable.value_round (h : Representable a.value) : (round a).value = a.value := by
  obtain ⟨d, hvalue, hfits⟩ := h
  rw [value_round_of_fits hvalue.symm hfits, hvalue]

theorem Representable.value_add (h : Representable (a.value + b.value)) :
    (a + b).value = a.value + b.value := by
  obtain ⟨exact, hvalue, hround⟩ := Decimal.value_add a b
  rw [← hvalue] at h ⊢
  rw [hround, h.value_round]

theorem Representable.value_sub (h : Representable (a.value - b.value)) :
    (a - b).value = a.value - b.value := by
  obtain ⟨exact, hvalue, hround⟩ := Decimal.value_sub a b
  rw [← hvalue] at h ⊢
  rw [hround, h.value_round]

theorem Representable.value_mul (h : Representable (a.value * b.value)) :
    (a * b).value = a.value * b.value := by
  obtain ⟨exact, hvalue, hround⟩ := Decimal.value_mul a b
  rw [← hvalue] at h ⊢
  rw [hround, h.value_round]

/-- A quotient that fits is exact. -/
theorem Representable.value_div {q : Decimal} (h : Representable (a.value / b.value))
    (hb : 0 < b.value) (hq : div a b = some q) : q.value = a.value / b.value := by
  obtain ⟨exact, hvalue, hfits⟩ := h
  have hproduct : exact.value * b.value = a.value := by
    rw [hvalue, div_mul_cancel₀ _ hb.ne']
  rw [← hvalue]
  exact le_antisymm (value_div_le hq hfits hb hproduct.ge) (le_value_div hq hfits hb hproduct.le)

theorem value_add_pos : 0 < (a + b).value ↔ 0 < a.value + b.value := by
  obtain ⟨exact, hvalue, hround⟩ := Decimal.value_add a b
  rw [hround, value_round_pos, hvalue]

theorem value_sub_pos : 0 < (a - b).value ↔ 0 < a.value - b.value := by
  obtain ⟨exact, hvalue, hround⟩ := Decimal.value_sub a b
  rw [hround, value_round_pos, hvalue]

theorem value_mul_pos : 0 < (a * b).value ↔ 0 < a.value * b.value := by
  obtain ⟨exact, hvalue, hround⟩ := Decimal.value_mul a b
  rw [hround, value_round_pos, hvalue]

/-- The value without a sign is the absolute value. -/
theorem value_unsigned (d : Decimal) : ({ d with negative := false } : Decimal).value =
    |d.value| := by
  have hmagnitude := magnitude_nonneg d
  rw [value_of_positive rfl]
  show d.magnitude = |d.value|
  cases hsign : d.negative with
  | false => rw [value_of_positive hsign, abs_of_nonneg hmagnitude]
  | true => rw [value_of_negative hsign, abs_neg, abs_of_nonneg hmagnitude]

theorem value_abs (h : a.Fits) : a.abs.value = |a.value| := by
  rw [← value_unsigned, Decimal.abs]
  exact value_round_of_fits rfl h

theorem value_abs_pos : 0 < a.abs.value ↔ a.value ≠ 0 := by
  rw [Decimal.abs, value_round_pos, value_unsigned, abs_pos]

theorem fits_sub (a b : Decimal) : (a - b).Fits :=
  fits_round _

theorem value_sub_comm (a b : Decimal) : (a - b).value = -(b - a).value := by
  obtain ⟨exact, hvalue, hround⟩ := Decimal.value_sub a b
  obtain ⟨other, hother, hround'⟩ := Decimal.value_sub b a
  rw [hround, hround', ← value_neg, ← round_of_neg]
  exact value_round_congr (by rw [hvalue, value_neg, hother, neg_sub])

theorem value_abs_sub_comm (a b : Decimal) : (a - b).abs.value = (b - a).abs.value := by
  rw [value_abs (fits_sub a b), value_abs (fits_sub b a), value_sub_comm, abs_neg]

theorem value_sub_ne_zero (h : a.value ≠ b.value) : (a - b).value ≠ 0 := by
  obtain ⟨exact, hvalue, hround⟩ := Decimal.value_sub a b
  have hclose := abs_value_round_sub_le exact
  intro hzero
  rw [← hround, hzero, hvalue, zero_sub, abs_neg] at hclose
  have hpos : 0 < |a.value - b.value| := abs_pos.mpr (sub_ne_zero.mpr h)
  linarith

theorem value_abs_sub_pos (h : a.value ≠ b.value) : 0 < (a - b).abs.value := by
  rw [value_abs (fits_sub a b)]
  exact abs_pos.mpr (value_sub_ne_zero h)

theorem value_sub_congr {a' b' : Decimal} (ha : a.value = a'.value) (hb : b.value = b'.value) :
    (a - b).value = (a' - b').value :=
  value_add_congr ha (by rw [value_neg, value_neg, hb])

theorem value_mul_congr {a' b' : Decimal} (ha : a.value = a'.value) (hb : b.value = b'.value) :
    (a * b).value = (a' * b').value := by
  obtain ⟨exact, hvalue, hround⟩ := Decimal.value_mul a b
  obtain ⟨exact', hvalue', hround'⟩ := Decimal.value_mul a' b'
  rw [hround, hround']
  exact value_round_congr (by rw [hvalue, hvalue', ha, hb])

end Represented

/-! ## Whole units -/

/-- The largest integer that is not above a decimal. -/
def floorInt (d : Decimal) : Int :=
  d.scaled (min d.exponent 0) / 10 ^ (-(min d.exponent 0)).toNat

/-- The largest integer that is not above a decimal is the floor of its value. -/
theorem floorInt_eq (d : Decimal) : d.floorInt = ⌊d.value⌋ := by
  obtain ⟨places, hplaces⟩ : ∃ places : Nat, min d.exponent 0 = -places :=
    ⟨(-(min d.exponent 0)).toNat, by omega⟩
  have hvalue := value_eq_scaled d (min_le_left d.exponent 0)
  rw [floorInt]
  rw [hplaces] at hvalue ⊢
  rw [hvalue, zpow_neg, zpow_natCast, neg_neg, Int.toNat_natCast, ← div_eq_mul_inv]
  have hdiv := Rat.floor_intCast_div_natCast (d.scaled (-(places : Int))) (10 ^ places)
  push_cast at hdiv
  exact hdiv.symm

/-- The whole units of a power of ten that are not above a decimal. -/
def units (d : Decimal) (exponent : Int) : Int :=
  if exponent ≤ d.exponent then d.significand * 10 ^ (d.exponent - exponent).toNat
  else d.significand / 10 ^ (exponent - d.exponent).toNat

/-- The decimal cut down to whole units of a power of ten, when the result fits the precision. -/
def quantizeFloor (d : Decimal) (exponent : Int) : Option Decimal :=
  let coefficient := (d.units exponent).natAbs
  if coefficient < 10 ^ precision then some ⟨d.negative, coefficient, exponent⟩ else none

/-- The decimal cut up to whole units of a power of ten, when the result fits the precision. -/
def quantizeCeiling (d : Decimal) (exponent : Int) : Option Decimal :=
  (quantizeFloor d.neg exponent).map neg

theorem units_sign (d : Decimal) (exponent : Int) :
    (d.negative = true → d.units exponent ≤ 0) ∧ (d.negative = false → 0 ≤ d.units exponent) := by
  have hneg : d.negative = true → d.significand ≤ 0 := fun h => by simp [significand, h]
  have hpos : d.negative = false → 0 ≤ d.significand := fun h => by simp [significand, h]
  have hpow : (0 : Int) < 10 ^ (exponent - d.exponent).toNat := by positivity
  have hpow' : (0 : Int) < 10 ^ (d.exponent - exponent).toNat := by positivity
  unfold units
  split
  · exact ⟨fun h => mul_nonpos_of_nonpos_of_nonneg (hneg h) hpow'.le,
      fun h => mul_nonneg (hpos h) hpow'.le⟩
  · exact ⟨fun h => Int.ediv_le_of_le_mul hpow (by rw [zero_mul]; exact hneg h),
      fun h => Int.ediv_nonneg (hpos h) hpow.le⟩

theorem units_spec (d : Decimal) (exponent : Int) :
    d.units exponent * (10 : ℚ) ^ exponent ≤ d.value ∧
      d.value < (d.units exponent + 1) * (10 : ℚ) ^ exponent := by
  have hten : (10 : ℚ) ≠ 0 := by norm_num
  have hunit : (0 : ℚ) < (10 : ℚ) ^ exponent := zpow_pos (by norm_num) _
  by_cases hexponent : exponent ≤ d.exponent
  · have hsplit : d.exponent = ((d.exponent - exponent).toNat : Int) + exponent := by omega
    have hexact : d.value = d.units exponent * (10 : ℚ) ^ exponent := by
      rw [value, units, if_pos hexponent]
      conv_lhs => rw [hsplit, zpow_add₀ hten, zpow_natCast]
      push_cast
      ring
    rw [hexact]
    exact ⟨le_rfl, mul_lt_mul_of_pos_right (lt_add_one _) hunit⟩
  · obtain ⟨places, hplaces⟩ : ∃ places : Nat, exponent = d.exponent + places :=
      ⟨(exponent - d.exponent).toNat, by omega⟩
    have hcut : d.units exponent = d.significand / 10 ^ places := by
      rw [units, if_neg hexponent, show (exponent - d.exponent).toNat = places by omega]
    have hpow : (0 : Int) < 10 ^ places := by positivity
    have hscale : (0 : ℚ) < (10 : ℚ) ^ d.exponent := zpow_pos (by norm_num) _
    have hlow := Int.ediv_mul_le d.significand hpow.ne'
    have hhigh := Int.lt_ediv_add_one_mul_self d.significand hpow
    rw [← hcut] at hlow hhigh
    generalize d.units exponent = cut at *
    rw [hplaces, zpow_add₀ hten, zpow_natCast, value]
    constructor
    · have hcast : (cut : ℚ) * 10 ^ places ≤ d.significand := by exact_mod_cast hlow
      calc (cut : ℚ) * ((10 : ℚ) ^ d.exponent * 10 ^ places)
          = cut * 10 ^ places * (10 : ℚ) ^ d.exponent := by ring
        _ ≤ _ := mul_le_mul_of_nonneg_right hcast hscale.le
    · have hcast : (d.significand : ℚ) < (cut + 1) * 10 ^ places := by exact_mod_cast hhigh
      calc (d.significand : ℚ) * (10 : ℚ) ^ d.exponent
          < (cut + 1) * 10 ^ places * (10 : ℚ) ^ d.exponent :=
            mul_lt_mul_of_pos_right hcast hscale
        _ = _ := by ring

/-- What is cut down is a whole number of units, and less than one unit below. -/
theorem quantizeFloor_spec {q : Decimal} (h : quantizeFloor d exponent = some q) :
    q.exponent = exponent ∧ q.Fits ∧ q.value ≤ d.value ∧
      d.value < q.value + (10 : ℚ) ^ exponent := by
  unfold quantizeFloor at h
  dsimp only at h
  by_cases hfits : (d.units exponent).natAbs < 10 ^ precision
  · rw [if_pos hfits] at h
    obtain rfl := Option.some.inj h
    -- the sign of the result is that of the number that is cut
    have hsignificand : (⟨d.negative, (d.units exponent).natAbs, exponent⟩ : Decimal).significand =
        d.units exponent := by
      obtain ⟨hneg, hpos⟩ := units_sign d exponent
      cases hsign : d.negative with
      | true =>
          have hle := hneg hsign
          simp only [significand, if_true]
          omega
      | false =>
          have hle := hpos hsign
          simp only [significand, Bool.false_eq_true, if_false]
          omega
    obtain ⟨hlow, hhigh⟩ := units_spec d exponent
    refine ⟨rfl, hfits, ?_⟩
    rw [value, hsignificand]
    refine ⟨hlow, lt_of_lt_of_eq hhigh ?_⟩
    ring
  · rw [if_neg hfits] at h
    cases h

/-- What is cut up is a whole number of units, and at most one unit above. -/
theorem quantizeCeiling_spec {q : Decimal} (h : quantizeCeiling d exponent = some q) :
    q.exponent = exponent ∧ q.Fits ∧ d.value ≤ q.value ∧
      q.value < d.value + (10 : ℚ) ^ exponent := by
  obtain ⟨cut, hcut, rfl⟩ := Option.map_eq_some_iff.mp h
  obtain ⟨hexponent, hfits, hlow, hhigh⟩ := quantizeFloor_spec hcut
  rw [value_neg] at hlow hhigh
  refine ⟨hexponent, hfits, ?_, ?_⟩
  · rw [value_neg]
    linarith
  · rw [value_neg]
    linarith

/-! ## Rounding half up -/

/-- A coefficient divided by a power of ten, with halves rounded away from zero. -/
def shiftHalfUp (coefficient places : Nat) : Nat :=
  let quotient := coefficient / 10 ^ places
  let remainder := coefficient % 10 ^ places
  if 10 ^ places ≤ 2 * remainder then quotient + 1 else quotient

/-- The decimal rounded half up to a power of ten, when the result fits the precision. -/
def quantizeHalfUp (d : Decimal) (exponent : Int) : Option Decimal :=
  let coefficient :=
    if exponent ≤ d.exponent then d.coefficient * 10 ^ (d.exponent - exponent).toNat
    else shiftHalfUp d.coefficient (exponent - d.exponent).toNat
  if coefficient < 10 ^ precision then some { d with coefficient, exponent } else none

/-- What is rounded half up has the exponent, and fits the precision. -/
theorem quantizeHalfUp_spec {q : Decimal} (h : quantizeHalfUp d exponent = some q) :
    q.exponent = exponent ∧ q.Fits := by
  unfold quantizeHalfUp at h
  dsimp only at h
  generalize hcoefficient : (if exponent ≤ d.exponent
    then d.coefficient * 10 ^ (d.exponent - exponent).toNat
    else shiftHalfUp d.coefficient (exponent - d.exponent).toNat) = coefficient at h
  by_cases hfits : coefficient < 10 ^ precision
  · rw [if_pos hfits] at h
    obtain rfl := Option.some.inj h
    exact ⟨rfl, hfits⟩
  · rw [if_neg hfits] at h
    cases h

theorem quantize_self (hexponent : d.exponent = exponent) (hfits : d.Fits) :
    d.quantize exponent = some d := by
  subst hexponent
  unfold quantize
  rw [if_pos le_rfl, sub_self, Int.toNat_zero, pow_zero, mul_one]
  exact if_pos hfits

end Foundation.Decimal
