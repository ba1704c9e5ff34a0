import AlphaDecay.Foundation.DecimalRounding

/-!
# Arithmetic of moderate decimals

Arithmetic does not cross a decimal that fits the precision, and the multiples of a small power of
ten below a bound all fit. A result below that bound is therefore within one such step of the exact
result: `value_add_near`, `value_sub_near` and `value_half_near`.
-/

namespace Foundation.Decimal

/-- Below this bound the results of arithmetic are close to the exact ones. -/
def moderate : ℚ :=
  10 ^ 11

/-- How close the results of arithmetic are to the exact ones. -/
def slack : ℚ :=
  1 / 10 ^ 15

/-- A multiple of the slack that is moderate is the value of a decimal that fits. -/
theorem exists_fits_grid {steps : Int} (h : |(steps : ℚ)| ≤ 10 ^ 26 + 1) :
    ∃ d : Decimal, d.value = steps / 10 ^ 15 ∧ d.Fits := by
  refine @exists_fits ((steps : ℚ) / 10 ^ 15) 12 15 ?_ ?_ (by decide)
  · rw [div_mul_cancel₀ _ (by positivity)]
    exact Rat.den_intCast _
  · rw [abs_div, abs_of_pos (show (0 : ℚ) < 10 ^ 15 by positivity), div_lt_iff₀ (by positivity)]
    refine h.trans_lt ?_
    norm_num

/-- A result that crosses no decimal that fits is close to the exact one. -/
theorem near_of_between {exact result : ℚ} (hsmall : |exact| ≤ moderate)
    (hlow : ∀ x : Decimal, x.Fits → x.value ≤ exact → x.value ≤ result)
    (hhigh : ∀ x : Decimal, x.Fits → exact ≤ x.value → result ≤ x.value) :
    |result - exact| ≤ slack := by
  have hfloor := Int.floor_le (exact * 10 ^ 15)
  have hnext := Int.lt_floor_add_one (exact * 10 ^ 15)
  generalize ⌊exact * 10 ^ 15⌋ = steps at hfloor hnext
  obtain ⟨hlower, hupper⟩ := abs_le.mp hsmall
  rw [moderate] at hlower hupper
  have hpow : (0 : ℚ) < 10 ^ 15 := by positivity
  -- the two multiples of the slack around the exact result
  obtain ⟨below, hbelow, hbelowFits⟩ := @exists_fits_grid steps (by
    rw [abs_le]
    constructor <;> linarith)
  obtain ⟨above, habove, haboveFits⟩ := @exists_fits_grid (steps + 1) (by
    rw [abs_le]
    push_cast
    constructor <;> linarith)
  have hlowest := hlow below hbelowFits (by rw [hbelow, div_le_iff₀ hpow]; exact hfloor)
  have hhighest := hhigh above haboveFits (by
    rw [habove, le_div_iff₀ hpow]
    push_cast
    exact hnext.le)
  rw [hbelow, div_le_iff₀ hpow] at hlowest
  rw [habove, le_div_iff₀ hpow] at hhighest
  push_cast at hhighest
  rw [slack, abs_le]
  constructor
  · rw [neg_le, ← sub_nonneg]
    have : 0 ≤ (1 / 10 ^ 15 - -(result - exact)) * 10 ^ 15 := by
      rw [sub_mul, one_div_mul_cancel hpow.ne']
      linarith
    exact nonneg_of_mul_nonneg_left this hpow
  · rw [← sub_nonneg]
    have : 0 ≤ (1 / 10 ^ 15 - (result - exact)) * 10 ^ 15 := by
      rw [sub_mul, one_div_mul_cancel hpow.ne']
      linarith
    exact nonneg_of_mul_nonneg_left this hpow

variable {d : Decimal}

theorem value_round_near (hsmall : |d.value| ≤ moderate) : |(round d).value - d.value| ≤ slack :=
  near_of_between hsmall (fun _ hfits h => le_value_round hfits h)
    fun _ hfits h => value_round_le hfits h

theorem value_add_near {a b : Decimal} (hsmall : |a.value + b.value| ≤ moderate) :
    |(a + b).value - (a.value + b.value)| ≤ slack := by
  obtain ⟨exact, hvalue, hround⟩ := Decimal.value_add a b
  rw [← hvalue] at hsmall ⊢
  rw [hround]
  exact value_round_near hsmall

theorem value_sub_near {a b : Decimal} (hsmall : |a.value - b.value| ≤ moderate) :
    |(a - b).value - (a.value - b.value)| ≤ slack := by
  obtain ⟨exact, hvalue, hround⟩ := Decimal.value_sub a b
  rw [← hvalue] at hsmall ⊢
  rw [hround]
  exact value_round_near hsmall

/-- A half is close to the exact one. -/
theorem value_half_near {a q : Decimal} (h : div a (ofInt 2) = some q)
    (hsmall : |a.value / 2| ≤ moderate) : |q.value - a.value / 2| ≤ slack := by
  have htwo : (ofInt 2).value = 2 := by simp
  refine near_of_between hsmall ?_ ?_
  · intro x hfits hle
    refine le_value_div h hfits (by rw [htwo]; norm_num) ?_
    rw [htwo]
    linarith
  · intro x hfits hle
    refine value_div_le h hfits (by rw [htwo]; norm_num) ?_
    rw [htwo]
    linarith

/-- A moderate number has whole units of a cent that fit the precision. -/
theorem units_lt_precision (hsmall : |d.value| ≤ moderate) :
    (d.units (-2)).natAbs < 10 ^ precision := by
  obtain ⟨hlow, hhigh⟩ := units_spec d (-2)
  obtain ⟨hlower, hupper⟩ := abs_le.mp hsmall
  rw [moderate] at hlower hupper
  have hcent : (10 : ℚ) ^ (-2 : Int) = 1 / 100 := by norm_num
  rw [hcent] at hlow hhigh
  have hbound : |(d.units (-2) : ℚ)| < 10 ^ 28 := by
    rw [abs_lt]
    constructor <;> linarith
  have hcast : (((d.units (-2)).natAbs : Nat) : ℚ) < ((10 ^ precision : Nat) : ℚ) := by
    rw [Nat.cast_natAbs, Int.cast_abs, precision]
    push_cast
    exact hbound
  exact Nat.cast_lt.mp hcast

theorem quantizeFloor_isSome (hsmall : |d.value| ≤ moderate) : ∃ q, d.quantizeFloor (-2) = some q :=
  ⟨_, if_pos (units_lt_precision hsmall)⟩

theorem quantizeCeiling_isSome (hsmall : |d.value| ≤ moderate) :
    ∃ q, d.quantizeCeiling (-2) = some q := by
  obtain ⟨q, hq⟩ := quantizeFloor_isSome (d := d.neg) (by rwa [value_neg, abs_neg])
  exact ⟨q.neg, by rw [quantizeCeiling, hq, Option.map_some]⟩

end Foundation.Decimal
