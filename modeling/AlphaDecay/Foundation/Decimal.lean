import Mathlib.Algebra.Order.Field.Basic
import Mathlib.Algebra.Order.Field.Power
import Mathlib.Algebra.Order.Field.Rat
import Mathlib.Data.Rat.Cast.Order
import Mathlib.Tactic.Linarith
import Mathlib.Tactic.NormNum
import Mathlib.Tactic.Positivity
import Mathlib.Tactic.Ring

/-!
# Finite decimal numbers

A decimal is a sign, a coefficient and a power of ten, so `1.0` and `1.00` are different decimals
with the same value. Comparison and equality `==` are by value. Addition and subtraction compute
the exact result and round it to the precision of the default context, 28 significant digits with
ties to even. `value` gives the rational number a decimal stands for; `value_add` and
`value_sub` say that arithmetic is exact up to one rounding, and `abs_sub_value_round_le` bounds
that rounding.
-/

namespace Foundation

/-- A finite decimal: a sign, a coefficient and a power of ten. -/
structure Decimal where
  negative : Bool
  coefficient : Nat
  exponent : Int
deriving DecidableEq, Repr

namespace Decimal

/-- The signed coefficient. -/
def significand (d : Decimal) : Int :=
  if d.negative then -(d.coefficient : Int) else d.coefficient

/-- The rational number a decimal stands for. -/
def value (d : Decimal) : ℚ :=
  d.significand * (10 : ℚ) ^ d.exponent

/-- The signed coefficient over a lower power of ten. -/
def scaled (d : Decimal) (exponent : Int) : Int :=
  d.significand * 10 ^ (d.exponent - exponent).toNat

theorem value_eq_scaled (d : Decimal) {exponent : Int} (h : exponent ≤ d.exponent) :
    d.value = d.scaled exponent * (10 : ℚ) ^ exponent := by
  have hsplit : d.exponent = ((d.exponent - exponent).toNat : Int) + exponent := by omega
  rw [value, scaled]
  conv_lhs => rw [hsplit, zpow_add₀ (by norm_num), zpow_natCast]
  push_cast
  ring

/-! ## Comparison -/

/-- The lower of two exponents, over which two decimals compare as integers. -/
def commonExponent (a b : Decimal) : Int :=
  min a.exponent b.exponent

instance : LE Decimal :=
  ⟨fun a b => a.scaled (commonExponent a b) ≤ b.scaled (commonExponent a b)⟩

instance : LT Decimal :=
  ⟨fun a b => a.scaled (commonExponent a b) < b.scaled (commonExponent a b)⟩

instance (a b : Decimal) : Decidable (a ≤ b) :=
  inferInstanceAs (Decidable (a.scaled (commonExponent a b) ≤ b.scaled (commonExponent a b)))

instance (a b : Decimal) : Decidable (a < b) :=
  inferInstanceAs (Decidable (a.scaled (commonExponent a b) < b.scaled (commonExponent a b)))

/-- Numeric equality. -/
instance : BEq Decimal :=
  ⟨fun a b => decide (a.scaled (commonExponent a b) = b.scaled (commonExponent a b))⟩

theorem value_pair (a b : Decimal) :
    a.value = a.scaled (commonExponent a b) * (10 : ℚ) ^ commonExponent a b ∧
      b.value = b.scaled (commonExponent a b) * (10 : ℚ) ^ commonExponent a b :=
  ⟨value_eq_scaled a (min_le_left _ _), value_eq_scaled b (min_le_right _ _)⟩

variable {a b d : Decimal}

theorem le_iff_value : a ≤ b ↔ a.value ≤ b.value := by
  obtain ⟨ha, hb⟩ := value_pair a b
  have hpos : (0 : ℚ) < (10 : ℚ) ^ commonExponent a b := by positivity
  rw [ha, hb, mul_le_mul_iff_left₀ hpos, Int.cast_le]
  rfl

theorem lt_iff_value : a < b ↔ a.value < b.value := by
  obtain ⟨ha, hb⟩ := value_pair a b
  have hpos : (0 : ℚ) < (10 : ℚ) ^ commonExponent a b := by positivity
  rw [ha, hb, mul_lt_mul_iff_left₀ hpos, Int.cast_lt]
  rfl

theorem beq_iff_value : (a == b) = true ↔ a.value = b.value := by
  obtain ⟨ha, hb⟩ := value_pair a b
  have hpos : (10 : ℚ) ^ commonExponent a b ≠ 0 := by positivity
  rw [ha, hb, mul_left_inj' hpos, Int.cast_inj]
  exact decide_eq_true_iff

@[simp] theorem beq_self (a : Decimal) : (a == a) = true :=
  beq_iff_value.mpr rfl

/-! ## Rounding to the context precision -/

/-- The number of significant digits that arithmetic keeps. -/
def precision : Nat := 28

/-- A coefficient divided by a power of ten, rounded half to even. -/
def shiftHalfEven (coefficient places : Nat) : Nat :=
  let quotient := coefficient / 10 ^ places
  let remainder := coefficient % 10 ^ places
  if 10 ^ places < 2 * remainder ∨ (2 * remainder = 10 ^ places ∧ quotient % 2 = 1) then
    quotient + 1
  else quotient

/-- How many digits a coefficient has beyond the precision. -/
def excessDigits : Nat → Nat → Nat
  | 0, _ => 0
  | fuel + 1, coefficient =>
      if coefficient < 10 ^ precision then 0 else excessDigits fuel (coefficient / 10) + 1

/-- A decimal rounded to the precision of the context. -/
def round (d : Decimal) : Decimal :=
  let places := excessDigits d.coefficient d.coefficient
  if places = 0 then d
  else
    let rounded := shiftHalfEven d.coefficient places
    if rounded = 10 ^ precision then
      { d with coefficient := rounded / 10, exponent := d.exponent + places + 1 }
    else { d with coefficient := rounded, exponent := d.exponent + places }

/-- Rounding a coefficient moves it by at most half of the last place kept. -/
theorem abs_shiftHalfEven_sub_le (coefficient places : Nat) :
    |(shiftHalfEven coefficient places : ℚ) * 10 ^ places - coefficient| ≤ 10 ^ places / 2 := by
  have hsplit : (coefficient : ℚ) =
      10 ^ places * (coefficient / 10 ^ places : Nat) + (coefficient % 10 ^ places : Nat) := by
    exact_mod_cast (Nat.div_add_mod coefficient (10 ^ places)).symm
  have hlt : coefficient % 10 ^ places < 10 ^ places := Nat.mod_lt _ (by positivity)
  unfold shiftHalfEven
  generalize coefficient / 10 ^ places = quotient at *
  generalize coefficient % 10 ^ places = remainder at *
  dsimp only
  split
  · rename_i hup
    have hhalf : 10 ^ places ≤ 2 * remainder := by rcases hup with h | h <;> omega
    have hhalfQ : (10 ^ places : ℚ) ≤ 2 * remainder := by exact_mod_cast hhalf
    have hltQ : (remainder : ℚ) < 10 ^ places := by exact_mod_cast hlt
    rw [hsplit, abs_le]
    push_cast
    constructor <;> nlinarith
  · rename_i hdown
    have hhalf : 2 * remainder ≤ 10 ^ places := by
      by_contra hover
      exact hdown (Or.inl (by omega))
    have hhalfQ : (2 * remainder : ℚ) ≤ 10 ^ places := by exact_mod_cast hhalf
    have hnonneg : (0 : ℚ) ≤ remainder := Nat.cast_nonneg remainder
    rw [hsplit, abs_le]
    constructor <;> nlinarith

/-- A coefficient with excess digits keeps exactly the digits of the precision. -/
theorem excessDigits_spec (fuel coefficient : Nat) (hfuel : coefficient ≤ fuel) :
    (excessDigits fuel coefficient = 0 ∧ coefficient < 10 ^ precision) ∨
      10 ^ (precision - 1) ≤ coefficient / 10 ^ excessDigits fuel coefficient := by
  induction fuel generalizing coefficient with
  | zero =>
      have hpow := Nat.pow_pos (n := precision) (show 0 < 10 by decide)
      exact Or.inl ⟨rfl, by omega⟩
  | succ fuel ih =>
      rw [excessDigits]
      split
      · rename_i hsmall
        exact Or.inl ⟨rfl, hsmall⟩
      · rename_i hlarge
        right
        rw [pow_succ', ← Nat.div_div_eq_div_mul]
        rcases ih (coefficient / 10) (by omega) with ⟨hzero, _⟩ | hkeep
        · rw [hzero, pow_zero, Nat.div_one]
          simp only [precision] at hlarge ⊢
          omega
        · exact hkeep

def sign (d : Decimal) : ℚ :=
  if d.negative then -1 else 1

theorem value_eq_sign (d : Decimal) :
    d.value = d.sign * (d.coefficient * (10 : ℚ) ^ d.exponent) := by
  unfold value significand sign
  split <;> push_cast <;> ring

theorem abs_sign (d : Decimal) : |d.sign| = 1 := by
  unfold sign
  split <;> simp

/-- A decimal within the precision is its own rounding. -/
theorem round_eq_self (h : d.coefficient < 10 ^ precision) : round d = d := by
  have hzero : excessDigits d.coefficient d.coefficient = 0 := by
    rcases excessDigits_spec d.coefficient d.coefficient le_rfl with ⟨hz, _⟩ | hkeep
    · exact hz
    · by_contra hne
      have hpos : 10 ^ 1 ≤ 10 ^ excessDigits d.coefficient d.coefficient :=
        Nat.pow_le_pow_right (by decide) (by omega)
      have hdiv := Nat.mul_le_of_le_div _ _ _ hkeep
      have hmul : 10 ^ (precision - 1) * 10 ^ 1 ≤ d.coefficient :=
        (Nat.mul_le_mul_left _ hpos).trans hdiv
      have hexact : 10 ^ (precision - 1) * 10 ^ 1 = 10 ^ precision := by decide
      omega
  simp [round, hzero]

/-- Rounding shifts the coefficient and keeps the sign. -/
theorem value_round (d : Decimal) :
    round d = d ∨ ∃ places, 10 ^ (precision - 1) ≤ d.coefficient / 10 ^ places ∧
      (round d).value = d.sign *
        (shiftHalfEven d.coefficient places * 10 ^ places * (10 : ℚ) ^ d.exponent) := by
  rcases excessDigits_spec d.coefficient d.coefficient le_rfl with ⟨_, hsmall⟩ | hkeep
  · exact Or.inl (round_eq_self hsmall)
  · right
    refine ⟨excessDigits d.coefficient d.coefficient, hkeep, ?_⟩
    unfold round
    generalize excessDigits d.coefficient d.coefficient = places at *
    have hten : (10 : ℚ) ≠ 0 := by norm_num
    by_cases hzero : places = 0
    · subst hzero
      simp only [↓reduceIte, pow_zero, mul_one]
      have hshift : shiftHalfEven d.coefficient 0 = d.coefficient := by
        simp [shiftHalfEven, Nat.mod_one]
      rw [hshift, value_eq_sign]
    · simp only [hzero, ↓reduceIte]
      split
      · rename_i hcarry
        rw [value_eq_sign]
        simp only [sign, hcarry]
        rw [zpow_add₀ hten, zpow_add₀ hten, zpow_natCast, zpow_one]
        have hpow : ((10 ^ precision / 10 : Nat) : ℚ) * 10 = (10 ^ precision : Nat) := by
          exact_mod_cast (by decide : 10 ^ precision / 10 * 10 = 10 ^ precision)
        rw [← hpow]
        ring
      · rw [value_eq_sign]
        simp only [sign]
        rw [zpow_add₀ hten, zpow_natCast]
        ring

/-- Rounding moves a value by at most half a unit in its last digit, relative to the result. -/
theorem abs_value_round_sub_le (d : Decimal) :
    |(round d).value - d.value| ≤ 5 / 10 ^ 28 * |(round d).value| := by
  rcases value_round d with hself | ⟨places, hkeep, hvalue⟩
  · rw [hself, sub_self, abs_zero]
    positivity
  · have hscale : (0 : ℚ) < (10 : ℚ) ^ d.exponent := zpow_pos (by norm_num) _
    have hpow : (0 : ℚ) < (10 : ℚ) ^ places := by positivity
    have hshift : (10 : ℚ) ^ 27 ≤ shiftHalfEven d.coefficient places := by
      have hle : d.coefficient / 10 ^ places ≤ shiftHalfEven d.coefficient places := by
        unfold shiftHalfEven
        dsimp only
        split <;> omega
      exact_mod_cast hkeep.trans hle
    have hdiff : (round d).value - d.value = d.sign *
        ((shiftHalfEven d.coefficient places * 10 ^ places - d.coefficient) *
          (10 : ℚ) ^ d.exponent) := by
      rw [hvalue, value_eq_sign d]
      ring
    have hmagnitude : |(round d).value| =
        shiftHalfEven d.coefficient places * 10 ^ places * (10 : ℚ) ^ d.exponent := by
      rw [hvalue, abs_mul, abs_sign, one_mul, abs_of_nonneg (by positivity)]
    rw [hdiff, abs_mul, abs_sign, one_mul, abs_mul, abs_of_pos hscale, hmagnitude]
    have hhalf := abs_shiftHalfEven_sub_le d.coefficient places
    have hunit : (10 : ℚ) ^ places / 2 ≤
        5 / 10 ^ 28 * (shiftHalfEven d.coefficient places * 10 ^ places) := by
      nlinarith [mul_le_mul_of_nonneg_right hshift hpow.le]
    calc |(shiftHalfEven d.coefficient places : ℚ) * 10 ^ places - d.coefficient| *
          (10 : ℚ) ^ d.exponent
        ≤ 10 ^ places / 2 * (10 : ℚ) ^ d.exponent := by gcongr
      _ ≤ 5 / 10 ^ 28 * (shiftHalfEven d.coefficient places * 10 ^ places) *
          (10 : ℚ) ^ d.exponent := by gcongr
      _ = _ := by ring

/-- Rounding keeps the sign of a value. -/
theorem value_round_nonneg : 0 ≤ (round d).value ↔ 0 ≤ d.value := by
  have hclose := abs_value_round_sub_le d
  constructor
  · intro h
    rw [abs_of_nonneg h, abs_le] at hclose
    linarith
  · intro h
    by_contra hneg
    push Not at hneg
    rw [abs_of_neg hneg, abs_le] at hclose
    linarith

/-! ### The value of a rounding -/

/-- Enough fuel counts the same digits. -/
theorem excessDigits_fuel {fuel coefficient : Nat} (hfuel : coefficient ≤ fuel) :
    excessDigits fuel coefficient = excessDigits coefficient coefficient := by
  induction fuel using Nat.strong_induction_on generalizing coefficient with
  | _ fuel ih =>
      cases fuel with
      | zero => rw [Nat.le_zero.mp hfuel]
      | succ fuel =>
          cases coefficient with
          | zero => rw [excessDigits, excessDigits, if_pos (Nat.pow_pos (by decide))]
          | succ coefficient =>
              rw [excessDigits, excessDigits]
              split
              · rfl
              · rw [ih fuel (by omega) (by omega), ih coefficient (by omega) (by omega)]

/-- A digit zero at the end of a coefficient is one digit more. -/
theorem excessDigits_trailing {coefficient : Nat} (h : 10 ^ precision ≤ coefficient * 10) :
    excessDigits (coefficient * 10) (coefficient * 10) =
      excessDigits coefficient coefficient + 1 := by
  have hpos : 0 < 10 ^ precision := Nat.pow_pos (by decide)
  obtain ⟨fuel, hfuel⟩ : ∃ fuel, coefficient * 10 = fuel + 1 :=
    ⟨coefficient * 10 - 1, by omega⟩
  have hdiv : (fuel + 1) / 10 = coefficient := by omega
  rw [hfuel, excessDigits, if_neg (by omega), hdiv, excessDigits_fuel (by omega)]

/-- A digit zero at the end of a coefficient does not change its rounding. -/
theorem shiftHalfEven_trailing (coefficient places : Nat) :
    shiftHalfEven (coefficient * 10) (places + 1) = shiftHalfEven coefficient places := by
  have hquotient : coefficient * 10 / 10 ^ (places + 1) = coefficient / 10 ^ places := by
    rw [pow_succ, Nat.mul_div_mul_right _ _ (by decide)]
  have hremainder : coefficient * 10 % 10 ^ (places + 1) = coefficient % 10 ^ places * 10 := by
    rw [pow_succ, Nat.mul_mod_mul_right]
  have hpow : 10 ^ (places + 1) = 10 ^ places * 10 := pow_succ 10 places
  unfold shiftHalfEven
  rw [hquotient, hremainder, hpow]
  generalize coefficient / 10 ^ places = quotient
  generalize coefficient % 10 ^ places = remainder
  generalize 10 ^ places = unit
  dsimp only
  split <;> split <;> omega

/-- A digit zero at the end of a coefficient does not change the value of the rounding. -/
theorem value_round_trailing (negative : Bool) (coefficient : Nat) (exponent : Int) :
    (round ⟨negative, coefficient * 10, exponent - 1⟩).value =
      (round ⟨negative, coefficient, exponent⟩).value := by
  have hten : (10 : ℚ) ≠ 0 := by norm_num
  by_cases hlarge : 10 ^ precision ≤ coefficient * 10
  case neg =>
    rw [round_eq_self (show coefficient * 10 < _ by omega),
      round_eq_self (show coefficient < _ by omega), value_eq_sign, value_eq_sign]
    simp only [sign]
    rw [zpow_sub₀ hten, zpow_one]
    push_cast
    ring
  have hplaces := excessDigits_trailing hlarge
  have hshift := shiftHalfEven_trailing coefficient (excessDigits coefficient coefficient)
  have hexponent : exponent - 1 + ((excessDigits coefficient coefficient + 1 : Nat) : Int) =
      exponent + (excessDigits coefficient coefficient : Nat) := by
    push_cast
    ring
  by_cases hzero : excessDigits coefficient coefficient = 0
  · -- the coefficient itself has no digit to spare, and the zero is cut off again
    have hself : shiftHalfEven coefficient 0 = coefficient := by
      simp [shiftHalfEven, Nat.mod_one]
    have hsmall : coefficient < 10 ^ precision := by
      rcases excessDigits_spec coefficient coefficient le_rfl with ⟨_, hsmall⟩ | hkeep
      · exact hsmall
      · by_contra hover
        have : excessDigits coefficient coefficient ≠ 0 := by
          have hpow := Nat.pow_pos (n := precision) (show 0 < 10 by decide)
          obtain ⟨fuel, rfl⟩ : ∃ fuel, coefficient = fuel + 1 := ⟨coefficient - 1, by omega⟩
          rw [excessDigits, if_neg hover]
          omega
        exact this hzero
    rw [hzero, hself] at hshift
    rw [hzero] at hexponent
    have hself' : round ⟨negative, coefficient, exponent⟩ = ⟨negative, coefficient, exponent⟩ :=
      round_eq_self hsmall
    have hcarry : coefficient ≠ 10 ^ precision := by omega
    rw [hself', round]
    simp only [hplaces, hzero, hshift, hcarry, hexponent, zero_add, Nat.one_ne_zero, if_false,
      Nat.cast_zero, add_zero]
  · simp only [round, hplaces, hshift, hexponent, hzero, Nat.succ_ne_zero, if_false]

/-- Any number of zeros at the end of a coefficient does not change the value of the rounding. -/
theorem value_round_zeros (negative : Bool) (coefficient zeros : Nat) (exponent : Int) :
    (round ⟨negative, coefficient * 10 ^ zeros, exponent - zeros⟩).value =
      (round ⟨negative, coefficient, exponent⟩).value := by
  induction zeros with
  | zero => simp
  | succ zeros ih =>
      rw [← ih, ← value_round_trailing negative (coefficient * 10 ^ zeros) (exponent - zeros)]
      congr 3
      · rw [pow_succ]
        ring
      · push_cast
        ring

/-- Equal values with the lower exponent on the right have equal roundings. -/
theorem value_round_congr_of_le (h : a.value = b.value) (hexponent : b.exponent ≤ a.exponent) :
    (round a).value = (round b).value := by
  obtain ⟨zeros, hzeros⟩ : ∃ zeros : Nat, b.exponent = a.exponent - zeros :=
    ⟨(a.exponent - b.exponent).toNat, by omega⟩
  have hten : (0 : ℚ) < (10 : ℚ) ^ b.exponent := zpow_pos (by norm_num) _
  have hscale : (10 : ℚ) ^ a.exponent = 10 ^ zeros * (10 : ℚ) ^ b.exponent := by
    rw [← zpow_natCast, ← zpow_add₀ (by norm_num)]
    congr 1
    omega
  have hsigned : a.sign * (a.coefficient * 10 ^ zeros) = b.sign * b.coefficient := by
    rw [value_eq_sign, value_eq_sign, hscale] at h
    have := mul_right_cancel₀ hten.ne' (show a.sign * (a.coefficient * 10 ^ zeros) *
      (10 : ℚ) ^ b.exponent = b.sign * b.coefficient * (10 : ℚ) ^ b.exponent by linarith)
    exact this
  have hmagnitude : a.coefficient * 10 ^ zeros = b.coefficient := by
    have habs := congrArg (fun x : ℚ => |x|) hsigned
    simp only [abs_mul, abs_sign, one_mul, Nat.abs_cast, abs_pow, Nat.abs_ofNat] at habs
    exact_mod_cast habs
  by_cases hzero : b.coefficient = 0
  · have hazero : a.coefficient = 0 := by
      rw [hzero] at hmagnitude
      exact (Nat.mul_eq_zero.mp hmagnitude).resolve_right (by positivity)
    have hpos : 0 < 10 ^ precision := Nat.pow_pos (by decide)
    rw [round_eq_self (by omega), round_eq_self (by omega), h]
  · have hnegative : a.negative = b.negative := by
      have hpos : (0 : ℚ) < b.coefficient := by exact_mod_cast Nat.pos_of_ne_zero hzero
      rw [← hmagnitude] at hsigned hpos
      push_cast at hsigned hpos
      have hsign := mul_right_cancel₀ hpos.ne' hsigned
      unfold sign at hsign
      cases ha : a.negative <;> cases hb : b.negative <;> simp_all <;> norm_num at hsign
    obtain ⟨negative, coefficient, exponent⟩ := a
    obtain ⟨negative', coefficient', exponent'⟩ := b
    simp only at hnegative hmagnitude hzeros
    subst hnegative hmagnitude hzeros
    exact (value_round_zeros negative coefficient zeros exponent).symm

theorem value_round_congr (h : a.value = b.value) : (round a).value = (round b).value := by
  rcases le_total b.exponent a.exponent with hle | hle
  · exact value_round_congr_of_le h hle
  · exact (value_round_congr_of_le h.symm hle).symm

/-- A decimal has no more digits than the context keeps. -/
def Fits (d : Decimal) : Prop :=
  d.coefficient < 10 ^ precision

theorem value_round_of_fits (h : a.value = d.value) (hfits : d.Fits) :
    (round a).value = d.value := by
  rw [value_round_congr h, round_eq_self hfits]

/-- A digit more cuts the coefficient to the precision. -/
theorem div_excessDigits_lt (fuel coefficient : Nat) (hfuel : coefficient ≤ fuel) :
    coefficient / 10 ^ excessDigits fuel coefficient < 10 ^ precision := by
  induction fuel generalizing coefficient with
  | zero =>
      rw [Nat.le_zero.mp hfuel, Nat.zero_div]
      exact Nat.pow_pos (by decide)
  | succ fuel ih =>
      rw [excessDigits]
      split
      · simpa using ‹_›
      · rw [pow_succ', ← Nat.div_div_eq_div_mul]
        exact ih _ (by omega)

theorem fits_round (d : Decimal) : (round d).Fits := by
  have hlt := div_excessDigits_lt d.coefficient d.coefficient le_rfl
  have hpos : 0 < 10 ^ precision := Nat.pow_pos (by decide)
  unfold round Fits
  by_cases hzero : excessDigits d.coefficient d.coefficient = 0
  · simpa [hzero] using hlt
  · simp only [hzero, if_false]
    have hshift : shiftHalfEven d.coefficient (excessDigits d.coefficient d.coefficient) ≤
        d.coefficient / 10 ^ excessDigits d.coefficient d.coefficient + 1 := by
      unfold shiftHalfEven
      dsimp only
      split <;> omega
    split
    · rename_i hcarry
      simp only [hcarry]
      omega
    · simp only
      omega

/-! ## Arithmetic -/

/-- The decimal for an integer over a power of ten. -/
def ofScaled (significand exponent : Int) (zeroNegative : Bool) : Decimal :=
  ⟨if significand = 0 then zeroNegative else decide (significand < 0), significand.natAbs,
    exponent⟩

def ofInt (n : Int) : Decimal :=
  ofScaled n 0 false

/-- The negation of a decimal, without rounding. -/
def neg (d : Decimal) : Decimal :=
  { d with negative := !d.negative }

/-- The absolute value, rounded to the context. -/
def abs (d : Decimal) : Decimal :=
  round { d with negative := false }

/-- The sum, rounded to the context. -/
def add (a b : Decimal) : Decimal :=
  let exponent := commonExponent a b
  round (ofScaled (a.scaled exponent + b.scaled exponent) exponent (a.negative && b.negative))

/-- The sum, without rounding. -/
def exactAdd (a b : Decimal) : Decimal :=
  let exponent := commonExponent a b
  ofScaled (a.scaled exponent + b.scaled exponent) exponent (a.negative && b.negative)

/-- The difference, rounded to the context. -/
def sub (a b : Decimal) : Decimal :=
  add a b.neg

/-- The product, rounded to the context. -/
def mul (a b : Decimal) : Decimal :=
  round ⟨a.negative != b.negative, a.coefficient * b.coefficient, a.exponent + b.exponent⟩

instance : Add Decimal := ⟨add⟩

instance : Mul Decimal := ⟨mul⟩

instance : Sub Decimal := ⟨sub⟩

def isIntegral (d : Decimal) : Bool :=
  decide (d.scaled (min d.exponent 0) % 10 ^ (-(min d.exponent 0)).toNat = 0)

/-- A decimal is an integer exactly when its value is one. -/
theorem isIntegral_iff : d.isIntegral = true ↔ ∃ n : Int, d.value = n := by
  obtain ⟨places, hplaces⟩ : ∃ places : Nat, min d.exponent 0 = -places :=
    ⟨(-(min d.exponent 0)).toNat, by omega⟩
  have hvalue := value_eq_scaled d (min_le_left d.exponent 0)
  have hpow : (10 : ℚ) ^ places ≠ 0 := by positivity
  rw [isIntegral, decide_eq_true_iff, ← Int.dvd_iff_emod_eq_zero]
  rw [hplaces] at hvalue ⊢
  rw [hvalue, zpow_neg, zpow_natCast, neg_neg, Int.toNat_natCast]
  constructor
  · rintro ⟨n, hn⟩
    refine ⟨n, ?_⟩
    rw [hn]
    push_cast
    rw [mul_comm, inv_mul_cancel_left₀ hpow]
  · rintro ⟨n, hn⟩
    refine ⟨n, ?_⟩
    rw [mul_inv_eq_iff_eq_mul₀ hpow, mul_comm] at hn
    exact_mod_cast hn

theorem isIntegral_congr (h : a.value = b.value) : a.isIntegral = b.isIntegral := by
  rw [Bool.eq_iff_iff, isIntegral_iff, isIntegral_iff, h]

/-- The decimal rounded half to even to an exponent, when the result fits the precision. -/
def quantize (d : Decimal) (exponent : Int) : Option Decimal :=
  let coefficient :=
    if exponent ≤ d.exponent then d.coefficient * 10 ^ (d.exponent - exponent).toNat
    else shiftHalfEven d.coefficient (exponent - d.exponent).toNat
  if coefficient < 10 ^ precision then some { d with coefficient, exponent } else none

/-- A coefficient and its exponent without trailing zeros, by recursion on a bound. -/
def stripZeros : Nat → Nat → Int → Nat × Int
  | 0, coefficient, exponent => (coefficient, exponent)
  | fuel + 1, coefficient, exponent =>
      if coefficient % 10 = 0 then stripZeros fuel (coefficient / 10) (exponent + 1)
      else (coefficient, exponent)

/-- The decimal rounded to the context and without trailing zeros. -/
def normalize (d : Decimal) : Decimal :=
  let rounded := round d
  if rounded.coefficient = 0 then ⟨rounded.negative, 0, 0⟩
  else
    let (coefficient, exponent) :=
      stripZeros rounded.coefficient rounded.coefficient rounded.exponent
    ⟨rounded.negative, coefficient, exponent⟩

/-- The value of an integer over a power of ten. -/
theorem value_ofScaled (significand exponent : Int) (zeroNegative : Bool) :
    (ofScaled significand exponent zeroNegative).value = significand * (10 : ℚ) ^ exponent := by
  have hsig : (ofScaled significand exponent zeroNegative).significand = significand := by
    unfold ofScaled Decimal.significand
    by_cases hzero : significand = 0
    · simp [hzero]
    · by_cases hneg : significand < 0
      · simp only [hzero, hneg, ↓reduceIte, decide_true]
        omega
      · simp only [hzero, hneg, ↓reduceIte, decide_false, Bool.false_eq_true]
        omega
  rw [value, hsig]
  rfl

@[simp] theorem value_ofInt (n : Int) : (ofInt n).value = n := by
  simp [ofInt, value_ofScaled]

@[simp] theorem value_neg (d : Decimal) : d.neg.value = -d.value := by
  cases hnegative : d.negative <;> simp [value, neg, significand, hnegative]

theorem value_exactAdd (a b : Decimal) : (exactAdd a b).value = a.value + b.value := by
  obtain ⟨ha, hb⟩ := value_pair a b
  show (ofScaled _ (commonExponent a b) _).value = _
  rw [value_ofScaled, ha, hb]
  push_cast
  ring

theorem value_add (a b : Decimal) :
    ∃ exact : Decimal, exact.value = a.value + b.value ∧ a + b = round exact :=
  ⟨exactAdd a b, value_exactAdd a b, rfl⟩

theorem fits_add (a b : Decimal) : (a + b).Fits :=
  fits_round _

theorem value_add_congr {a' b' : Decimal} (ha : a.value = a'.value) (hb : b.value = b'.value) :
    (a + b).value = (a' + b').value := by
  obtain ⟨exact, hvalue, hround⟩ := value_add a b
  obtain ⟨exact', hvalue', hround'⟩ := value_add a' b'
  rw [hround, hround']
  exact value_round_congr (by rw [hvalue, hvalue', ha, hb])

theorem value_add_zero (h : a.value = d.value) (hfits : d.Fits) :
    (a + ofInt 0).value = a.value := by
  obtain ⟨exact, hvalue, hround⟩ := value_add a (ofInt 0)
  rw [hround, value_round_of_fits (by rw [hvalue, value_ofInt, h, Int.cast_zero, add_zero]) hfits,
    h]

theorem value_sub (a b : Decimal) :
    ∃ exact : Decimal, exact.value = a.value - b.value ∧ a - b = round exact := by
  obtain ⟨exact, hvalue, hround⟩ := value_add a b.neg
  exact ⟨exact, by rw [hvalue, value_neg, sub_eq_add_neg], hround⟩

/-- A product is the exact product, rounded once. -/
theorem value_mul (a b : Decimal) :
    ∃ exact : Decimal, exact.value = a.value * b.value ∧ a * b = round exact := by
  refine ⟨⟨a.negative != b.negative, a.coefficient * b.coefficient, a.exponent + b.exponent⟩,
    ?_, rfl⟩
  obtain ⟨left, m, i⟩ := a
  obtain ⟨right, n, j⟩ := b
  simp only [value, significand, zpow_add₀ (show (10 : ℚ) ≠ 0 by norm_num)]
  cases left <;> cases right <;> push_cast <;> simp <;> ring

/-- A number with few enough digits is the value of a decimal that fits. -/
theorem exists_fits {x : ℚ} {whole places : Nat} (hplaces : (x * 10 ^ places).den = 1)
    (hwhole : |x| < 10 ^ whole) (hdigits : whole + places ≤ precision) :
    ∃ d : Decimal, d.value = x ∧ d.Fits := by
  have hnum : ((x * 10 ^ places).num : ℚ) = x * 10 ^ places := by
    conv_rhs => rw [← Rat.num_div_den (x * 10 ^ places), hplaces, Nat.cast_one, div_one]
  refine ⟨ofScaled (x * 10 ^ places).num (-(places : Int)) false, ?_, ?_⟩
  · rw [value_ofScaled, hnum, zpow_neg, zpow_natCast, mul_assoc,
      mul_inv_cancel₀ (pow_ne_zero _ (by norm_num)), mul_one]
  · have habs : |((x * 10 ^ places).num : ℚ)| < 10 ^ (whole + places) := by
      rw [hnum, abs_mul, abs_of_pos (show (0 : ℚ) < 10 ^ places by positivity), pow_add]
      exact mul_lt_mul_of_pos_right hwhole (by positivity)
    have hcast : (((x * 10 ^ places).num.natAbs : Nat) : ℚ) < ((10 ^ (whole + places) : Nat) :
      ℚ) := by
      rw [Nat.cast_natAbs, Int.cast_abs, Nat.cast_pow, Nat.cast_ofNat]
      exact habs
    exact lt_of_lt_of_le (Nat.cast_lt.mp hcast) (Nat.pow_le_pow_right (by omega) hdigits)

end Decimal

end Foundation
