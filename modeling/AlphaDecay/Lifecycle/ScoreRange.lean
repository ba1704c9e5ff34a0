import AlphaDecay.Foundation.DecimalMonotone
import AlphaDecay.Foundation.NearestEven
import AlphaDecay.Lifecycle.Assessment
import AlphaDecay.Policy.LegOrder

/-!
# The range of a drift score

Every component of a drift score is a number from zero to one hundred, in the rounded arithmetic of
the program: each is clamped, or the sum of such numbers with weights that add up to one. The score
that is shown is the nearest integer, so an assessment always has an answer to show it in:
`scoreDrift_percentages`.
-/

namespace AlphaDecay.Lifecycle

open Foundation Decimal
open Policy (divide divide_isSome)

/-! ## The nearest integer -/

/-- A shifted coefficient is the nearest integer, the even one of two. -/
theorem shiftHalfEven_nearest (coefficient places : Nat) :
    NearestEven ((coefficient : ℚ) / 10 ^ places) (shiftHalfEven coefficient places : Nat) := by
  have hpower : (0 : ℚ) < 10 ^ places := by positivity
  have hdistance : (coefficient : ℚ) / 10 ^ places -
      ((shiftHalfEven coefficient places : Nat) : Int) =
        -((shiftHalfEven coefficient places : ℚ) * 10 ^ places - coefficient) / 10 ^ places := by
    field_simp
    push_cast
    ring
  refine ⟨?_, fun hhalf => ?_⟩
  · have hclose := abs_shiftHalfEven_sub_le coefficient places
    rw [hdistance, abs_div, abs_neg, abs_of_pos hpower, div_le_iff₀ hpower]
    linarith
  · obtain ⟨hbelow, habove⟩ := abs_shiftHalfEven_sub_le_sides coefficient places
    rw [hdistance, abs_div, abs_neg, abs_of_pos hpower, div_eq_iff hpower.ne'] at hhalf
    have htie : 2 * (coefficient % 10 ^ places) = 10 ^ places := by
      have hcast : 2 * ((coefficient % 10 ^ places : Nat) : ℚ) = 10 ^ places := by linarith
      exact_mod_cast hcast
    -- a coefficient halfway between two multiples goes to the even one
    unfold shiftHalfEven
    dsimp only
    by_cases hodd : coefficient / 10 ^ places % 2 = 1
    · rw [if_pos (Or.inr ⟨htie, hodd⟩)]
      exact_mod_cast Nat.even_iff.mpr (by omega)
    · rw [if_neg (by omega)]
      exact_mod_cast Nat.even_iff.mpr (by omega)

/-- The integer of a magnitude is the nearest one. -/
theorem roundToInt_nearest (d : Decimal) : NearestEven d.value (roundToInt d) := by
  have hmagnitude : NearestEven d.magnitude
      ((if 0 ≤ d.exponent then d.coefficient * 10 ^ d.exponent.toNat
        else shiftHalfEven d.coefficient (-d.exponent).toNat : Nat) : Int) := by
    by_cases hwhole : 0 ≤ d.exponent
    · have hvalue : d.magnitude = ((d.coefficient * 10 ^ d.exponent.toNat : Nat) : Int) := by
        have hpower : (10 : ℚ) ^ d.exponent = 10 ^ d.exponent.toNat := by
          rw [← zpow_natCast, Int.toNat_of_nonneg hwhole]
        rw [magnitude, hpower]
        push_cast
        ring
      rw [if_pos hwhole, hvalue]
      exact nearestEven_intCast _
    · have hvalue : d.magnitude = (d.coefficient : ℚ) / 10 ^ (-d.exponent).toNat := by
        have hpower : (10 : ℚ) ^ d.exponent = ((10 : ℚ) ^ (-d.exponent).toNat)⁻¹ := by
          rw [← zpow_natCast, ← zpow_neg, Int.toNat_of_nonneg (by omega), neg_neg]
        rw [magnitude, hpower, div_eq_mul_inv]
      rw [if_neg hwhole, hvalue]
      exact shiftHalfEven_nearest _ _
  unfold roundToInt
  dsimp only
  cases hsign : d.negative with
  | false =>
      rw [if_neg (by simp), value_of_positive hsign]
      exact hmagnitude
  | true =>
      rw [if_pos rfl, value_of_negative hsign]
      exact hmagnitude.neg

variable {b a : Decimal}

theorem roundToInt_mono (h : a.value ≤ b.value) : roundToInt a ≤ roundToInt b :=
  (roundToInt_nearest a).mono (roundToInt_nearest b) h

/-! ## Numbers up to a bound -/

/-- A decimal that is not negative and not above a bound. -/
structure Within (bound : Nat) (d : Decimal) : Prop where
  nonneg : 0 ≤ d.value
  le : d.value ≤ bound

theorem value_greater (a b : Decimal) : (greater a b).value = max a.value b.value := by
  unfold greater
  split
  · rename_i hlt
    exact (max_eq_right (lt_iff_value.mp hlt).le).symm
  · rename_i hnot
    exact (max_eq_left (not_lt.mp (mt lt_iff_value.mpr hnot))).symm

theorem value_lesser (a b : Decimal) : (lesser a b).value = min a.value b.value := by
  unfold lesser
  split
  · rename_i hlt
    exact (min_eq_right (lt_iff_value.mp hlt).le).symm
  · rename_i hnot
    exact (min_eq_left (not_lt.mp (mt lt_iff_value.mpr hnot))).symm

theorem value_clamp (d : Decimal) : (clamp d).value = min 100 (max 0 d.value) := by
  rw [clamp, value_lesser, value_greater, zero, hundred, value_ofInt, value_ofInt]
  norm_num

/-- A clamped value is from zero to one hundred. -/
theorem within_clamp (d : Decimal) : Within 100 (clamp d) where
  nonneg := by
    rw [value_clamp]
    exact le_min (by norm_num) (le_max_left _ _)
  le := by
    rw [value_clamp]
    exact_mod_cast min_le_left _ _

theorem clamp_mono (h : a.value ≤ b.value) : (clamp a).value ≤ (clamp b).value := by
  rw [value_clamp, value_clamp]
  exact min_le_min_left _ (max_le_max_left _ h)

/-- The larger of two numbers up to a bound. -/
theorem Within.greater {bound : Nat} (ha : Within bound a) (hb : Within bound b) :
    Within bound (greater a b) where
  nonneg := by
    rw [value_greater]
    exact ha.nonneg.trans (le_max_left _ _)
  le := by
    rw [value_greater]
    exact max_le ha.le hb.le

theorem exists_fits_nat {n : Nat} (h : n < 10 ^ precision) :
    ∃ d : Decimal, d.Fits ∧ d.value = n :=
  ⟨⟨false, n, 0⟩, h, by rw [value_of_positive rfl]; simp [magnitude]⟩

theorem within_round {bound : Nat} (hbound : bound < 10 ^ precision) {exact : Decimal}
    (hnonneg : 0 ≤ exact.value) (hle : exact.value ≤ bound) : Within bound (round exact) := by
  obtain ⟨d, hfits, hvalue⟩ := exists_fits_nat hbound
  rw [← hvalue] at hle
  exact ⟨value_round_nonneg.mpr hnonneg, hvalue ▸ value_round_le hfits hle⟩

variable {d : Decimal} {values : ScoreInput}

/-- A part of a number up to one hundred, weighed in hundredths. -/
theorem Within.weigh {weight : Nat} (hweight : weight < 10 ^ precision) (h : Within 100 d) :
    Within weight ((⟨false, weight, -2⟩ : Decimal) * d) := by
  have hvalue : (⟨false, weight, -2⟩ : Decimal).value = weight / 100 := by
    rw [value_of_positive rfl, magnitude]
    norm_num [div_eq_mul_inv]
  obtain ⟨exact, hexact, hround⟩ := Decimal.value_mul ⟨false, weight, -2⟩ d
  rw [hvalue] at hexact
  have hpart : (0 : ℚ) ≤ weight / 100 := by positivity
  have hle : (d.value : ℚ) ≤ 100 := by exact_mod_cast h.le
  rw [hround]
  refine within_round hweight ?_ ?_
  · rw [hexact]
    exact mul_nonneg hpart h.nonneg
  · rw [hexact]
    calc (weight : ℚ) / 100 * d.value ≤ weight / 100 * 100 := by gcongr
      _ = weight := by ring

/-- The sum of two numbers up to bounds. -/
theorem Within.add {m n : Nat} (hbound : m + n < 10 ^ precision) (ha : Within m a)
    (hb : Within n b) : Within (m + n) (a + b) := by
  obtain ⟨exact, hexact, hround⟩ := Decimal.value_add a b
  rw [hround]
  refine within_round hbound ?_ ?_
  · rw [hexact]
    exact add_nonneg ha.nonneg hb.nonneg
  · rw [hexact]
    push_cast
    exact add_le_add ha.le hb.le

/-! ## The components of a score -/

/-- How far a value lies outside a band is a number up to one hundred. -/
theorem bandDeviation_within {value low high tolerance : Decimal}
    (h : bandDeviation value low high tolerance = .ok d) : Within 100 d := by
  obtain ⟨-, h⟩ := check_bind_ok.mp h
  split at h
  · cases h
    exact ⟨by simp [zero], by simp [zero]⟩
  · obtain ⟨deviation, -, h⟩ := bind_ok.mp h
    cases h
    exact within_clamp deviation

/-- The mismatch of the exposure is a number up to one hundred. -/
theorem exposureMismatch_within {vegaMismatch : Decimal} (hvega : Within 100 vegaMismatch)
    (h : exposureMismatch values vegaMismatch = .ok d) : Within 100 d := by
  obtain ⟨deltaMismatch, hdelta, h⟩ := bind_ok.mp h
  obtain ⟨thetaRatio, -, h⟩ := bind_ok.mp h
  obtain ⟨dteMismatch, hdte, h⟩ := bind_ok.mp h
  cases h
  have hfirst := Within.weigh (show 40 < 10 ^ precision by decide) (bandDeviation_within hdelta)
  have hsecond := Within.weigh (show 25 < 10 ^ precision by decide) hvega
  have hthird := Within.weigh (show 20 < 10 ^ precision by decide) (within_clamp thetaRatio)
  have hfourth := Within.weigh (show 15 < 10 ^ precision by decide) (bandDeviation_within hdte)
  exact ((hfirst.add (by decide) hsecond).add (by decide) hthird).add (by decide) hfourth

theorem timePressure_within (h : timePressure values = .ok d) : Within 100 d := by
  obtain ⟨expiry, -, h⟩ := bind_ok.mp h
  cases h
  exact (within_clamp _).greater (within_clamp _)

/-- The mismatch of volatility is a number up to one hundred. -/
theorem volatilityMismatch_within {vegaMismatch : Decimal} (hvega : Within 100 vegaMismatch)
    (h : volatilityMismatch values vegaMismatch = .ok d) : Within 100 d := by
  obtain ⟨change, -, h⟩ := bind_ok.mp h
  cases hview : values.volatilityView with
  | long =>
      rw [hview] at h
      obtain ⟨ratio, -, h⟩ := bind_ok.mp h
      cases h
      exact within_clamp _
  | short =>
      rw [hview] at h
      obtain ⟨ratio, -, h⟩ := bind_ok.mp h
      cases h
      exact within_clamp _
  | neutral =>
      rw [hview] at h
      cases h
      exact hvega

/-- The use of the approved loss is a number up to one hundred. -/
theorem riskUtilization_within (h : riskUtilization values = .ok d) : Within 100 d := by
  obtain ⟨fraction, -, h⟩ := bind_ok.mp h
  obtain ⟨ratio, -, h⟩ := bind_ok.mp h
  cases h
  exact within_clamp _

/-- Every part of a score is from zero to one hundred. -/
structure ScoreResult.Percentages (result : ScoreResult) : Prop where
  evidenceDrift : Within 100 result.evidenceDrift
  exposureMismatch : Within 100 result.exposureMismatch
  timePressure : Within 100 result.timePressure
  volatilityMismatch : Within 100 result.volatilityMismatch
  riskUtilization : Within 100 result.riskUtilization
  unroundedScore : Within 100 result.unroundedScore
  displayScore : 0 ≤ result.displayScore ∧ result.displayScore ≤ 100

/-- The integer nearest to a number up to a bound is up to it. -/
theorem Within.roundToInt {bound : Nat} (h : Within bound d) :
    0 ≤ roundToInt d ∧ roundToInt d ≤ bound := by
  have hzero : NearestEven (0 : ℚ) 0 := by simpa using nearestEven_intCast (K := ℚ) 0
  have hbound : NearestEven (bound : ℚ) (bound : Int) := by
    simpa using nearestEven_intCast (K := ℚ) (bound : Int)
  exact ⟨hzero.mono (roundToInt_nearest d) h.nonneg, (roundToInt_nearest d).mono hbound h.le⟩

structure Scored (values : ScoreInput) (vega : Decimal) (result : ScoreResult) : Prop where
  inRange : values.inRange = true
  vegaMismatch : bandDeviation values.vega values.vegaLow values.vegaHigh
    (greater (.ofInt 1) (values.vegaHigh - values.vegaLow)) = .ok vega
  exposure : exposureMismatch values vega = .ok result.exposureMismatch
  time : timePressure values = .ok result.timePressure
  volatility : volatilityMismatch values vega = .ok result.volatilityMismatch
  risk : riskUtilization values = .ok result.riskUtilization
  evidence : result.evidenceDrift = clamp values.evidenceDrift
  unrounded : result.unroundedScore = (⟨false, 35, -2⟩ : Decimal) * clamp values.evidenceDrift +
    (⟨false, 25, -2⟩ : Decimal) * result.exposureMismatch +
    (⟨false, 15, -2⟩ : Decimal) * result.timePressure +
    (⟨false, 10, -2⟩ : Decimal) * result.volatilityMismatch +
    (⟨false, 15, -2⟩ : Decimal) * result.riskUtilization
  display : result.displayScore = roundToInt result.unroundedScore

/-- A score is made of its components. -/
theorem scoreDrift_scored {result : ScoreResult} (h : scoreDrift values = .ok result) :
    ∃ vega, Scored values vega result := by
  obtain ⟨hrange, h⟩ := check_bind_ok.mp h
  obtain ⟨vega, hvega, h⟩ := bind_ok.mp h
  refine ⟨vega, ?_⟩
  obtain ⟨exposure, hexposure, h⟩ := bind_ok.mp h
  obtain ⟨time, htime, h⟩ := bind_ok.mp h
  obtain ⟨volatility, hvolatility, h⟩ := bind_ok.mp h
  obtain ⟨risk, hrisk, h⟩ := bind_ok.mp h
  have hresult := Except.ok.inj h
  rw [raiseIf_ok, Bool.not_eq_false'] at hrange
  subst hresult
  exact {
    inRange := hrange
    vegaMismatch := hvega
    exposure := hexposure
    time := htime
    volatility := hvolatility
    risk := hrisk
    evidence := rfl
    unrounded := by dsimp only
    display := by dsimp only }

/-- Every part of a score that is made of its components is from zero to one hundred. -/
theorem Scored.percentages {vega : Decimal} {result : ScoreResult} (h : Scored values vega result) :
    result.Percentages := by
  have hvega := bandDeviation_within h.vegaMismatch
  have hexposure := exposureMismatch_within hvega h.exposure
  have htime := timePressure_within h.time
  have hvolatility := volatilityMismatch_within hvega h.volatility
  have hrisk := riskUtilization_within h.risk
  have hevidence := within_clamp values.evidenceDrift
  have hunrounded : Within 100 result.unroundedScore := by
    rw [h.unrounded]
    have hfirst := Within.weigh (show 35 < 10 ^ precision by decide) hevidence
    have hsecond := Within.weigh (show 25 < 10 ^ precision by decide) hexposure
    have hthird := Within.weigh (show 15 < 10 ^ precision by decide) htime
    have hfourth := Within.weigh (show 10 < 10 ^ precision by decide) hvolatility
    have hfifth := Within.weigh (show 15 < 10 ^ precision by decide) hrisk
    exact (((hfirst.add (by decide) hsecond).add (by decide) hthird).add (by decide) hfourth).add
      (by decide) hfifth
  refine ⟨h.evidence ▸ hevidence, hexposure, htime, hvolatility, hrisk, hunrounded, ?_⟩
  rw [h.display]
  exact hunrounded.roundToInt

/-! ## The answer of an assessment -/

theorem lossFraction_isSome (h : values.inRange = true) :
    ∃ fraction, lossFraction values = .ok fraction := by
  refine divide_isSome ?_
  simp only [ScoreInput.inRange, Bool.not_eq_true', Bool.or_eq_false_iff, decide_eq_false_iff_not,
    le_iff_value] at h
  have hloss := not_le.mp h.2
  rwa [zero, value_ofInt, Int.cast_zero] at hloss

/-- Whether a close is mandatory can always be said of scores in range. -/
theorem mandatoryCloseCode_isSome (gates : HardGateInput) {scores : ScoreInput}
    (h : scores.inRange = true) : ∃ code, mandatoryCloseCode gates scores = .ok code := by
  obtain ⟨fraction, hfraction⟩ := lossFraction_isSome h
  unfold mandatoryCloseCode
  split
  · exact ⟨_, rfl⟩
  · split
    · exact ⟨_, rfl⟩
    · split
      · exact ⟨_, rfl⟩
      · exact ⟨_, bind_ok.mpr ⟨fraction, hfraction, rfl⟩⟩

theorem scoredVerdict_components (values : AssessmentInput) (components : ScoreResult) :
    (scoredVerdict values components).components = some components := by
  unfold scoredVerdict
  split
  · rfl
  · split
    · rfl
    · split <;> rfl

/-- An assessment on scores that are accepted has a verdict, and the components of a verdict are
those scores. -/
theorem exists_verdict {values : AssessmentInput}
    (h : ∀ scores ∈ values.scores, ∃ result, scoreDrift scores = .ok result) :
    ∃ result, verdict values = .ok result ∧ ∀ components ∈ result.components,
      ∃ scores ∈ values.scores, scoreDrift scores = .ok components := by
  unfold verdict
  split
  · exact ⟨_, rfl, by rintro _ ⟨⟩⟩
  · split
    · rename_i scores _ hscores
      obtain ⟨components, hcomponents⟩ := h scores hscores
      obtain ⟨vega, hscored⟩ := scoreDrift_scored hcomponents
      obtain ⟨mandatory, hmandatory⟩ := mandatoryCloseCode_isSome values.hardGates hscored.inRange
      refine ⟨_, bind_ok.mpr ⟨components, hcomponents, bind_ok.mpr ⟨mandatory, hmandatory, rfl⟩⟩,
        ?_⟩
      intro shown hshown
      refine ⟨scores, hscores, ?_⟩
      rw [hcomponents]
      congr 1
      split at hshown
      · split at hshown
        · exact Option.some.inj hshown
        · exact Option.some.inj ((scoredVerdict_components values components).symm.trans hshown)
      · exact Option.some.inj ((scoredVerdict_components values components).symm.trans hshown)
    · exact ⟨_, rfl, by rintro _ ⟨⟩⟩

/-- Every part of an accepted score is from zero to one hundred, and an assessment on it has an
answer. -/
theorem scoreDrift_percentages {scores : ScoreInput} {result : ScoreResult}
    (h : scoreDrift scores = .ok result) :
    result.Percentages ∧ ∀ values : AssessmentInput, values.scores = some scores →
      ∃ answer, evaluateAssessment values = .ok answer := by
  obtain ⟨vega, hscored⟩ := scoreDrift_scored h
  refine ⟨hscored.percentages, fun values hvalues => ?_⟩
  have haccepted : ∀ shown ∈ values.scores, ∃ result, scoreDrift shown = .ok result := by
    rw [hvalues]
    rintro _ ⟨⟩
    exact ⟨result, h⟩
  obtain ⟨decided, hdecided, hcomponents⟩ := exists_verdict haccepted
  refine ⟨_, bind_ok.mpr ⟨decided, hdecided, check_bind_ok.mpr ⟨?_, rfl⟩⟩⟩
  rw [raiseIf_ok]
  cases hcase : decided.components with
  | none => rfl
  | some components =>
      obtain ⟨scores', hscores', hcomponents'⟩ := hcomponents components hcase
      obtain ⟨vega', hscored'⟩ := scoreDrift_scored hcomponents'
      simpa using hscored'.percentages.displayScore

section Rehearsed

/-- Scores of a position with half of its time gone and a fifth of its approved loss used. -/
def halfwayScores : ScoreInput where
  evidenceDrift := .ofInt 40
  delta := .ofInt 60
  deltaLow := .ofInt 0
  deltaHigh := .ofInt 50
  vega := .ofInt 5
  vegaLow := .ofInt 0
  vegaHigh := .ofInt 10
  thetaPerDay := .ofInt (-3)
  maxDailyTheta := .ofInt 2
  dte := 12
  minimumDte := 14
  maximumDte := 60
  horizonFraction := ⟨false, 55, -2⟩
  volatilityView := .long
  entryAtmIv := ⟨false, 20, -2⟩
  currentAtmIv := ⟨false, 19, -2⟩
  liquidationPnl := .ofInt (-100)
  approvedMaxLoss := .ofInt 500

/-- In the rehearsal every part of the score is from zero to one hundred, and an assessment on it
has an answer. -/
theorem scoreDrift_percentages_rehearsed :
    ∃ result, scoreDrift halfwayScores = .ok result ∧ result.Percentages ∧
      ∀ values : AssessmentInput, values.scores = some halfwayScores →
        ∃ answer, evaluateAssessment values = .ok answer := by
  have hscored : (scoreDrift halfwayScores).toOption.isSome = true := by decide +kernel
  cases hresult : scoreDrift halfwayScores with
  | ok result => exact ⟨result, rfl, scoreDrift_percentages hresult⟩
  | error failure =>
      rw [hresult] at hscored
      cases hscored

end Rehearsed

end AlphaDecay.Lifecycle
