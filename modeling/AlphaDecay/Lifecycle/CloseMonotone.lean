import AlphaDecay.Lifecycle.ScoreRange

/-!
# Closing under growing danger

An assessment that closes a position still closes it where the loss is larger, the evidence has
drifted further or more of the time is gone. A finding that forces a close closes the position
whatever is known of the evidence, the thesis and the roll, unless the strategy gives the empty text
as its reason: that reason is returned before the findings behind it are looked at, and as an empty
text it forces nothing. `close_forced_iff` says both.
-/

namespace AlphaDecay.Lifecycle

open Foundation Decimal
open Policy (divide divide_isSome)

/-! ## Accepted scores -/

variable {scores : ScoreInput} {values : AssessmentInput}

/-- What a score is accepted for: its inputs are in range, and so are the bounds of its days. -/
def ScoreInput.Accepted (values : ScoreInput) : Prop :=
  values.inRange = true ∧ values.minimumDte ≤ values.maximumDte

theorem inRange_iff {values : ScoreInput} : values.inRange = true ↔
    0 < values.maxDailyTheta.value ∧ values.vegaLow.value ≤ values.vegaHigh.value ∧
      values.deltaLow.value ≤ values.deltaHigh.value ∧ 0 < values.entryAtmIv.value ∧
      0 < values.approvedMaxLoss.value := by
  simp only [ScoreInput.inRange, Bool.not_eq_true', Bool.or_eq_false_iff, decide_eq_false_iff_not,
    le_iff_value, lt_iff_value, zero, value_ofInt, Int.cast_zero, not_le, not_lt]
  tauto

/-- A band has a deviation exactly when it is one and its tolerance is positive. -/
theorem bandDeviation_isSome_iff {value low high tolerance : Decimal} :
    (∃ d, bandDeviation value low high tolerance = .ok d) ↔
      low.value ≤ high.value ∧ 0 < tolerance.value := by
  have hcheck : raiseIf (decide (high < low) || decide (tolerance ≤ zero))
      (Failure.value "INVALID_BAND") = .ok () ↔ low.value ≤ high.value ∧ 0 < tolerance.value := by
    simp only [raiseIf_ok, Bool.or_eq_false_iff, decide_eq_false_iff_not, lt_iff_value,
      le_iff_value, zero, value_ofInt, Int.cast_zero, not_lt, not_le]
  constructor
  · rintro ⟨d, h⟩
    exact hcheck.mp (check_bind_ok.mp h).1
  · intro hband
    have hchecked := hcheck.mpr hband
    by_cases hinside : low ≤ value ∧ value ≤ high
    · exact ⟨zero, check_bind_ok.mpr ⟨hchecked, by rw [if_pos hinside]; rfl⟩⟩
    · obtain ⟨q, hq⟩ := divide_isSome (a := hundred *
        (if value < low then low - value else value - high)) hband.2
      refine ⟨clamp q, check_bind_ok.mpr ⟨hchecked, ?_⟩⟩
      rw [if_neg hinside]
      exact bind_ok.mpr ⟨q, hq, rfl⟩

theorem value_greater_one_pos (d : Decimal) : 0 < (greater (.ofInt 1) d).value := by
  rw [value_greater, value_ofInt]
  exact lt_max_of_lt_left (by norm_num)

/-- The mismatch of volatility can always be said of scores in range. -/
theorem volatilityMismatch_isSome {values : ScoreInput} (h : values.inRange = true)
    (vegaMismatch : Decimal) : ∃ d, volatilityMismatch values vegaMismatch = .ok d := by
  obtain ⟨-, -, -, hiv, -⟩ := inRange_iff.mp h
  have hfifth : (0 : ℚ) < (⟨false, 20, -2⟩ : Decimal).value := by
    rw [value_of_positive rfl, magnitude]
    norm_num
  obtain ⟨change, hchange⟩ := divide_isSome (a := values.currentAtmIv - values.entryAtmIv) hiv
  cases hview : values.volatilityView with
  | long =>
      obtain ⟨ratio, hratio⟩ := divide_isSome (a := negated change) hfifth
      refine ⟨clamp (ratio * hundred), bind_ok.mpr ⟨change, hchange, ?_⟩⟩
      rw [hview]
      exact bind_ok.mpr ⟨ratio, hratio, rfl⟩
  | short =>
      obtain ⟨ratio, hratio⟩ := divide_isSome (a := change) hfifth
      refine ⟨clamp (ratio * hundred), bind_ok.mpr ⟨change, hchange, ?_⟩⟩
      rw [hview]
      exact bind_ok.mpr ⟨ratio, hratio, rfl⟩
  | neutral =>
      refine ⟨vegaMismatch, bind_ok.mpr ⟨change, hchange, ?_⟩⟩
      rw [hview]
      rfl

/-- A score is made of inputs exactly when they are accepted. -/
theorem scoreDrift_isSome_iff {values : ScoreInput} :
    (∃ result, scoreDrift values = .ok result) ↔ values.Accepted := by
  constructor
  · rintro ⟨result, h⟩
    obtain ⟨vega, hscored⟩ := scoreDrift_scored h
    refine ⟨hscored.inRange, ?_⟩
    obtain ⟨delta, -, hexposure⟩ := bind_ok.mp hscored.exposure
    obtain ⟨theta, -, hexposure⟩ := bind_ok.mp hexposure
    obtain ⟨dte, hdte, -⟩ := bind_ok.mp hexposure
    have hband := (bandDeviation_isSome_iff.mp ⟨dte, hdte⟩).1
    rw [value_ofInt, value_ofInt] at hband
    exact_mod_cast hband
  · rintro ⟨hrange, hdays⟩
    obtain ⟨htheta, hvega, hdelta, hiv, hloss⟩ := inRange_iff.mp hrange
    have htolerance : ∀ n : Int, 0 < n → 0 < (Decimal.ofInt n).value := by
      intro n hn
      rw [value_ofInt]
      exact_mod_cast hn
    obtain ⟨vega, hvega⟩ : ∃ d, bandDeviation values.vega values.vegaLow values.vegaHigh
        (greater (.ofInt 1) (values.vegaHigh - values.vegaLow)) = .ok d :=
      bandDeviation_isSome_iff.mpr ⟨hvega, value_greater_one_pos _⟩
    obtain ⟨delta, hdelta⟩ : ∃ d, bandDeviation values.delta values.deltaLow values.deltaHigh
        (.ofInt 25) = .ok d :=
      bandDeviation_isSome_iff.mpr ⟨hdelta, htolerance 25 (by decide)⟩
    obtain ⟨theta, htheta⟩ := divide_isSome
      (a := hundred * ((lesser values.thetaPerDay zero).abs - values.maxDailyTheta)) htheta
    obtain ⟨dte, hdte⟩ : ∃ d, bandDeviation (.ofInt values.dte) (.ofInt values.minimumDte)
        (.ofInt values.maximumDte) (.ofInt 7) = .ok d := by
      refine bandDeviation_isSome_iff.mpr ⟨?_, htolerance 7 (by decide)⟩
      rw [value_ofInt, value_ofInt]
      exact_mod_cast hdays
    obtain ⟨expiry, hexpiry⟩ := divide_isSome
      (a := hundred * (.ofInt 14 - .ofInt values.dte)) (htolerance 7 (by decide))
    obtain ⟨volatility, hvolatility⟩ := volatilityMismatch_isSome hrange vega
    obtain ⟨fraction, hfraction⟩ := lossFraction_isSome hrange
    obtain ⟨ratio, hratio⟩ := divide_isSome (a := fraction - ⟨false, 10, -2⟩)
      (b := ⟨false, 40, -2⟩) (by rw [value_of_positive rfl, magnitude]; norm_num)
    exact ⟨_, check_bind_ok.mpr ⟨by simpa using hrange, bind_ok.mpr ⟨vega, hvega,
      bind_ok.mpr ⟨_, bind_ok.mpr ⟨delta, hdelta, bind_ok.mpr ⟨theta, htheta,
        bind_ok.mpr ⟨dte, hdte, rfl⟩⟩⟩, bind_ok.mpr ⟨_, bind_ok.mpr ⟨expiry, hexpiry, rfl⟩,
          bind_ok.mpr ⟨volatility, hvolatility, bind_ok.mpr ⟨_, bind_ok.mpr ⟨fraction, hfraction,
            bind_ok.mpr ⟨ratio, hratio, rfl⟩⟩, rfl⟩⟩⟩⟩⟩⟩⟩

/-! ## Growing danger -/

/-- The danger of a position grows: its liquidation brings no more, its evidence has drifted no
less, no less of its time is gone, and nothing else changes. -/
structure Endangers (before after : ScoreInput) : Prop where
  liquidationPnl : after.liquidationPnl ≤ before.liquidationPnl
  evidenceDrift : before.evidenceDrift ≤ after.evidenceDrift
  horizonFraction : before.horizonFraction ≤ after.horizonFraction
  others : after = { before with
    liquidationPnl := after.liquidationPnl
    evidenceDrift := after.evidenceDrift
    horizonFraction := after.horizonFraction }

section Endangered

variable {before after : ScoreInput}

theorem Endangers.inRange (h : Endangers before after) : after.inRange = before.inRange := by
  rw [h.others]
  rfl

theorem Endangers.accepted (h : Endangers before after) (haccepted : before.Accepted) :
    after.Accepted := by
  refine ⟨h.inRange.trans haccepted.1, ?_⟩
  rw [h.others]
  exact haccepted.2

/-- The fraction of a loss grows with the danger. -/
theorem Endangers.lossFraction (h : Endangers before after) {fraction fraction' : Decimal}
    (hrange : before.inRange = true) (hfraction : lossFraction before = .ok fraction)
    (hfraction' : lossFraction after = .ok fraction') : fraction.value ≤ fraction'.value := by
  obtain ⟨-, -, -, -, hloss⟩ := inRange_iff.mp hrange
  have hsame : after.approvedMaxLoss = before.approvedMaxLoss := by rw [h.others]
  unfold Lifecycle.lossFraction at hfraction hfraction'
  rw [hsame] at hfraction'
  refine value_div_mono (require_ok.mp hfraction) (require_ok.mp hfraction') hloss ?_
  rw [value_greater, value_greater, negated, negated]
  refine max_le_max_left _ (value_round_mono ?_)
  rw [value_neg, value_neg]
  exact neg_le_neg (le_iff_value.mp h.liquidationPnl)

/-- The use of the approved loss grows with the danger. -/
theorem Endangers.riskUtilization (h : Endangers before after) {risk risk' : Decimal}
    (hrange : before.inRange = true) (hrisk : riskUtilization before = .ok risk)
    (hrisk' : riskUtilization after = .ok risk') : risk.value ≤ risk'.value := by
  obtain ⟨fraction, hfraction, hrisk⟩ := bind_ok.mp hrisk
  obtain ⟨ratio, hratio, hrisk⟩ := bind_ok.mp hrisk
  obtain ⟨fraction', hfraction', hrisk'⟩ := bind_ok.mp hrisk'
  obtain ⟨ratio', hratio', hrisk'⟩ := bind_ok.mp hrisk'
  cases hrisk
  cases hrisk'
  have hgrown := h.lossFraction hrange hfraction hfraction'
  have hratios := value_div_mono (require_ok.mp hratio) (require_ok.mp hratio')
    (by rw [value_of_positive rfl, magnitude]; norm_num) (value_sub_mono hgrown le_rfl)
  exact clamp_mono (value_mul_mono_left (by rw [hundred, value_ofInt]; norm_num) hratios)

/-- The pressure of time grows with the danger. -/
theorem Endangers.timePressure (h : Endangers before after) {time time' : Decimal}
    (htime : timePressure before = .ok time) (htime' : timePressure after = .ok time') :
    time.value ≤ time'.value := by
  have hdte : after.dte = before.dte := by rw [h.others]
  obtain ⟨expiry, hexpiry, htime⟩ := bind_ok.mp htime
  obtain ⟨expiry', hexpiry', htime'⟩ := bind_ok.mp htime'
  rw [hdte, hexpiry] at hexpiry'
  cases hexpiry'
  cases htime
  cases htime'
  rw [value_greater, value_greater]
  refine max_le_max_right _ (clamp_mono (value_mul_mono ?_ (value_sub_mono ?_ le_rfl)))
  · rw [value_ofInt]
    norm_num
  · exact le_iff_value.mp h.horizonFraction

/-- A score grows with the danger. -/
theorem Endangers.displayScore (h : Endangers before after) {result result' : ScoreResult}
    (hresult : scoreDrift before = .ok result) (hresult' : scoreDrift after = .ok result') :
    result.displayScore ≤ result'.displayScore := by
  obtain ⟨vega, hscored⟩ := scoreDrift_scored hresult
  obtain ⟨vega', hscored'⟩ := scoreDrift_scored hresult'
  have hvega := hscored'.vegaMismatch
  have hexposure := hscored'.exposure
  have hvolatility := hscored'.volatility
  rw [h.others] at hvega hexposure hvolatility
  -- the exposure and the volatility read nothing that changes
  obtain rfl : vega' = vega := by
    have hboth := hvega.symm.trans hscored.vegaMismatch
    exact Except.ok.inj hboth
  have hsameExposure : result'.exposureMismatch = result.exposureMismatch :=
    Except.ok.inj (hexposure.symm.trans hscored.exposure)
  have hsameVolatility : result'.volatilityMismatch = result.volatilityMismatch :=
    Except.ok.inj (hvolatility.symm.trans hscored.volatility)
  have htime := h.timePressure hscored.time hscored'.time
  have hrisk := h.riskUtilization hscored.inRange hscored.risk hscored'.risk
  have hevidence := clamp_mono (le_iff_value.mp h.evidenceDrift)
  have hweight : ∀ weight : Nat, 0 ≤ (⟨false, weight, -2⟩ : Decimal).value := by
    intro weight
    rw [value_of_positive rfl]
    exact magnitude_nonneg _
  rw [hscored.display, hscored'.display]
  refine roundToInt_mono ?_
  rw [hscored.unrounded, hscored'.unrounded, hsameExposure, hsameVolatility]
  refine value_add_mono (value_add_mono (value_add_mono (value_add_mono ?_ le_rfl) ?_) le_rfl) ?_
  · exact value_mul_mono (hweight 35) hevidence
  · exact value_mul_mono (hweight 15) htime
  · exact value_mul_mono (hweight 15) hrisk

end Endangered

/-! ## Forced closes -/

/-- A finding that forces a close: a reason of the strategy, or one of the findings behind it. -/
def MandatoryClose (gates : HardGateInput) (scores : ScoreInput) : Prop :=
  gates.strategyCloseReason.isSome = true ∨ gates.verifiedInvalidation = true ∨
    gates.priceConfirmationBroken = true ∨
    (∃ fraction, lossFraction scores = .ok fraction ∧ ⟨false, 50, -2⟩ ≤ fraction) ∨
    gates.shortDte.any (· ≤ 7) = true ∨ gates.shortCallExDividendBoundary = true ∨
    gates.boundedAsApproved = false ∨ gates.riskCapExceeded = true ∨
    gates.contestEndWindow = true ∨ gates.weekendGateFailed = true

/-- A code forces a close when it is given and not empty. -/
def forces (code : Option String) : Bool :=
  code.any (· ≠ "")

variable {code : Option String} {gates : HardGateInput} {components : ScoreResult}

/-- Without a reason of the strategy a close is forced exactly by a finding. -/
theorem forces_iff_of_none (hreason : gates.strategyCloseReason = none)
    (h : mandatoryCloseCode gates scores = .ok code) :
    forces code = true ↔ MandatoryClose gates scores := by
  unfold mandatoryCloseCode at h
  rw [hreason, if_neg (by simp)] at h
  unfold MandatoryClose
  rw [hreason]
  split at h
  · rename_i hinvalid
    cases h
    simp [forces, hinvalid]
  · rename_i hinvalid
    split at h
    · rename_i hbroken
      cases h
      simp [forces, hbroken]
    · rename_i hbroken
      obtain ⟨fraction, hfraction, h⟩ := bind_ok.mp h
      cases h
      simp only [hfraction, Except.ok.injEq, exists_eq_left', hinvalid, hbroken]
      split
      · rename_i hloss
        simp [forces, hloss]
      · split
        · rename_i hdte
          simp [forces, hdte]
        · split
          · rename_i hdividend
            simp [forces, hdividend]
          · split
            · rename_i hbounded
              simp_all [forces]
            · split
              · rename_i hcap
                simp [forces, hcap]
              · split
                · rename_i hcontest
                  simp [forces, hcontest]
                · split
                  · rename_i hweekend
                    simp [forces, hweekend]
                  · simp_all [forces]

/-- A finding forces a close exactly when the strategy does not give the empty text as its
reason. -/
theorem forces_iff (hforced : MandatoryClose gates scores)
    (h : mandatoryCloseCode gates scores = .ok code) :
    forces code = true ↔ gates.strategyCloseReason ≠ some "" := by
  cases hreason : gates.strategyCloseReason with
  | none => simpa using (forces_iff_of_none hreason h).mpr hforced
  | some reason =>
      unfold mandatoryCloseCode at h
      rw [hreason, if_pos Option.isSome_some] at h
      cases h
      simp [forces]

/-- What forces a close still forces it under growing danger. -/
theorem Endangers.forces {before after : ScoreInput} (h : Endangers before after)
    {code' : Option String} (hrange : before.inRange = true)
    (hcode : mandatoryCloseCode gates before = .ok code)
    (hcode' : mandatoryCloseCode gates after = .ok code') (hforces : forces code = true) :
    Lifecycle.forces code' = true := by
  cases hreason : gates.strategyCloseReason with
  | some reason =>
      unfold mandatoryCloseCode at hcode hcode'
      rw [hreason, if_pos Option.isSome_some] at hcode hcode'
      rw [← Except.ok.inj hcode', Except.ok.inj hcode]
      exact hforces
  | none =>
      refine (forces_iff_of_none hreason hcode').mpr ?_
      obtain ⟨fraction', hfraction'⟩ := lossFraction_isSome (h.inRange.trans hrange)
      have hfinding := (forces_iff_of_none hreason hcode).mp hforces
      unfold MandatoryClose at hfinding ⊢
      rcases hfinding with hfinding | hfinding | hfinding | ⟨fraction, hfraction, hhalf⟩ | hfinding
      · exact .inl hfinding
      · exact .inr (.inl hfinding)
      · exact .inr (.inr (.inl hfinding))
      · refine .inr (.inr (.inr (.inl ⟨fraction', hfraction', ?_⟩)))
        exact le_iff_value.mpr ((le_iff_value.mp hhalf).trans
          (h.lossFraction hrange hfraction hfraction'))
      · exact .inr (.inr (.inr (.inr hfinding)))

/-! ## Decisions -/

/-- A score closes a position exactly when the evidence is known and the thesis is broken or the
score is at least seventy. -/
theorem scoredVerdict_closes :
    (scoredVerdict values components).action = .close ↔
      values.evidenceState ≠ .unknown ∧
        (values.thesisStatus = .broken ∨ 70 ≤ components.displayScore) := by
  unfold scoredVerdict
  split
  · rename_i hunknown
    simp [hunknown]
  · rename_i hknown
    split
    · rename_i hclose
      simp only [true_iff]
      exact ⟨hknown, hclose⟩
    · rename_i hopen
      have hnone : ¬(values.evidenceState ≠ .unknown ∧
          (values.thesisStatus = .broken ∨ 70 ≤ components.displayScore)) := fun h => hopen h.2
      split
      · simp only [reduceCtorEq, false_iff]
        exact hnone
      · simp only [reduceCtorEq, false_iff]
        exact hnone

/-- What an assessment needs before it looks at the position: no failure of the execution, complete
data, and the exposure and the scores of the position. -/
structure Assessable (values : AssessmentInput) (scores : ScoreInput) : Prop where
  failures : values.executionFailures = []
  quality : values.quality = .complete
  exposure : values.actualExposure.isSome = true
  scores : values.scores = some scores

/-- The verdict of an assessment that looks at the position: a forced close, or what the score
decides. -/
theorem verdict_of_assessable (h : Assessable values scores)
    (hcomponents : scoreDrift scores = .ok components)
    (hcode : mandatoryCloseCode values.hardGates scores = .ok code) :
    ∃ decided, verdict values = .ok decided ∧ decided.action =
      if forces code then .close else (scoredVerdict values components).action := by
  unfold verdict
  rw [h.failures, h.quality, h.exposure, h.scores]
  refine ⟨_, bind_ok.mpr ⟨components, hcomponents, bind_ok.mpr ⟨code, hcode, rfl⟩⟩, ?_⟩
  cases code with
  | none => rfl
  | some text =>
      by_cases htext : text = ""
      · simp [forces, htext]
      · simp [forces, htext]

/-- Only an assessment that looks at the position closes it. -/
theorem assessable_of_close {decided : Verdict} (h : verdict values = .ok decided)
    (hclose : decided.action = .close) :
    ∃ scores components code, Assessable values scores ∧ scoreDrift scores = .ok components ∧
      mandatoryCloseCode values.hardGates scores = .ok code := by
  unfold verdict at h
  split at h
  · cases h
    cases hclose
  · rename_i hfailures
    split at h
    · rename_i scores hready hscores
      obtain ⟨components, hcomponents, h⟩ := bind_ok.mp h
      obtain ⟨code, hcode, -⟩ := bind_ok.mp h
      rw [Bool.and_eq_true, decide_eq_true_iff] at hready
      exact ⟨scores, components, code, ⟨hfailures, hready.1, hready.2, hscores⟩, hcomponents,
        hcode⟩
    · cases h
      cases hclose

/-- The action of an answer is that of the verdict. -/
theorem evaluateAssessment_action {answer : PolicyResult}
    (h : evaluateAssessment values = .ok answer) :
    ∃ decided, verdict values = .ok decided ∧ answer.response.action = decided.action := by
  obtain ⟨decided, hdecided, h⟩ := bind_ok.mp h
  obtain ⟨-, h⟩ := check_bind_ok.mp h
  obtain rfl := Except.ok.inj h
  exact ⟨decided, hdecided, rfl⟩

/-- An assessment on accepted scores answers, with the action that is forced or that the score
decides. -/
theorem evaluateAssessment_of_assessable (h : Assessable values scores)
    (hcomponents : scoreDrift scores = .ok components)
    (hcode : mandatoryCloseCode values.hardGates scores = .ok code) :
    ∃ answer, evaluateAssessment values = .ok answer ∧ answer.response.action =
      if forces code then .close else (scoredVerdict values components).action := by
  obtain ⟨decided, hdecided, haction⟩ := verdict_of_assessable h hcomponents hcode
  have haccepted : ∀ shown ∈ values.scores, ∃ result, scoreDrift shown = .ok result := by
    rw [h.scores]
    rintro _ ⟨⟩
    exact ⟨components, hcomponents⟩
  obtain ⟨other, hother, hshown⟩ := exists_verdict haccepted
  obtain rfl := Except.ok.inj (hdecided.symm.trans hother)
  refine ⟨_, bind_ok.mpr ⟨decided, hdecided, check_bind_ok.mpr ⟨?_, rfl⟩⟩, haction⟩
  rw [raiseIf_ok]
  cases hcase : decided.components with
  | none => rfl
  | some shown =>
      obtain ⟨scores', -, hscores'⟩ := hshown shown hcase
      obtain ⟨vega, hscored⟩ := scoreDrift_scored hscores'
      simpa using hscored.percentages.displayScore

/-- Accepted scores have components, and a code that says whether a close is forced. -/
theorem ScoreInput.Accepted.scored (h : scores.Accepted) (gates : HardGateInput) :
    ∃ components code, scoreDrift scores = .ok components ∧
      mandatoryCloseCode gates scores = .ok code := by
  obtain ⟨components, hcomponents⟩ := scoreDrift_isSome_iff.mpr h
  obtain ⟨code, hcode⟩ := mandatoryCloseCode_isSome gates h.1
  exact ⟨components, code, hcomponents, hcode⟩

/-- A close stays a close under growing danger. -/
theorem Endangers.closes {scores' : ScoreInput} {answer : PolicyResult}
    (h : Endangers scores scores') (hscores : values.scores = some scores)
    (hanswer : evaluateAssessment values = .ok answer) (hclose : answer.response.action = .close) :
    ∃ answer', evaluateAssessment { values with scores := some scores' } = .ok answer' ∧
      answer'.response.action = .close := by
  obtain ⟨decided, hdecided, haction⟩ := evaluateAssessment_action hanswer
  obtain ⟨same, components, code, hready, hcomponents, hcode⟩ :=
    assessable_of_close hdecided (haction.symm.trans hclose)
  obtain rfl := Option.some.inj (hscores.symm.trans hready.scores)
  obtain ⟨first, hfirst, hfirstAction⟩ :=
    evaluateAssessment_of_assessable hready hcomponents hcode
  obtain rfl := Except.ok.inj (hanswer.symm.trans hfirst)
  have haccepted := scoreDrift_isSome_iff.mp ⟨components, hcomponents⟩
  obtain ⟨components', code', hcomponents', hcode'⟩ :=
    (h.accepted haccepted).scored values.hardGates
  have hready' : Assessable { values with scores := some scores' } scores' :=
    ⟨hready.failures, hready.quality, hready.exposure, rfl⟩
  obtain ⟨answer', hanswer', haction'⟩ :=
    evaluateAssessment_of_assessable hready' hcomponents' hcode'
  refine ⟨answer', hanswer', haction'.trans ?_⟩
  by_cases hforced : Lifecycle.forces code' = true
  · rw [if_pos hforced]
  · have hfree : Lifecycle.forces code ≠ true := fun hforces =>
      hforced (h.forces haccepted.1 hcode hcode' hforces)
    rw [if_neg hforced]
    rw [hclose, if_neg hfree] at hfirstAction
    obtain ⟨hknown, hdrifted⟩ := scoredVerdict_closes.mp hfirstAction.symm
    exact scoredVerdict_closes.mpr ⟨hknown, hdrifted.imp_right fun hscore =>
      hscore.trans (h.displayScore hcomponents hcomponents')⟩

/-- The answers of an assessment whatever is known of the evidence, the thesis and the roll all
close the position. -/
def ClosesAnyway (values : AssessmentInput) : Prop :=
  ∀ evidence thesis roll, ∃ answer,
    evaluateAssessment { values with
      evidenceState := evidence, thesisStatus := thesis, rollCandidate := roll } = .ok answer ∧
      answer.response.action = .close

/-- A finding closes the position, whatever is known of the evidence, the thesis and the roll,
exactly when the strategy does not give the empty text as its reason. -/
theorem closesAnyway_iff (h : Assessable values scores) (haccepted : scores.Accepted)
    (hforced : MandatoryClose values.hardGates scores) :
    ClosesAnyway values ↔ values.hardGates.strategyCloseReason ≠ some "" := by
  obtain ⟨components, code, hcomponents, hcode⟩ := haccepted.scored values.hardGates
  rw [← forces_iff hforced hcode]
  have hanswers : ∀ evidence thesis roll, ∃ answer,
      evaluateAssessment { values with
        evidenceState := evidence, thesisStatus := thesis, rollCandidate := roll } = .ok answer ∧
        answer.response.action = if forces code then .close
          else (scoredVerdict { values with
            evidenceState := evidence, thesisStatus := thesis, rollCandidate := roll }
            components).action := fun evidence thesis roll =>
    evaluateAssessment_of_assessable ⟨h.failures, h.quality, h.exposure, h.scores⟩ hcomponents hcode
  constructor
  · intro hcloses
    by_contra hfree
    -- what is not forced is not decided on unknown evidence
    obtain ⟨answer, hanswer, haction⟩ := hanswers .unknown values.thesisStatus none
    obtain ⟨same, hsame, hclose⟩ := hcloses .unknown values.thesisStatus none
    obtain rfl := Except.ok.inj (hanswer.symm.trans hsame)
    rw [hclose, if_neg hfree] at haction
    exact (scoredVerdict_closes.mp haction.symm).1 rfl
  · intro hforces evidence thesis roll
    obtain ⟨answer, hanswer, haction⟩ := hanswers evidence thesis roll
    exact ⟨answer, hanswer, by rw [haction, if_pos hforces]⟩

/-- Closing grows with the danger, and a finding closes the position whatever is known of the
evidence, the thesis and the roll, exactly when the strategy does not give the empty text as its
reason. -/
theorem close_forced_iff (values : AssessmentInput) (scores : ScoreInput) :
    (∀ (scores' : ScoreInput) (answer : PolicyResult),
      values.scores = some scores → evaluateAssessment values = .ok answer →
      answer.response.action = .close → Endangers scores scores' →
        ∃ answer', evaluateAssessment { values with scores := some scores' } = .ok answer' ∧
          answer'.response.action = .close) ∧
    (Assessable values scores → scores.Accepted → MandatoryClose values.hardGates scores →
      (ClosesAnyway values ↔ values.hardGates.strategyCloseReason ≠ some "")) :=
  ⟨fun _ _ hscores hanswer hclose h => h.closes hscores hanswer hclose,
    fun h haccepted hforced => closesAnyway_iff h haccepted hforced⟩

section Rehearsed

/-- An assessment of a position whose thesis is known to be invalid, on unknown evidence. -/
def invalidatedValues (reason : Option String) : AssessmentInput where
  assessmentId := ⟨1⟩
  runId := ⟨2⟩
  policyHash := ""
  quality := .complete
  actualExposure := some ⟨.ofInt 0, .ofInt 0, .ofInt 0, .ofInt 0⟩
  thesisStatus := .intact
  evidenceState := .unknown
  scores := some halfwayScores
  hardGates := { verifiedInvalidation := true, strategyCloseReason := reason }

/-- The scores of the position once more is lost, more has drifted and more time is gone. -/
def endangeredScores : ScoreInput where
  evidenceDrift := .ofInt 60
  delta := .ofInt 60
  deltaLow := .ofInt 0
  deltaHigh := .ofInt 50
  vega := .ofInt 5
  vegaLow := .ofInt 0
  vegaHigh := .ofInt 10
  thetaPerDay := .ofInt (-3)
  maxDailyTheta := .ofInt 2
  dte := 12
  minimumDte := 14
  maximumDte := 60
  horizonFraction := ⟨false, 60, -2⟩
  volatilityView := .long
  entryAtmIv := ⟨false, 20, -2⟩
  currentAtmIv := ⟨false, 19, -2⟩
  liquidationPnl := .ofInt (-200)
  approvedMaxLoss := .ofInt 500

theorem halfwayScores_accepted : halfwayScores.Accepted :=
  ⟨by decide +kernel, by decide⟩

theorem halfwayScores_endangered : Endangers halfwayScores endangeredScores :=
  ⟨by decide +kernel, by decide +kernel, by decide +kernel, rfl⟩

theorem invalidatedValues_forced (reason : Option String) :
    Assessable (invalidatedValues reason) halfwayScores ∧
      MandatoryClose (invalidatedValues reason).hardGates halfwayScores :=
  ⟨⟨rfl, rfl, rfl, rfl⟩, .inr (.inl rfl)⟩

theorem invalidatedValues_action :
    (evaluateAssessment (invalidatedValues none)).toOption.map (·.response.action) = some .close ∧
      (evaluateAssessment (invalidatedValues (some ""))).toOption.map (·.response.action) =
        some .noAction := by
  decide +kernel

/-- In the rehearsal the close of an invalidated position stays a close as the danger grows, and
whatever is known of the evidence, the thesis and the roll. -/
theorem close_forced_iff_rehearsed :
    (∃ answer, evaluateAssessment { invalidatedValues none with scores := some endangeredScores } =
      .ok answer ∧ answer.response.action = .close) ∧ ClosesAnyway (invalidatedValues none) := by
  obtain ⟨hready, hforced⟩ := invalidatedValues_forced none
  constructor
  · have haction := invalidatedValues_action.1
    cases hanswer : evaluateAssessment (invalidatedValues none) with
    | error failure =>
        rw [hanswer] at haction
        cases haction
    | ok answer =>
        rw [hanswer] at haction
        exact (close_forced_iff _ _).1 _ answer hready.scores hanswer (Option.some.inj haction)
          halfwayScores_endangered
  · refine ((close_forced_iff _ _).2 hready halfwayScores_accepted hforced).mpr ?_
    rintro ⟨⟩

/-- An invalidated position is not closed on unknown evidence where the strategy gives the empty
text as its reason. -/
theorem not_closesAnyway_of_empty_reason :
    ¬∀ (values : AssessmentInput) (scores : ScoreInput), Assessable values scores →
      scores.Accepted → MandatoryClose values.hardGates scores → ClosesAnyway values := by
  intro hclaim
  obtain ⟨hready, hforced⟩ := invalidatedValues_forced (some "")
  obtain ⟨answer, hanswer, hclose⟩ :=
    hclaim _ _ hready halfwayScores_accepted hforced .unknown .intact none
  have haction := invalidatedValues_action.2
  have hsame : evaluateAssessment (invalidatedValues (some "")) = .ok answer := hanswer
  rw [hsame] at haction
  have hnone : answer.response.action = .noAction := Option.some.inj haction
  rw [hclose] at hnone
  cases hnone

end Rehearsed

end AlphaDecay.Lifecycle
