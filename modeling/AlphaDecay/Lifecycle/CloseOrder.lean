import AlphaDecay.Lifecycle.Accepted
import AlphaDecay.Lifecycle.Proposal
import AlphaDecay.Policy.ApprovedRisk

/-!
# The order of a close

The prices of the package that closes a position are those of its quotes up to the rounding of
decimal arithmetic, so its lowest limit is never above its highest one. A close that is approved
before its authorization expires is proposed exactly when both limits, in whole cents, are worth
something and less than the width of the spread; the order that is proposed flattens the position.
-/

namespace AlphaDecay.Lifecycle

open Foundation
open Foundation.Decimal (slack moderate)

/-! ## Exact prices -/

/-- The exact middle of the price of closing options, as a debit. -/
def exactMidpoint (options : List LifecycleOptionObservation) : ℚ :=
  (options.map fun item =>
    if zero < item.signedQuantity then -((item.bidPrice.value + item.askPrice.value) / 2)
    else (item.bidPrice.value + item.askPrice.value) / 2).sum

/-- The exact price of closing options at the far side of their quotes, as a debit. -/
def exactNatural (options : List LifecycleOptionObservation) : ℚ :=
  (options.map fun item =>
    if zero < item.signedQuantity then -item.bidPrice.value else item.askPrice.value).sum

variable {item : LifecycleOptionObservation}

/-- The middle of a quote in bounds, up to rounding. -/
theorem midpoint_near (h : QuoteInBounds item) :
    ∃ middle, item.midpoint = .ok middle ∧
      |middle.value - (item.bidPrice.value + item.askPrice.value) / 2| ≤ 2 * slack := by
  obtain ⟨hpositive, hordered, hbounded⟩ := h
  have hsum := Decimal.value_add_near (a := item.bidPrice) (b := item.askPrice) (by
    rw [moderate, abs_le]
    constructor <;> linarith)
  rw [slack, abs_le] at hsum
  obtain ⟨middle, hmiddle⟩ := Decimal.div_isSome (a := item.bidPrice + item.askPrice)
    (b := Decimal.ofInt 2) (by simp)
  have hhalf := Decimal.value_half_near hmiddle (by
    rw [moderate, abs_le]
    constructor <;> linarith)
  refine ⟨middle, by rw [LifecycleOptionObservation.midpoint, Policy.divide, hmiddle]; rfl, ?_⟩
  rw [slack, abs_le] at hhalf ⊢
  constructor <;> linarith

/-- The prices of a package with the leg that closes one more position, up to rounding. -/
theorem addLeg_near {prices : PackagePrices} {position : RetainedOptionPosition}
    {item : LifecycleOptionObservation} (hquote : QuoteInBounds item)
    (hside : item.signedQuantity.value = position.signedQuantity.value)
    (hmidpoint : |prices.midpoint.value| ≤ 2 * 10 ^ 9)
    (hnatural : |prices.natural.value| ≤ 2 * 10 ^ 9) :
    ∃ next, prices.addLeg (closingLeg position) item = .ok next ∧
      |next.midpoint.value - (prices.midpoint.value + exactMidpoint [item])| ≤ 3 * slack ∧
      |next.natural.value - (prices.natural.value + exactNatural [item])| ≤ slack := by
  obtain ⟨middle, hmiddle, hclose⟩ := midpoint_near hquote
  obtain ⟨hpositive, hordered, hbounded⟩ := hquote
  obtain ⟨hmidLow, hmidHigh⟩ := abs_le.mp hmidpoint
  obtain ⟨hnatLow, hnatHigh⟩ := abs_le.mp hnatural
  have hslack : slack = 1 / 10 ^ 15 := rfl
  obtain ⟨hlow, hhigh⟩ := abs_le.mp hclose
  have hsame : (zero < item.signedQuantity) = (zero < position.signedQuantity) := by
    rw [eq_iff_iff, Decimal.lt_iff_value, Decimal.lt_iff_value, hside]
  unfold PackagePrices.addLeg exactMidpoint exactNatural
  rw [hmiddle]
  by_cases hlong : zero < position.signedQuantity
  · -- a long position is sold
    have hmid := Decimal.value_sub_near (a := prices.midpoint) (b := middle) (by
      rw [moderate, abs_le]
      constructor <;> linarith)
    have hnat := Decimal.value_sub_near (a := prices.natural) (b := item.bidPrice) (by
      rw [moderate, abs_le]
      constructor <;> linarith)
    refine ⟨⟨prices.midpoint - middle, prices.natural - item.bidPrice⟩, ?_, ?_, ?_⟩
    · simp only [closingLeg, if_pos hlong]
      rfl
    · simp only [List.map_cons, List.map_nil, List.sum_cons, List.sum_nil, hsame, if_pos hlong]
      rw [abs_le] at hmid ⊢
      constructor <;> linarith
    · simp only [List.map_cons, List.map_nil, List.sum_cons, List.sum_nil, hsame, if_pos hlong]
      rw [abs_le] at hnat ⊢
      constructor <;> linarith
  · -- a short position is bought back
    have hmid := Decimal.value_add_near (a := prices.midpoint) (b := middle) (by
      rw [moderate, abs_le]
      constructor <;> linarith)
    have hnat := Decimal.value_add_near (a := prices.natural) (b := item.askPrice) (by
      rw [moderate, abs_le]
      constructor <;> linarith)
    refine ⟨⟨prices.midpoint + middle, prices.natural + item.askPrice⟩, ?_, ?_, ?_⟩
    · simp only [closingLeg, if_neg hlong]
      rfl
    · simp only [List.map_cons, List.map_nil, List.sum_cons, List.sum_nil, hsame, if_neg hlong]
      rw [abs_le] at hmid ⊢
      constructor <;> linarith
    · simp only [List.map_cons, List.map_nil, List.sum_cons, List.sum_nil, hsame, if_neg hlong]
      rw [abs_le] at hnat ⊢
      constructor <;> linarith

/-- How far the exact prices of one option can be from zero. -/
theorem exact_bounds (h : QuoteInBounds item) :
    |exactMidpoint [item]| ≤ 10 ^ 9 ∧ |exactNatural [item]| ≤ 10 ^ 9 ∧
      exactMidpoint [item] ≤ exactNatural [item] := by
  obtain ⟨hpositive, hordered, hbounded⟩ := h
  unfold exactMidpoint exactNatural
  simp only [List.map_cons, List.map_nil, List.sum_cons, List.sum_nil, add_zero]
  by_cases hlong : zero < item.signedQuantity
  · simp only [if_pos hlong, abs_le]
    refine ⟨⟨?_, ?_⟩, ⟨?_, ?_⟩, ?_⟩ <;> linarith
  · simp only [if_neg hlong, abs_le]
    refine ⟨⟨?_, ?_⟩, ⟨?_, ?_⟩, ?_⟩ <;> linarith

structure PricesNear (options : List LifecycleOptionObservation)
    (prices : PackagePrices) : Prop where
  midpoint : |prices.midpoint.value - exactMidpoint options| ≤ 1 / 10 ^ 14
  natural : |prices.natural.value - exactNatural options| ≤ 1 / 10 ^ 14

/-- The package that closes a spread has prices close to the exact ones, which are in order. -/
theorem packagePrices_close {first second : RetainedOptionPosition}
    {lower upper : LifecycleOptionObservation} (hdistinct : first.symbol ≠ second.symbol)
    (h : AcceptedOptions first second lower upper) :
    ∃ prices, packagePrices [closingLeg first, closingLeg second] [lower, upper] = .ok prices ∧
      PricesNear [lower, upper] prices ∧
      exactMidpoint [lower, upper] ≤ exactNatural [lower, upper] ∧
      |exactMidpoint [lower, upper]| ≤ 2 * 10 ^ 9 ∧ |exactNatural [lower, upper]| ≤ 2 * 10 ^ 9 := by
  have hslack : slack = 1 / 10 ^ 15 := rfl
  obtain ⟨hlowMid, hlowNat, hlowOrder⟩ := exact_bounds h.lowerQuote
  obtain ⟨hupMid, hupNat, hupOrder⟩ := exact_bounds h.upperQuote
  have hmidpoint : exactMidpoint [lower, upper] = exactMidpoint [lower] + exactMidpoint
    [upper] := by
    simp only [exactMidpoint, List.map_cons, List.map_nil, List.sum_cons, List.sum_nil, add_zero]
  have hnatural : exactNatural [lower, upper] = exactNatural [lower] + exactNatural [upper] := by
    simp only [exactNatural, List.map_cons, List.map_nil, List.sum_cons, List.sum_nil, add_zero]
  obtain ⟨one, hone, honeMid, honeNat⟩ := @addLeg_near ⟨zero, zero⟩ _ _ h.lowerQuote
    h.lowerQuantity (by simp) (by simp)
  rw [abs_le] at hlowMid hlowNat hupMid hupNat
  simp only [value_zero, zero_add] at honeMid honeNat
  rw [abs_le] at honeMid honeNat
  obtain ⟨two, htwo, htwoMid, htwoNat⟩ := @addLeg_near one _ _ h.upperQuote
    h.upperQuantity (by rw [abs_le]; constructor <;> linarith)
    (by rw [abs_le]; constructor <;> linarith)
  rw [abs_le] at htwoMid htwoNat
  have hfirst : [lower, upper].find? (fun item => item.symbol == (closingLeg first).symbol) =
      some lower := by
    rw [List.find?_cons_of_pos]
    exact beq_iff_eq.mpr h.lowerSymbol
  have hsecond : [lower, upper].find? (fun item => item.symbol == (closingLeg second).symbol) =
      some upper := by
    rw [List.find?_cons_of_neg, List.find?_cons_of_pos]
    · exact beq_iff_eq.mpr h.upperSymbol
    · rw [beq_iff_eq, h.lowerSymbol]
      exact hdistinct
  refine ⟨two, ?_, ⟨?_, ?_⟩, ?_, ?_, ?_⟩
  · rw [packagePrices, List.foldlM_cons, hfirst, require_some, ok_bind, hone, ok_bind,
      List.foldlM_cons, hsecond, require_some, ok_bind, htwo, ok_bind]
    rfl
  · rw [hmidpoint, abs_le]
    constructor <;> linarith
  · rw [hnatural, abs_le]
    constructor <;> linarith
  · rw [hmidpoint, hnatural]
    linarith
  · rw [hmidpoint, abs_le]
    constructor <;> linarith
  · rw [hnatural, abs_le]
    constructor <;> linarith

/-! ## Limits -/

/-- Both limits are worth something, and less than the width of the spread. -/
def LimitBounds.Executable (bounds : LimitBounds) (payoffWidth : Decimal) : Prop :=
  bounds.minimumLimit.value ≠ 0 ∧ bounds.maximumLimit.value ≠ 0 ∧
    |bounds.minimumLimit.value| < payoffWidth.value ∧
    |bounds.maximumLimit.value| < payoffWidth.value

/-- Limits in whole cents around the prices of a package: at most its middle, and at its far side
or less than one cent above. -/
structure CentLimits (prices : PackagePrices) (bounds : LimitBounds) : Prop where
  minimumCents : bounds.minimumLimit.exponent = -2
  maximumCents : bounds.maximumLimit.exponent = -2
  minimum : bounds.minimumLimit.value ≤ prices.midpoint.value
  nearMinimum : prices.midpoint.value < bounds.minimumLimit.value + 1 / 100
  maximum : prices.natural.value ≤ bounds.maximumLimit.value
  tight : bounds.maximumLimit.value < prices.natural.value + 1 / 100

theorem value_cents {d : Decimal} (h : d.exponent = -2) : d.value = d.significand / 100 := by
  rw [Decimal.value, h]
  norm_num [div_eq_mul_inv]

/-- Moderate prices have limits, which are in order and are traded exactly when they can be
executed. -/
theorem limits_spec {options : List LifecycleOptionObservation} {prices : PackagePrices}
    (hnear : PricesNear options prices) (horder : exactMidpoint options ≤ exactNatural options)
    (hmidpoint : |exactMidpoint options| ≤ 2 * 10 ^ 9)
    (hnatural : |exactNatural options| ≤ 2 * 10 ^ 9) (payoffWidth : Decimal) :
    ∃ bounds, prices.limits = .ok bounds ∧ CentLimits prices bounds ∧
      ¬ bounds.maximumLimit < bounds.minimumLimit ∧
      (bounds.isTradable payoffWidth = true ↔ bounds.Executable payoffWidth) := by
  obtain ⟨hnearMid, hnearNat⟩ := hnear
  rw [abs_le] at hnearMid hnearNat hmidpoint hnatural
  obtain ⟨minimum, hminimum⟩ := Decimal.quantizeFloor_isSome (d := prices.midpoint) (by
    rw [moderate, abs_le]
    constructor <;> linarith)
  obtain ⟨maximum, hmaximum⟩ := Decimal.quantizeCeiling_isSome (d := prices.natural) (by
    rw [moderate, abs_le]
    constructor <;> linarith)
  obtain ⟨hminCents, hminFits, hminLow, hminHigh⟩ := Decimal.quantizeFloor_spec hminimum
  obtain ⟨hmaxCents, hmaxFits, hmaxLow, hmaxHigh⟩ := Decimal.quantizeCeiling_spec hmaximum
  have hcent : (10 : ℚ) ^ (-2 : Int) = 1 / 100 := by norm_num
  rw [hcent] at hminHigh hmaxHigh
  have hordered : ¬ maximum < minimum := by
    rw [Decimal.lt_iff_value, value_cents hminCents, value_cents hmaxCents]
    rw [value_cents hminCents] at hminLow
    rw [value_cents hmaxCents] at hmaxLow
    intro hlt
    -- limits out of order are a whole cent apart
    have hcents : (maximum.significand : ℚ) + 1 ≤ minimum.significand := by
      have : (maximum.significand : ℚ) < minimum.significand := by linarith
      exact_mod_cast this
    linarith
  refine ⟨⟨minimum, maximum⟩, ?_,
    ⟨hminCents, hmaxCents, hminLow, hminHigh, hmaxLow, hmaxHigh⟩, hordered, ?_⟩
  · rw [PackagePrices.limits, hminimum, hmaximum]
    rfl
  · rw [LimitBounds.isTradable, Bool.not_eq_true', ← Bool.not_eq_true]
    simp only [LimitBounds.Executable, Bool.or_eq_true, not_or, decide_eq_true_eq, hordered,
      not_false_eq_true, and_true, Decimal.beq_iff_value, value_zero, Decimal.le_iff_value, not_le,
      Decimal.value_abs hminFits, Decimal.value_abs hmaxFits, and_assoc, ne_eq]

/-! ## Flat positions -/

variable {first second : RetainedOptionPosition} {quantity : Int}

/-- What an order changes in the position of a symbol. -/
def changeOf (envelope : OrderEnvelope) (symbol : String) : Int :=
  ((envelope.legs.filter fun leg => leg.symbol == symbol).map fun leg =>
    leg.intent.direction * leg.ratio * envelope.quantity).sum

/-- An order of two legs that closes positions and leaves nothing of them. -/
structure Flattens (positions : List RetainedOptionPosition) (envelope : OrderEnvelope) : Prop where
  action : envelope.action = .close
  twoLegs : envelope.legs.length = 2
  symbols : envelope.legs.map (fun leg => leg.symbol) = positions.map fun item => item.symbol
  closing : ∀ leg ∈ envelope.legs, leg.intent = .sellToClose ∨ leg.intent = .buyToClose
  flat : ∀ position ∈ positions,
    position.signedQuantity.value + changeOf envelope position.symbol = 0

theorem VerticalSpread.contracts_eq {parsed : ParsedVertical}
    (h : VerticalSpread first second parsed quantity) : contracts [first, second] = |quantity| := by
  rw [contracts, Decimal.floorInt_eq, h.magnitude, ← Int.cast_abs, Int.floor_intCast]

/-- The leg that closes a position changes it by what it holds. -/
theorem closingLeg_change {position : RetainedOptionPosition}
    (h : position.signedQuantity.value = quantity) (hne : quantity ≠ 0) :
    (closingLeg position).intent.direction * (closingLeg position).ratio * |quantity| =
      -quantity := by
  by_cases hlong : zero < position.signedQuantity
  · have hpositive : 0 < quantity := by
      rw [Decimal.lt_iff_value, value_zero, h] at hlong
      exact_mod_cast hlong
    simp only [closingLeg, if_pos hlong, PositionIntent.direction, abs_of_pos hpositive]
    omega
  · have hnegative : quantity < 0 := by
      rw [Decimal.lt_iff_value, value_zero, h, not_lt] at hlong
      have hle : quantity ≤ 0 := by exact_mod_cast hlong
      omega
    simp only [closingLeg, if_neg hlong, PositionIntent.direction, abs_of_neg hnegative]
    omega

theorem VerticalSpread.flattens {parsed : ParsedVertical}
    (h : VerticalSpread first second parsed quantity) {envelope : OrderEnvelope}
    (haction : envelope.action = .close)
    (hlegs : envelope.legs = [closingLeg first, closingLeg second])
    (hquantity : envelope.quantity = |quantity|) : Flattens [first, second] envelope := by
  refine ⟨haction, by rw [hlegs]; rfl, by rw [hlegs]; rfl, ?_, ?_⟩
  · intro leg hleg
    rw [hlegs] at hleg
    simp only [List.mem_cons, List.not_mem_nil, or_false] at hleg
    rcases hleg with rfl | rfl
    · unfold closingLeg
      dsimp only
      split <;> simp
    · unfold closingLeg
      dsimp only
      split <;> simp
  · intro position hposition
    simp only [List.mem_cons, List.not_mem_nil, or_false] at hposition
    rcases hposition with rfl | rfl
    · have hchange : changeOf envelope position.symbol = -quantity := by
        have hother : ((closingLeg second).symbol == position.symbol) = false := by
          rw [beq_eq_false_iff_ne]
          exact h.distinct.symm
        have hself : ((closingLeg position).symbol == position.symbol) = true :=
          beq_self_eq_true _
        simp only [changeOf, hlegs, List.filter_cons, List.filter_nil, hself, hother, if_true,
          Bool.false_eq_true, if_false, List.map_cons, List.map_nil, List.sum_cons, List.sum_nil,
          add_zero, hquantity]
        exact closingLeg_change h.long h.nonzero
      rw [h.long, hchange]
      push_cast
      ring
    · have hchange : changeOf envelope position.symbol = quantity := by
        have hother : ((closingLeg first).symbol == position.symbol) = false := by
          rw [beq_eq_false_iff_ne]
          exact h.distinct
        have hself : ((closingLeg position).symbol == position.symbol) = true :=
          beq_self_eq_true _
        simp only [changeOf, hlegs, List.filter_cons, List.filter_nil, hself, hother, if_true,
          Bool.false_eq_true, if_false, List.map_cons, List.map_nil, List.sum_cons, List.sum_nil,
          add_zero, hquantity]
        rw [← abs_neg quantity]
        have hshort : position.signedQuantity.value = ((-quantity : Int) : ℚ) := by
          rw [h.short, Int.cast_neg]
        rw [closingLeg_change hshort (neg_ne_zero.mpr h.nonzero), neg_neg]
      rw [h.short, hchange]
      ring

/-! ## The proposal of a close -/

section

variable [Digest]

variable {context : RetainedLifecycleContext} {authority : ObservedPaperAccountAuthority}

theorem closeEnvelope_valid {parsed : ParsedVertical}
    (haccepted : AcceptedContext context authority parsed)
    (hpositions : context.expectedPositions = [first, second])
    (hspread : VerticalSpread first second parsed quantity) {bounds : LimitBounds}
    (hordered : ¬ bounds.maximumLimit < bounds.minimumLimit) (session : AlpacaMarketSession)
    (values : AssessmentInput) :
    (proposedEnvelope context session values .close [closingLeg first, closingLeg second]
      bounds).postInit = .ok () := by
  have hquantity : 1 ≤ contracts context.expectedPositions ∧
      contracts context.expectedPositions ≤ maxStructuralOptionQuantity := by
    rw [hpositions, hspread.contracts_eq]
    exact ⟨Int.one_le_abs hspread.nonzero, hspread.limit⟩
  have hrisk := haccepted.approvedMaxLoss
  simp [OrderEnvelopeFields.postInit, proposedEnvelope, hquantity, hordered, hrisk]

omit [Digest] in
/-- The one alternative of a close expects no exposure. -/
theorem eligibleExposure_close {values : AssessmentInput} {result : PolicyResult}
    (h : evaluateAssessment values = .ok result)
    (hclose : result.executionDecision.proposedAction = some .close) :
    eligibleExposure result = .ok none := by
  obtain ⟨verdict, hanswers⟩ := evaluateAssessment_answers h
  obtain ⟨haction, -⟩ := verdict_action hanswers.decided
  rw [hanswers.decision] at hclose
  have hclosed : verdict.action = .close := by
    rw [haction]
    cases hdecision : verdict.decision <;> rw [hdecision] at hclose <;>
      first | rfl | cases hclose
  rw [eligibleExposure, hanswers.alternatives, eligible_alternatives (by rw [hclosed]; decide)]
  simp [hclosed]

/-- The proposal of an approved close, once its package is priced and lives long enough. -/
theorem lifecycleProposal_close {observation : LifecycleProviderObservation}
    {parsed : ParsedVertical} {lower upper : LifecycleOptionObservation} {values : AssessmentInput}
    {result : PolicyResult} {prices : PackagePrices} {bounds : LimitBounds} {trustedAt : Int}
    (haccepted : AcceptedContext context authority parsed)
    (hpositions : context.expectedPositions = [first, second])
    (hspread : VerticalSpread first second parsed quantity)
    (hoptions : observation.options = [lower, upper])
    (hquotes : AcceptedOptions first second lower upper)
    (hresult : evaluateAssessment values = .ok result)
    (hclose : result.executionDecision.proposedAction = some .close)
    (hprices : packagePrices [closingLeg first, closingLeg second] [lower, upper] = .ok prices)
    (hbounds : prices.limits = .ok bounds) (hordered : ¬ bounds.maximumLimit < bounds.minimumLimit)
    (hlive : trustedAt < authorizationExpiry observation.boundaries.marketSession [lower, upper])
    (selectedRoll : Option LifecycleRollObservation) :
    lifecycleProposal context observation values selectedRoll trustedAt =
      if bounds.isTradable (parsed.upper.strike - parsed.lower.strike) then
        .ok (some (proposalOf context values .close none
          ⟨_, closeEnvelope_valid haccepted hpositions hspread hordered
            observation.boundaries.marketSession values⟩ trustedAt
          (authorizationExpiry observation.boundaries.marketSession [lower, upper])))
      else .error (.runtime "LIFECYCLE_ORDER_PRICE_INVALID") := by
  have hcover : quotesCover [closingLeg first, closingLeg second] [lower, upper] = true := by
    simp [quotesCover, closingLeg, hquotes.lowerSymbol, hquotes.upperSymbol, hspread.distinct]
  have hpackage : packageOf context observation values selectedRoll none .close = .ok {
      legs := [closingLeg first, closingLeg second]
      options := [lower, upper]
      payoffWidth := parsed.upper.strike - parsed.lower.strike } := by
    rw [packageOf, if_neg (by decide), closePackage, verticalWidth, haccepted.spread, hpositions,
      hoptions]
    rfl
  have hbuilt : OrderEnvelope.make (proposedEnvelope context observation.boundaries.marketSession
      values .close [closingLeg first, closingLeg second] bounds) = .ok
      ⟨_, closeEnvelope_valid haccepted hpositions hspread hordered
        observation.boundaries.marketSession values⟩ :=
    build_ok.mpr ⟨_, rfl⟩
  have hfresh : raiseIf (decide (authorizationExpiry observation.boundaries.marketSession
      [lower, upper] ≤ trustedAt)) (Failure.runtime "LIFECYCLE_AUTHORIZATION_EXPIRED") =
        .ok () := by
    rw [raiseIf_ok, decide_eq_false_iff_not]
    omega
  rw [lifecycleProposal, hresult, ok_bind, hclose]
  dsimp only
  rw [proposeAction, eligibleExposure_close hresult hclose, ok_bind, hpackage, ok_bind,
    providerLimitBounds]
  dsimp only
  rw [hcover, hprices]
  by_cases htradable : bounds.isTradable (parsed.upper.strike - parsed.lower.strike) = true
  · rw [if_pos htradable]
    show some <$> ((prices.limits >>= _) >>= _) = _
    rw [hbounds, ok_bind, htradable]
    show some <$> (OrderEnvelope.make _ >>= _) = _
    rw [hbuilt, ok_bind, hfresh, ok_bind]
    rfl
  · rw [if_neg htradable]
    rw [Bool.not_eq_true] at htradable
    show some <$> ((prices.limits >>= _) >>= _) = _
    rw [hbounds, ok_bind, htradable]
    rfl

/-- An assessment that closes a position, in the gates or in the score. -/
def ExecutionDecision.Closes (decision : ExecutionDecision) : Prop :=
  decision = .closeApproved ∨ decision = .closeRiskOnly

end

section Rehearsed

attribute [local instance] Policy.zeroDigest

def hashOf (digit : Char) : String :=
  String.ofList (List.replicate 64 digit)

/-- A rehearsed amount in cents. -/
def cents (n : Nat) : Decimal :=
  ⟨false, n, -2⟩

/-- The time of the rehearsed tick. -/
def rehearsedAt : Int :=
  Calendar.microsPerDay * Calendar.dayOfDate ⟨2026, 9, 4⟩ + Calendar.seconds 50400

def rehearsedAuthority : ObservedPaperAccountAuthority where
  role := .submission
  accountFingerprint := hashOf 'a'
  paper := true
  persistentAutonomyEnabled := true
  valid := by decide +kernel

/-- The rehearsed positions: one call spread. -/
def rehearsedPositions : List RetainedOptionPosition :=
  [⟨"QQQ260918C00500000", .ofInt 1, 100⟩, ⟨"QQQ260918C00505000", .ofInt (-1), 100⟩]

/-- The authority behind the rehearsed Greeks. -/
def rehearsedGreeks : GreekAuthorityEvidence where
  authorityId := Uuid.ofNat 1
  version := 1
  effectiveAt := 0
  timestampContractHash := hashOf 'b'
  unitsSourceHash := hashOf 'c'
  valid := by decide +kernel

/-- The evidence that the rehearsed entry was launched on. -/
def rehearsedLaunch : LifecycleLaunchAuthority where
  beta60 := .ofInt 1
  benchmarkSymbol := "QQQ"
  entryBoundaryAt := 0
  entryPolicyHash := hashOf 'd'
  underlyingSourceHash := hashOf 'e'
  benchmarkSourceHash := hashOf 'e'
  completedBarSourceHash := hashOf 'e'
  valid := by decide +kernel

/-- The rehearsed entry, two days before the tick. -/
def rehearsedEntry : RetainedLifecycleTransition where
  action := .entry
  occurredAt := rehearsedAt - Calendar.seconds 172800
  marketSessionId := Uuid.ofNat 2
  cashflow := .ofInt (-100)
  activityHashes := []
  valid := by decide +kernel

def rehearsedContext : RetainedLifecycleContext where
  thesisVersionId := Uuid.ofNat 3
  accountRole := .submission
  accountFingerprint := hashOf 'a'
  policyHash := hashOf 'd'
  thesis := {
    frozen := true
    thesisHash := hashOf 'f'
    thesis := {
      underlying := "QQQ"
      intendedExposure := ⟨.ofInt 10, .ofInt 0, .ofInt (-1), .ofInt 5⟩
      sourcePolicyHash := hashOf 'd' } }
  thesisFrozenAt := 0
  lifecycleOriginAt := rehearsedAt - Calendar.seconds 172800
  lifecycleTransitions := [rehearsedEntry]
  targetAt := rehearsedAt + Calendar.seconds 86400
  positionFingerprint := hashOf '0'
  expectedPositions := rehearsedPositions
  accountExpectedPositions := rehearsedPositions
  accountActivityHashes := []
  accountLifecycleOriginAt := rehearsedAt - Calendar.seconds 172800
  deltaLow := .ofInt 0
  deltaHigh := .ofInt 50
  vegaLow := .ofInt 0
  vegaHigh := .ofInt 20
  maximumDailyTheta := .ofInt 5
  minimumDte := 7
  maximumDte := 60
  maximumRelativeSpread := cents 50
  liquidityAuthorityHash := hashOf '0'
  volatilityView := .neutral
  entryAtmIv := cents 25
  approvedMaxLoss := .ofInt 100
  portfolioRiskCap := .ofInt 1000
  greekAuthority := rehearsedGreeks
  launchAuthority := rehearsedLaunch

def rehearsedAccount : AccountObservation where
  role := .submission
  accountFingerprint := hashOf 'a'
  paper := true
  status := "ACTIVE"
  accountBlocked := false
  tradingBlocked := false
  optionsTradingBlocked := false
  equity := .ofInt 1000
  buyingPower := .ofInt 1000
  cash := .ofInt 900
  observedAt := rehearsedAt
  timeQuality := "RETRIEVAL_TIME_ONLY"
  valid := by decide +kernel

def rehearsedItem (symbol : String) (quantity : Int)
    (valid : InventoryItemFields.postInit ⟨.option, symbol, .ofInt quantity, 100⟩ = .ok ()) :
    InventoryItem where
  kind := .option
  symbol
  signedQuantity := .ofInt quantity
  multiplier := 100
  valid

def rehearsedInventory : List InventoryItem :=
  [rehearsedItem "QQQ260918C00500000" 1 (by decide +kernel),
    rehearsedItem "QQQ260918C00505000" (-1) (by decide +kernel)]

def rehearsedPagination : ActivityPaginationEvidence where
  requestedStart := rehearsedAt - Calendar.seconds 172800
  requestedEnd := rehearsedAt
  retrievedThrough := rehearsedAt
  establishedAt := rehearsedAt
  pageCount := 1
  terminalPageSeen := true
  visibilityCompleteThrough := rehearsedAt - Calendar.seconds 86400
  visibilityHorizon := Calendar.seconds 86400
  valid := by decide +kernel

def rehearsedSweep : SweepObservation where
  retrievalStartedAt := rehearsedAt
  retrievalCompletedAt := rehearsedAt
  activityPagination := rehearsedPagination
  firstAccount := rehearsedAccount
  finalAccount := rehearsedAccount
  firstPositions := rehearsedInventory
  finalPositions := rehearsedInventory
  firstOpenOrders := []
  finalOpenOrders := []
  activities := []
  positionsComplete := true
  ordersComplete := true
  valid := by decide +kernel

/-- A rehearsed option with its quote and its delta. -/
def rehearsedOption (symbol : String) (quantity : Int) (bid ask delta : Decimal)
    (sourceHash : String) : LifecycleOptionObservation where
  symbol
  signedQuantity := .ofInt quantity
  multiplier := 100
  active := true
  tradable := true
  feed := "indicative"
  bidPrice := bid
  askPrice := ask
  delta
  gamma := cents 1
  thetaPerDay := .ofInt (-1)
  vegaPerIvPoint := .ofInt 1
  quoteObservedAt := rehearsedAt
  greekObservedAt := some rehearsedAt
  retrievedAt := rehearsedAt
  greekAuthorityId := Uuid.ofNat 1
  greekTimestampSourceHash := hashOf 'b'
  greekUnitsSourceHash := hashOf 'c'
  sourceHash

def rehearsedSession : AlpacaMarketSession where
  marketSessionId := Uuid.ofNat 4
  sessionDate := ⟨2026, 9, 4⟩
  openAt := rehearsedAt - Calendar.seconds 1800
  closeAt := rehearsedAt + Calendar.seconds 21600
  sourceHash := hashOf 'e'
  requestHash := hashOf 'e'
  retrievedAt := rehearsedAt
  valid := by decide +kernel

/-- The rehearsed observation, with the quotes of the spread. -/
def rehearsedObservation (lowerBid lowerAsk upperBid upperAsk : Nat) :
    LifecycleProviderObservation where
  sweep := rehearsedSweep
  underlying := {
    underlying := "QQQ"
    bidPrice := .ofInt 450
    askPrice := .ofInt 451
    quoteObservedAt := rehearsedAt
    quoteRetrievedAt := rehearsedAt
    quoteSourceHash := hashOf 'e'
    completedBarAt := rehearsedAt - Calendar.seconds 30
    completedBarSourceHash := hashOf 'e'
    requestHash := hashOf 'e'
    benchmarkSymbol := "QQQ"
    benchmarkCompletedBarAt := rehearsedAt - Calendar.seconds 30
    benchmarkCompletedBarSourceHash := hashOf 'e' }
  options := [
    rehearsedOption "QQQ260918C00500000" 1 (cents lowerBid) (cents lowerAsk) (cents 20)
      (hashOf '1'),
    rehearsedOption "QQQ260918C00505000" (-1) (cents upperBid) (cents upperAsk) (cents 10)
      (hashOf '2')]
  atmIv := {
    underlying := "QQQ"
    value := cents 25
    feed := "indicative"
    observedAt := rehearsedAt
    retrievedAt := rehearsedAt
    sourceHash := hashOf 'e'
    requestHash := hashOf 'e'
    callSourceHash := hashOf 'e'
    putSourceHash := hashOf 'f' }
  boundaries := {
    marketSession := rehearsedSession
    observedAt := rehearsedAt
    sourceHash := hashOf 'e'
    priceConfirmation := [
      ⟨rehearsedAt - Calendar.seconds 90, .ofInt 0, .ofInt 0, hashOf 'e', hashOf 'e', hashOf 'e'⟩,
      ⟨rehearsedAt - Calendar.seconds 30, .ofInt 0, .ofInt 0, hashOf 'e', hashOf 'e', hashOf 'e'⟩]
    shortCallCloseAt := none
    weekendCloseAt := some (rehearsedAt + Calendar.seconds 21600)
    contestEndAt := some rehearsedAt }

/-- The rehearsed assessment: the contest ends, so the position has to be closed. -/
def rehearsedValues : AssessmentInput where
  assessmentId := Uuid.ofNat 5
  runId := Uuid.ofNat 6
  policyHash := hashOf 'd'
  quality := .complete
  actualExposure := some ⟨.ofInt 10, .ofInt 0, .ofInt (-1), .ofInt 5⟩
  thesisStatus := .intact
  evidenceState := .noChange
  scores := some {
    evidenceDrift := .ofInt 0
    delta := .ofInt 10
    deltaLow := .ofInt 0
    deltaHigh := .ofInt 50
    vega := .ofInt 5
    vegaLow := .ofInt 0
    vegaHigh := .ofInt 20
    thetaPerDay := .ofInt (-1)
    maxDailyTheta := .ofInt 5
    dte := 14
    minimumDte := 7
    maximumDte := 60
    horizonFraction := cents 50
    volatilityView := .neutral
    entryAtmIv := cents 25
    currentAtmIv := cents 25
    liquidationPnl := .ofInt 0
    approvedMaxLoss := .ofInt 100 }
  hardGates := { contestEndWindow := true }

theorem exists_of_isOk {α : Type} {computation : Except Failure α}
    (h : computation.isOk = true) : ∃ result, computation = .ok result := by
  cases computation with
  | ok result => exact ⟨result, rfl⟩
  | error failure => cases h

/-- The rehearsed assessment closes the position. -/
theorem rehearsedValues_close :
    ∃ result, evaluateAssessment rehearsedValues = .ok result ∧
      result.executionDecision.Closes := by
  have hdecided : (evaluateAssessment rehearsedValues).map
      (fun result => result.executionDecision) = .ok .closeRiskOnly := by decide +kernel
  obtain ⟨result, hresult, hdecision⟩ := map_ok.mp hdecided
  exact ⟨result, hresult, Or.inr hdecision⟩

end Rehearsed

end AlphaDecay.Lifecycle
