import AlphaDecay.Foundation.DecimalRounding
import AlphaDecay.Policy.OpportunityModels

/-!
# Opportunity decisions

`evaluateOpportunity` decides one opportunity: the checks of the input, the direction, the checks
of the vertical candidate, its largest loss, and the checks of the account. A check that fails ends
the decision with a record that names the reason. Every comparison and every arithmetic step is
that of the source, with decimals rounded to the context. `CandidateAccepted` says what a candidate
meets that passes its checks.
-/

namespace AlphaDecay.Policy

open Foundation

/-! ## Checks of the input -/

/-- How far evidence may lie behind the decision that reads it. -/
def freshnessSkewTolerance : Int := Calendar.seconds 30

/-- Evidence retrieved shortly after the trusted decision time is still fresh, not future. -/
def FreshAt (observedAt decisionAt maximumAge : Int) : Prop :=
  -freshnessSkewTolerance ≤ decisionAt - observedAt ∧ decisionAt - observedAt ≤ maximumAge

instance (observedAt decisionAt maximumAge : Int) :
    Decidable (FreshAt observedAt decisionAt maximumAge) :=
  inferInstanceAs (Decidable (_ ∧ _))

/-- The signals and scores of an input are in range. -/
def NormalizedInputValid (values : OpportunityInput) : Prop :=
  Decimal.ofInt 0 ≤ values.absoluteFirstReaction
  ∧ (0 ≤ values.catalystScore ∧ values.catalystScore ≤ 100)
  ∧ (0 ≤ values.bullTrendHits ∧ values.bullTrendHits ≤ 3)
  ∧ (0 ≤ values.bearTrendHits ∧ values.bearTrendHits ≤ 3)

instance (values : OpportunityInput) : Decidable (NormalizedInputValid values) :=
  inferInstanceAs (Decidable (_ ∧ _))

/-- The first check of the input that fails before a direction is derived. -/
def inputFailure (policy : OpportunityPolicy) (values : OpportunityInput) :
    Option OpportunityReason :=
  let structuralPilot := (structuralPilotProfile policy.opportunityKey).isSome
  if values.opportunityKey ≠ policy.opportunityKey ∨ values.underlying ≠ policy.underlying ∨
      (structuralPilot = true ∧ policy.underlying ≠ "SPY") then
    some .policyScopeMismatch
  else if values.priorDecisionOutcome.isSome then some .priorDecisionBinding
  else if values.observedDecisionBoundary ≠ policy.selectedDecisionBoundary then
    some .decisionBoundaryMismatch
  else if values.decisionBoundaryComplete = false ∨
      values.completedBarAt ≠ values.observedDecisionBoundary then
    some .decisionBoundaryIncomplete
  else if values.evaluatedAt < values.observedDecisionBoundary then
    some .decisionBoundaryNotReached
  else if values.evaluatedAt - values.observedDecisionBoundary > policy.maximumDecisionDelay then
    some .decisionBoundaryStale
  else if values.dataQuality ≠ .complete then some .dataQualityIncomplete
  else if ¬ NormalizedInputValid values then some .normalizedInputInvalid
  else if values.marketOpen = false then some .marketClosed
  else if values.tradingHalted = .unknown then some .tradingHaltStatusUnknown
  else if values.tradingHalted = .halted then some .tradingHalted
  else if ¬ FreshAt values.underlyingObservedAt values.evaluatedAt policy.maximumUnderlyingAge then
    some .underlyingDataStale
  else if ¬ FreshAt values.catalystObservedAt values.evaluatedAt policy.maximumCatalystAge then
    some .catalystDataStale
  else if structuralPilot = false ∧ values.catalystQuality = .missing then
    some .catalystDataMissing
  else if structuralPilot = false ∧ values.catalystQuality = .authoritativeContradiction then
    some .catalystContradicted
  else if structuralPilot = false ∧ values.catalystScore < policy.minimumCatalystScore then
    some .catalystScoreBelowMinimum
  else if structuralPilot = false ∧
      ¬ (policy.minimumBeta < values.beta ∧ values.beta ≤ policy.maximumBeta) then
    some .betaOutOfBounds
  else if structuralPilot = false ∧
      policy.maximumFirstReaction < values.absoluteFirstReaction then
    some .firstReactionOutOfSupport
  else none

structure DirectionSignals where
  vwapDistance : Decimal
  relativeReturn : Decimal
  bullTrendHits : Int
  bearTrendHits : Int

/-- The direction that the signals confirm, or that of the structural pilot. -/
def deriveOpportunityDirection (policy : OpportunityPolicyFields) (signals : DirectionSignals) :
    Option OpportunityDirection :=
  match structuralPilotProfile policy.opportunityKey, decide (policy.underlying = "SPY") with
  | some profile, true => some profile.direction
  | _, _ =>
      let distance := signals.vwapDistance.abs
      let vwapSizePasses := decide (policy.minimumVwapDistance < distance ∧
        distance ≤ policy.maximumVwapDistance)
      if vwapSizePasses = true ∧ Decimal.ofInt 0 < signals.vwapDistance ∧
          policy.minimumRelativeReturn < signals.relativeReturn ∧
          policy.requiredTrendHits ≤ signals.bullTrendHits then
        some .bullish
      else if vwapSizePasses = true ∧ signals.vwapDistance < Decimal.ofInt 0 ∧
          signals.relativeReturn < policy.minimumRelativeReturn.neg.round ∧
          policy.requiredTrendHits ≤ signals.bearTrendHits then
        some .bearish
      else none

def directionStrategies : OpportunityDirection → List VerticalStrategy
  | .bullish => [.bullCallDebit, .bullPutCredit]
  | .bearish => [.bearPutDebit, .bearCallCredit]

/-! ## Checks of the candidate -/

def VerticalStrategy.isDebit : VerticalStrategy → Bool
  | bullCallDebit => true
  | bearPutDebit => true
  | bullPutCredit => false
  | bearCallCredit => false

namespace VerticalCandidate

def highestLimit (candidate : VerticalCandidate) : Decimal :=
  candidate.maximumLimit.getD candidate.approvedLimit

/-- The leg of a candidate with an intent: the last one, where two share it. -/
def byIntent (candidate : VerticalCandidate) (intent : PositionIntent) : Option OptionLeg :=
  candidate.legs.reverse.find? fun leg => decide (leg.intent = intent)

end VerticalCandidate

/-- Two legs of one contract family at different strikes, as whole standard contracts. -/
def LegsPair (first second : OptionLeg) : Prop :=
  first.symbol ≠ second.symbol ∧ first.underlying = second.underlying
  ∧ first.right = second.right ∧ first.expiry = second.expiry
  ∧ (first.strike == second.strike) = false ∧ first.multiplier = 100 ∧ second.multiplier = 100
  ∧ first.ratio = 1 ∧ second.ratio = 1

instance (first second : OptionLeg) : Decidable (LegsPair first second) :=
  inferInstanceAs (Decidable (_ ∧ _))

/-- The right and the order of strikes that a strategy takes. -/
def StrikesOrdered (strategy : VerticalStrategy) (bought sold : OptionLeg) : Prop :=
  match strategy with
  | .bullCallDebit => bought.right = .call ∧ bought.strike < sold.strike
  | .bearPutDebit => bought.right = .put ∧ sold.strike < bought.strike
  | .bullPutCredit => bought.right = .put ∧ bought.strike < sold.strike
  | .bearCallCredit => bought.right = .call ∧ sold.strike < bought.strike

instance (strategy : VerticalStrategy) (bought sold : OptionLeg) :
    Decidable (StrikesOrdered strategy bought sold) := by
  cases strategy <;> exact inferInstanceAs (Decidable (_ ∧ _))

/-- Whether a candidate with two legs is a vertical of its strategy. -/
def isVertical (candidate : VerticalCandidate) : Bool :=
  match candidate.legs with
  | [first, second] =>
      decide (LegsPair first second) &&
      match candidate.byIntent .buyToOpen, candidate.byIntent .sellToOpen with
      | some bought, some sold => decide (StrikesOrdered candidate.strategy bought sold)
      | _, _ => false
  | _ => false

/-- A quote with a bid, an ask above it, and sizes. -/
def QuoteValid (leg : OptionLeg) : Prop :=
  (Decimal.ofInt 0 < leg.bid ∧ leg.bid ≤ leg.ask) ∧ 0 < leg.bidSize ∧ 0 < leg.askSize

instance (leg : OptionLeg) : Decidable (QuoteValid leg) :=
  inferInstanceAs (Decidable (_ ∧ _))

/-- A quotient, or the failure of the decimal context. -/
def divide (a b : Decimal) : Except Failure Decimal :=
  require (a.div b) .arithmetic

theorem divide_isSome {a b : Decimal} (hb : 0 < b.value) : ∃ q, divide a b = .ok q := by
  obtain ⟨q, hq⟩ := Decimal.div_isSome hb (a := a)
  refine ⟨q, ?_⟩
  rw [divide, hq]
  rfl

/-- The spread of a quote over its midpoint. -/
def relativeSpread (leg : OptionLeg) : Except Failure Decimal := do
  let midpoint ← divide (leg.bid + leg.ask) (.ofInt 2)
  divide (leg.ask - leg.bid) midpoint

/-- The span of the quote times of a candidate. -/
def quoteSkew : List OptionLeg → Int
  | [] => 0
  | first :: rest =>
      (rest.map (·.quoteAt)).foldl max first.quoteAt - (rest.map (·.quoteAt)).foldl min
        first.quoteAt

/-- Whether the limits of a candidate lie within the width fractions of the policy. -/
def payoffGeometryValid (policy : OpportunityPolicyFields) (candidate : VerticalCandidate) :
    Except Failure Bool := do
  let bought ← require (candidate.byIntent .buyToOpen) .key
  let sold ← require (candidate.byIntent .sellToOpen) .key
  let width := (bought.strike - sold.strike).abs
  if candidate.strategy.isDebit then
    let natural := bought.ask - sold.bid
    let maximumLimit := candidate.highestLimit
    let naturalFraction ← divide natural width
    let approvedFraction ← divide candidate.approvedLimit width
    let maximumFraction ← divide maximumLimit width
    return decide (candidate.approvedLimit ≤ maximumLimit ∧ maximumLimit ≤ natural ∧
      ∀ fraction ∈ [naturalFraction, approvedFraction, maximumFraction],
        policy.minimumDebitWidthFraction ≤ fraction ∧
        fraction ≤ policy.maximumDebitWidthFraction)
  else
    let natural := sold.bid - bought.ask
    let naturalFraction ← divide natural width
    let approvedFraction ← divide candidate.approvedLimit width
    return decide (natural ≤ candidate.approvedLimit ∧
      ∀ fraction ∈ [naturalFraction, approvedFraction],
        policy.minimumCreditWidthFraction ≤ fraction ∧ fraction < Decimal.ofInt 1)

def StructuralBullishPilotProfile.strategy (profile : StructuralBullishPilotProfile) :
    VerticalStrategy :=
  match profile.direction with
  | .bullish => .bullCallDebit
  | .bearish => .bearPutDebit

def StructuralBullishPilotProfile.right (profile : StructuralBullishPilotProfile) : OptionRight :=
  match profile.direction with
  | .bullish => .call
  | .bearish => .put

/-- Whether a candidate has the strategy, the width and the limits of a structural pilot. Its legs
are read by their position. -/
def structuralPilotPayoffValid (policy : OpportunityPolicyFields) (candidate : VerticalCandidate)
    (profile : StructuralBullishPilotProfile) : Bool :=
  if candidate.strategy ≠ profile.strategy ∨ candidate.quantity ≠ policy.maximumQuantity then false
  else match candidate.legs with
    | [bought, sold] =>
        let width := (sold.strike - bought.strike).abs
        let natural := bought.ask - sold.bid
        let maximumLimit := candidate.highestLimit
        decide (bought.right = profile.right ∧ sold.right = profile.right ∧
          (width == profile.width) = true ∧
          (Decimal.ofInt 0 < candidate.approvedLimit ∧ candidate.approvedLimit ≤ maximumLimit ∧
            maximumLimit ≤ natural) ∧
          maximumLimit ≤ profile.maximumDebit ∧
          profile.minimumRewardToRisk * maximumLimit ≤ width - maximumLimit)
    | _ => false

/-- Whether the payoff of a candidate is that of the policy or of its structural pilot. -/
def payoffValid (policy : OpportunityPolicyFields) (candidate : VerticalCandidate) :
    Except Failure Bool :=
  match structuralPilotProfile policy.opportunityKey with
  | some profile => .ok (structuralPilotPayoffValid policy candidate profile)
  | none => payoffGeometryValid policy candidate

/-- The bounds of the candidate checks: those of the structural pilot where there is one. -/
structure CandidateBounds where
  minimumDte : Int
  maximumDte : Int
  maximumQuoteAge : Int
  maximumQuoteSkew : Int
  maximumRelativeSpread : Decimal

def candidateBounds (policy : OpportunityPolicyFields) : CandidateBounds :=
  match structuralPilotProfile policy.opportunityKey with
  | some profile => {
      minimumDte := profile.minimumDte
      maximumDte := profile.maximumDte
      maximumQuoteAge := profile.maximumQuoteAge
      maximumQuoteSkew := profile.maximumQuoteSkew
      maximumRelativeSpread := profile.maximumRelativeSpread }
  | none => {
      minimumDte := policy.minimumDte
      maximumDte := policy.maximumDte
      maximumQuoteAge := policy.maximumOptionQuoteAge
      maximumQuoteSkew := policy.maximumLegQuoteSkew
      maximumRelativeSpread := policy.maximumRelativeSpread }

def daysUntil (instant : Int) (date : Calendar.Date) : Int :=
  Calendar.dayOfDate date - instant / Calendar.microsPerDay

/-- The checks of the contract terms of a candidate, up to its quotes. -/
def candidateTermsFailure (policy : OpportunityPolicyFields) (values : OpportunityInput)
    (candidate : VerticalCandidate) : Option OpportunityReason :=
  let bounds := candidateBounds policy
  let structuralPilot := (structuralPilotProfile policy.opportunityKey).isSome
  let maximumLimit := candidate.highestLimit
  if candidate.approvedLimit ≤ Decimal.ofInt 0 ∨ maximumLimit < candidate.approvedLimit ∨
      ¬ (0 ≤ candidate.candidateScore ∧ candidate.candidateScore ≤ 100) ∨ candidate.dte < 0 then
    some .optionCandidateInvalid
  else if candidate.legs.length ≠ 2 then some .verticalStructureInvalid
  else if ∃ leg ∈ candidate.legs, leg.instrumentKind ≠ .option then some .optionOnlyRequired
  else if candidate.selectionRank ≠ 1 then some .candidateFallbackForbidden
  else if ¬ (1 ≤ candidate.quantity ∧ candidate.quantity ≤ policy.maximumQuantity) then
    some .quantityOutOfBounds
  else if structuralPilot = false ∧ candidate.candidateScore < policy.minimumCandidateScore then
    some .candidateScoreBelowMinimum
  else if candidate.buyingPowerSufficient = false then some .buyingPowerInsufficient
  else if ¬ (bounds.minimumDte ≤ candidate.dte ∧ candidate.dte ≤ bounds.maximumDte) then
    some .optionDteOutOfRange
  else if ∃ leg ∈ candidate.legs, leg.active = false ∨ leg.tradable = false ∨ leg.symbol = "" ∨
      leg.underlying ≠ values.underlying then
    some .optionContractIneligible
  else if isVertical candidate = false then some .verticalStructureInvalid
  else if ∃ leg ∈ candidate.legs.head?,
      candidate.dte ≠ daysUntil values.observedDecisionBoundary leg.expiry then
    some .optionDteMismatch
  else if ∃ leg ∈ candidate.legs, leg.feed ≠ .indicativeModified then some .optionFeedNotIndicative
  else if ∃ leg ∈ candidate.legs, ¬ QuoteValid leg then some .optionQuoteInvalid
  else if ∃ leg ∈ candidate.legs,
      ¬ FreshAt leg.quoteAt values.evaluatedAt bounds.maximumQuoteAge then
    some .optionQuoteStale
  else if bounds.maximumQuoteSkew < quoteSkew candidate.legs then
    some .optionQuotesUnsynchronized
  else none

/-- Whether the quote of a leg is too wide. -/
def quoteTooWide (maximumRelativeSpread : Decimal) (leg : OptionLeg) : Except Failure Bool := do
  let spread ← relativeSpread leg
  return decide (maximumRelativeSpread < spread)

/-- The first check of a candidate that fails. -/
def optionCandidateFailure (policy : OpportunityPolicyFields) (values : OpportunityInput)
    (candidate : VerticalCandidate) : Except Failure (Option OpportunityReason) :=
  match candidateTermsFailure policy values candidate with
  | some reason => .ok (some reason)
  | none => do
      let wide ← candidate.legs.anyM (quoteTooWide (candidateBounds policy).maximumRelativeSpread)
      if wide = true then return some .optionQuoteTooWide
      else if ∃ leg ∈ candidate.legs, leg.greeksComplete = false ∨ leg.greekUnitsVerified =
        false then
        return some .optionGreeksMissing
      else
        let valid ← payoffValid policy candidate
        return if valid = true then none else some .optionPayoffInvalid

/-- The largest loss of a candidate that is approved. Its legs are read by their position. -/
def approvedMaxLoss (candidate : VerticalCandidate) : Decimal :=
  let width := match candidate.legs with
    | first :: second :: _ => (first.strike - second.strike).abs
    | _ => Decimal.ofInt 0
  if candidate.strategy.isDebit then
    candidate.highestLimit * .ofInt candidate.quantity * .ofInt 100
  else (width - candidate.approvedLimit) * .ofInt candidate.quantity * .ofInt 100

/-! ## Checks of the account -/

/-- The smaller of two decimals: the first, where they are equal. -/
def minimum (a b : Decimal) : Decimal :=
  if b < a then b else a

/-- The first check of the account that fails. -/
def accountFailure (policy : OpportunityPolicyFields) (values : OpportunityInput)
    (approvedMaxLoss : Decimal) : Option OpportunityReason :=
  let account := values.account
  if isHash account.bookFingerprint = false then some .bookFingerprintInvalid
  else if account.cleanEquity ≤ Decimal.ofInt 0 ∨ account.openPositionCount < 0 ∨
      account.openOrderCount < 0 ∨ account.filledEntryCount < 0 ∨
      account.lifetimeApprovedRisk < Decimal.ofInt 0 ∨
      account.reservedApprovedRisk < Decimal.ofInt 0 ∨
      (account.entryReservationActive = false ∧
        (account.reservedApprovedRisk == Decimal.ofInt 0) = false) then
    some .accountStateInvalid
  else if account.accountRole = .replay then some .accountRoleNotExecutable
  else if account.cleanEquity ≤ policy.equityFloor then some .equityFloorReached
  else if account.openOrderCount ≠ 0 then some .openOrderExists
  else if account.entryReservationActive = true then some .entryReservationActive
  else if policy.maximumLifetimeEntries ≤ account.filledEntryCount then
    some .lifetimeEntryLimitReached
  else if policy.maximumLifetimeRisk < account.lifetimeApprovedRisk + approvedMaxLoss then
    some .lifetimeRiskLimitReached
  else if minimum policy.maximumPositionLoss
      (account.cleanEquity * policy.maximumEquityRiskFraction) < approvedMaxLoss then
    some .positionRiskLimitExceeded
  else if policy.lastEntryBoundary < values.observedDecisionBoundary then some .entryWindowClosed
  else none

/-! ## The decision -/

variable [Digest]

/-- A record of an input, with its hashes. -/
def decisionRecord (policy : OpportunityPolicy) (values : OpportunityInput)
    (outcome : OpportunityOutcome) (reason : OpportunityReason)
    (direction : Option OpportunityDirection) : OpportunityDecisionRecord where
  outcome := outcome
  reasonCodes := [reason]
  opportunityKey := values.opportunityKey
  decisionBoundary := values.observedDecisionBoundary
  direction := direction
  strategy := none
  quantity := none
  approvedMaxLoss := none
  bookFingerprint := values.account.bookFingerprint
  candidateHash := values.candidate.map VerticalCandidate.hash
  inputHash := values.hash
  policyHash := opportunityPolicyHash policy.toOpportunityPolicyFields
  resultHash := ""

/-- The record of an input that is rejected. -/
def rejected (policy : OpportunityPolicy) (values : OpportunityInput) (reason : OpportunityReason)
    (direction : Option OpportunityDirection) : OpportunityDecisionRecord :=
  (decisionRecord policy values .noTrade reason direction).hashed

def entryApproved (policy : OpportunityPolicy) (values : OpportunityInput)
    (direction : OpportunityDirection) (candidate : VerticalCandidate) :
    OpportunityDecisionRecord :=
  { decisionRecord policy values .entryApproved .entryApproved (some direction) with
    strategy := some candidate.strategy
    quantity := some candidate.quantity
    approvedMaxLoss := some (approvedMaxLoss candidate) }.hashed

def evaluateCandidate (policy : OpportunityPolicy) (values : OpportunityInput)
    (direction : OpportunityDirection) (candidate : VerticalCandidate) :
    Except Failure OpportunityDecisionRecord := do
  if candidate.strategy ∉ directionStrategies direction then
    return rejected policy values .verticalDirectionMismatch (some direction)
  else
    match ← optionCandidateFailure policy.toOpportunityPolicyFields values candidate with
    | some reason => return rejected policy values reason (some direction)
    | none =>
        match accountFailure policy.toOpportunityPolicyFields values
            (approvedMaxLoss candidate) with
        | some reason => return rejected policy values reason (some direction)
        | none => return entryApproved policy values direction candidate

/-- The decision on an input under a policy. -/
def evaluateOpportunity (policy : OpportunityPolicy) (values : OpportunityInput) :
    Except Failure OpportunityDecisionRecord :=
  match inputFailure policy values with
  | some reason => .ok (rejected policy values reason none)
  | none =>
      match deriveOpportunityDirection policy.toOpportunityPolicyFields {
          vwapDistance := values.vwapDistance
          relativeReturn := values.relativeReturn
          bullTrendHits := values.bullTrendHits
          bearTrendHits := values.bearTrendHits } with
      | none => .ok (rejected policy values .directionNotConfirmed none)
      | some direction =>
          match values.candidate with
          | none => .ok (rejected policy values .optionCandidateMissing (some direction))
          | some candidate => evaluateCandidate policy values direction candidate

end AlphaDecay.Policy
