import AlphaDecay.Execution.Identity
import AlphaDecay.Lifecycle.Observation
import AlphaDecay.Selection.Snapshot

/-!
# The checks of a lifecycle tick

A tick accepts the context that a position retains and the observation that the provider makes of
it only after these checks. The two positions are a vertical spread of one expiry in order of
strike, the account holds what is expected of it, and every quote is fresh and in bounds.
-/

namespace AlphaDecay.Lifecycle

open Foundation
open Policy (divide daysUntil)

/-! ## Vertical spreads -/

/-- A `ValueError` raised again as the failure of an acquisition. -/
def asAcquisitionFailure {α : Type} (code : String) : Except Failure α → Except Failure α
  | .error (.value _) => .error (.runtime code)
  | result => result

structure ParsedOption where
  symbol : String
  root : String
  expiry : Calendar.Date
  right : String
  strike : Decimal

/-- The options of a vertical spread, the lower strike first. -/
structure ParsedVertical where
  lower : ParsedOption
  upper : ParsedOption

/-- A whole number of contracts, long or short, within the limit. -/
def validQuantity (value : Decimal) : Bool :=
  value != zero && value.isIntegral && decide (value.abs ≤ .ofInt maxStructuralOptionQuantity)

/-- Read the symbol of a standard contract. -/
def parseContract (symbol : String) : Except Failure ParsedOption :=
  match Selection.parseOptionContractSymbol symbol with
  | .ok contract => do
      raiseIf contract.isAdjusted (.value "NON_STANDARD_CONTRACT_UNSUPPORTED")
      return {
        symbol := symbol
        root := contract.rootSymbol
        expiry := contract.expirationDate
        right := contract.right
        strike := contract.strikePrice }
  | .error _ => .error (.value "VERTICAL_OCC_INVALID")

/-- Two contracts of one root, right and expiry in order of strike, one long and one short. -/
def isVertical (first second : RetainedOptionPosition) (lower upper : ParsedOption) : Bool :=
  lower.root == upper.root && lower.right == upper.right && decide (lower.expiry = upper.expiry)
    && decide (lower.strike < upper.strike)
    && first.multiplier == 100 && second.multiplier == 100
    && validQuantity first.signedQuantity && validQuantity second.signedQuantity
    && decide (zero < first.signedQuantity) != decide (zero < second.signedQuantity)
    && first.signedQuantity.abs == second.signedQuantity.abs

/-- Read the positions of a vertical spread. -/
def parseVertical : List RetainedOptionPosition → Except Failure ParsedVertical
  | [first, second] => do
      let lower ← parseContract first.symbol
      let upper ← parseContract second.symbol
      raiseIf (!isVertical first second lower upper) (.value "VERTICAL_STRUCTURE_INVALID")
      return { lower, upper }
  | _ => .error (.value "VERTICAL_STRUCTURE_INVALID")

/-! ## The retained context -/

/-- A letter or a digit of an option symbol. -/
def isSymbolCharacter (c : Char) : Bool :=
  decide ('A'.toNat ≤ c.toNat ∧ c.toNat ≤ 'Z'.toNat) || Decimal.isDigit c

/-- A position that a fingerprint may cover. -/
def RetainedOptionPosition.isFingerprintable (position : RetainedOptionPosition) : Bool :=
  decide (1 ≤ position.symbol.toList.length ∧ position.symbol.toList.length ≤ 64)
    && position.symbol.toList.all isSymbolCharacter && position.signedQuantity != zero
    && position.signedQuantity.isIntegral && position.multiplier == 100

/-- A position, as the document that a fingerprint covers. -/
def RetainedOptionPosition.material (position : RetainedOptionPosition) : Json :=
  .object [
    ("kind", .text "OPTION"),
    ("symbol", .text position.symbol),
    ("signed_quantity", .text (canonicalDecimal position.signedQuantity)),
    ("multiplier", .number position.multiplier)]

def optionPositionFingerprint [Digest] (positions : List RetainedOptionPosition) :
    Except Failure String := do
  raiseIf (decide (64 < positions.length))
    (.value "MANAGED_POSITION_FINGERPRINT_INVENTORY_INVALID")
  raiseIf (!positions.all RetainedOptionPosition.isFingerprintable)
    (.value "MANAGED_POSITION_FINGERPRINT_INVENTORY_INVALID")
  return Digest.authorityHash (.array (positions.map RetainedOptionPosition.material))

/-- The hash of the authority to trade within a spread. -/
def lifecycleLiquidityAuthorityHash [Digest] (policyHash : String)
    (maximumRelativeSpread : Decimal) : String :=
  Digest.authorityHash (.object [
    ("domain", .text "alphadecay.lifecycle-liquidity-authority.v1"),
    ("value", .object [
      ("maximum_relative_spread", decimalText maximumRelativeSpread),
      ("policy_hash", .text policyHash)])])

namespace RetainedLifecycleContext

/-- The context is that of the account, and its hashes are hashes. -/
def identityFits (context : RetainedLifecycleContext) (authority : ObservedPaperAccountAuthority) :
    Bool :=
  context.accountRole != .replay && context.accountRole == authority.role
    && context.accountFingerprint == authority.accountFingerprint
    && isHash context.policyHash && isHash context.positionFingerprint
    && decide (context.accountLifecycleOriginAt ≤ context.lifecycleOriginAt)
    && decide (context.accountActivityHashes.Pairwise (· < ·))
    && context.accountActivityHashes.all isHash

/-- The thesis was frozen for the policy and the underlying of the position, before it opened. -/
def thesisFits (context : RetainedLifecycleContext) (parsed : ParsedVertical) : Bool :=
  context.thesis.frozen && isHash context.thesis.thesisHash
    && context.thesis.thesis.sourcePolicyHash == context.policyHash
    && decide (context.thesisFrozenAt ≤ context.lifecycleOriginAt)
    && decide (context.lifecycleOriginAt < context.targetAt)
    && parsed.lower.root == context.thesis.thesis.underlying

/-- The numbers of the context that are bounded in magnitude. -/
def decimals (context : RetainedLifecycleContext) : List Decimal :=
  [context.deltaLow, context.deltaHigh, context.vegaLow, context.vegaHigh,
    context.maximumDailyTheta, context.entryAtmIv, context.approvedMaxLoss,
    context.portfolioRiskCap, context.maximumRelativeSpread]

/-- The bands and limits of the context are in range and hold the intended exposure. -/
def boundsFit [Digest] (context : RetainedLifecycleContext) : Bool :=
  let intended := context.thesis.thesis.intendedExposure
  context.decimals.all (fun value => decide (value.abs ≤ maxNumericMagnitude))
    && decide (context.deltaLow ≤ context.deltaHigh) && decide (context.vegaLow ≤ context.vegaHigh)
    && decide (context.deltaLow ≤ intended.delta ∧ intended.delta ≤ context.deltaHigh)
    && decide (context.vegaLow ≤ intended.vegaPerIvPoint ∧
      intended.vegaPerIvPoint ≤ context.vegaHigh)
    && decide ((lesser intended.thetaPerDay zero).abs ≤ context.maximumDailyTheta)
    && decide (zero < context.maximumDailyTheta)
    && decide (1 ≤ context.minimumDte ∧ context.minimumDte ≤ context.maximumDte)
    && decide (zero < context.maximumRelativeSpread ∧ context.maximumRelativeSpread < .ofInt 1)
    && context.liquidityAuthorityHash ==
      lifecycleLiquidityAuthorityHash context.policyHash context.maximumRelativeSpread
    && decide (zero < context.entryAtmIv)
    && decide (zero < context.approvedMaxLoss ∧ context.approvedMaxLoss ≤ maxStructuralApprovedRisk)
    && decide (zero < context.portfolioRiskCap ∧
      context.portfolioRiskCap ≤ maxStructuralLifetimeRisk)

/-- The position was entered once and rolled from then on, in order of time. -/
def transitionsFit (context : RetainedLifecycleContext) : Bool :=
  match context.lifecycleTransitions with
  | [] => false
  | first :: rest =>
      decide (context.lifecycleTransitions.length ≤ 64) && first.action == .entry
        && rest.all (fun item => item.action == .roll)
        && decide ((context.lifecycleTransitions.map fun item => item.occurredAt).Pairwise (· ≤ ·))
        && decide (context.lifecycleOriginAt = first.occurredAt)

/-- The authorities behind the Greeks and the entry were there before the position. -/
def authoritiesFit (context : RetainedLifecycleContext) : Bool :=
  decide (context.greekAuthority.effectiveAt ≤ context.lifecycleOriginAt)
    && context.launchAuthority.entryPolicyHash == context.policyHash
    && decide (context.launchAuthority.entryBoundaryAt ≤ context.thesisFrozenAt)

end RetainedLifecycleContext

/-- Check the context that a position retains. The quantities were checked with the spread. -/
def validateContext [Digest] (context : RetainedLifecycleContext)
    (authority : ObservedPaperAccountAuthority) : Except Failure Unit := do
  let parsed ← asAcquisitionFailure "RETAINED_CONTEXT_INVALID"
    (parseVertical context.expectedPositions)
  raiseIf (!(context.identityFits authority && context.thesisFits parsed))
    (.runtime "RETAINED_CONTEXT_INVALID")
  let fingerprint ← optionPositionFingerprint context.expectedPositions
  raiseIf (!(fingerprint == context.positionFingerprint && context.boundsFit
    && context.transitionsFit && context.authoritiesFit)) (.runtime "RETAINED_CONTEXT_INVALID")

/-! ## Options -/

/-- Require observations of fitting ages. -/
def requireFresh (trustedAt : Int) (inputs : List FreshnessInput) : Except Failure Unit :=
  match checkFreshness trustedAt inputs with
  | [] => .ok ()
  | failure :: _ => .error (.runtime failure)

/-- The quote and the Greeks of an option are in bounds and come from their authority. -/
def LifecycleOptionObservation.isInBounds (item : LifecycleOptionObservation)
    (authority : GreekAuthorityEvidence) : Bool :=
  item.multiplier == 100 && item.active && item.tradable && item.feed == "indicative"
    && decide (zero < item.bidPrice) && decide (item.bidPrice ≤ item.askPrice)
    && decide (item.askPrice ≤ maxNumericMagnitude)
    && decide (.ofInt (-1) ≤ item.delta ∧ item.delta ≤ .ofInt 1)
    && decide (zero ≤ item.gamma ∧ item.gamma ≤ .ofInt 10)
    && decide (item.thetaPerDay.abs ≤ .ofInt 1000)
    && decide (zero ≤ item.vegaPerIvPoint ∧ item.vegaPerIvPoint ≤ .ofInt 1000)
    && decide (item.greekAuthorityId = authority.authorityId)
    && decide (item.quoteObservedAt ≤ item.retrievedAt)
    && item.greekObservedAt.any (fun observedAt => decide (observedAt ≤ item.retrievedAt))
    && isHash item.greekTimestampSourceHash && isHash item.greekUnitsSourceHash
    && isHash item.sourceHash
    && item.greekUnitsSourceHash == authority.unitsSourceHash
    && item.greekTimestampSourceHash == authority.timestampContractHash
    && item.greekTimestampSourceHash != item.sourceHash

/-- Check one option. -/
def validateOption (trustedAt : Int) (authority : GreekAuthorityEvidence)
    (item : LifecycleOptionObservation) : Except Failure Unit := do
  raiseIf (!item.isInBounds authority) (.runtime "OPTION_EVIDENCE_INVALID")
  requireFresh trustedAt
    ([item.quoteObservedAt] ++ item.greekObservedAt.toList ++ [item.retrievedAt] |>.map
      fun observedAt => { kind := .optionSnapshot, observedAt })

/-- The middle of a quote. -/
def LifecycleOptionObservation.midpoint (item : LifecycleOptionObservation) :
    Except Failure Decimal :=
  divide (item.bidPrice + item.askPrice) (.ofInt 2)

/-- What closing one contract brings, at the far side of the quote. -/
def LifecycleOptionObservation.closePrice (item : LifecycleOptionObservation) : Decimal :=
  if zero < item.signedQuantity then item.bidPrice else negated item.askPrice

/-- The quotes of a spread are in order, and closing it is worth less than its width. -/
def quotesFit (parsed : ParsedVertical) (first second : LifecycleOptionObservation)
    (lowerMid upperMid : Decimal) : Bool :=
  first.sourceHash != second.sourceHash && decide (second.delta < first.delta)
    && !(parsed.lower.right == "C" && decide (lowerMid ≤ upperMid))
    && !(parsed.lower.right == "P" && decide (upperMid ≤ lowerMid))
    && decide ((first.closePrice + second.closePrice).abs <
      parsed.upper.strike - parsed.lower.strike)

/-- The options are those of the positions, in their order. -/
def optionsMatch (positions : List RetainedOptionPosition)
    (options : List LifecycleOptionObservation) : Bool :=
  options.length == 2
    && options.map (fun item => item.symbol) == positions.map (fun item => item.symbol)
    && options.map (fun item => item.signedQuantity) ==
      positions.map (fun item => item.signedQuantity)

/-- Check the order of the quotes of a spread. -/
def validateQuotes (parsed : ParsedVertical) :
    List LifecycleOptionObservation → Except Failure Unit
  | [first, second] => do
      let lowerMid ← first.midpoint
      let upperMid ← second.midpoint
      raiseIf (!quotesFit parsed first second lowerMid upperMid)
        (.runtime "OPTION_STRUCTURE_INVALID")
  | _ => .error (.runtime "OPTION_EVIDENCE_INCOMPLETE")

/-- Check the options of a vertical spread. -/
def validateOptionEvidence (positions : List RetainedOptionPosition)
    (options : List LifecycleOptionObservation) (trustedAt : Int)
    (authority : GreekAuthorityEvidence) : Except Failure (List LifecycleOptionObservation) := do
  let parsed ← asAcquisitionFailure "OPTION_STRUCTURE_INVALID" (parseVertical positions)
  raiseIf (!optionsMatch positions options) (.runtime "OPTION_EVIDENCE_INCOMPLETE")
  checkEach (validateOption trustedAt authority) options
  validateQuotes parsed options
  return options

/-! ## The account -/

/-- An account may execute orders. -/
def isExecutable (account : AccountObservation) : Bool :=
  account.status == "ACTIVE" && !account.accountBlocked && !account.tradingBlocked
    && !account.optionsTradingBlocked

/-- The sweep read everything there is to read of the account, twice with the same result. -/
def sweepIsComplete (sweep : SweepObservation) : Bool :=
  sweep.positionsComplete && sweep.ordersComplete && sweep.activityPagination.complete
    && decide (sweep.activityPagination.requestedEnd - sweep.activityPagination.visibilityHorizon ≤
      sweep.activityPagination.visibilityCompleteThrough)
    && decide (sweep.retrievalCompletedAt - sweep.retrievalStartedAt ≤ Calendar.seconds 15)
    && sweep.firstPositions == sweep.finalPositions
    && sweep.firstOpenOrders == sweep.finalOpenOrders
    && decide (sweep.activities.length ≤ 4096)

/-- The hashes of the activities but the first funding. -/
def observedKnownActivityHashes (sweep : SweepObservation) : List String :=
  (sweep.activities.filter fun item => item.activityType != .initialFunding).map
    fun item => item.activityIdHash

/-- The two reads of the account agree. Equity and buying power move with the marks of options. -/
def accountIsStable (first final : AccountObservation) : Bool :=
  decide (first.role = final.role ∧ first.accountFingerprint = final.accountFingerprint ∧
    first.paper = final.paper ∧ first.status = final.status ∧
    first.accountBlocked = final.accountBlocked ∧ first.tradingBlocked = final.tradingBlocked ∧
    first.optionsTradingBlocked = final.optionsTradingBlocked) && first.cash == final.cash

/-- An activity that a managed position does not explain. -/
def isUnsafe (expected : List String) (item : ActivityItem) : Bool :=
  item.activityType.isAssignment || item.activityType.isAccountAdjustment
    || (item.activityType != .initialFunding && !expected.contains item.activityIdHash)

/-- The inventory that the managed positions of the account make up. -/
def expectedInventory (context : RetainedLifecycleContext) : Except Failure (List InventoryItem) :=
  context.accountExpectedPositions.mapM fun item => InventoryItem.make {
    kind := .option
    symbol := item.symbol
    signedQuantity := item.signedQuantity
    multiplier := item.multiplier }

/-- Check the accounts of a sweep. -/
def validateAccounts (accounts : List AccountObservation)
    (authority : ObservedPaperAccountAuthority) : Except Failure Unit := do
  raiseIf (accounts.any fun account => account.role != authority.role
    || account.accountFingerprint != authority.accountFingerprint)
    (.runtime "OBSERVED_ACCOUNT_AUTHORITY_MISMATCH")
  raiseIf (accounts.any fun account => !account.paper) (.runtime "PAPER_TRADING_REQUIRED")
  raiseIf (accounts.any fun account => !isExecutable account) (.runtime "ACCOUNT_NOT_EXECUTABLE")

/-- Check the sweep of the whole account: its activities are those of every active managed
position, from the earliest active origin on. -/
def validateSweep (context : RetainedLifecycleContext) (sweep : SweepObservation)
    (authority : ObservedPaperAccountAuthority) : Except Failure Unit := do
  validateAccounts [sweep.firstAccount, sweep.finalAccount] authority
  raiseIf (!sweepIsComplete sweep) (.runtime "LIFECYCLE_ACCOUNT_EVIDENCE_INCOMPLETE")
  -- Sorted lists are equal when one is a permutation of the other.
  raiseIf (sweep.activityPagination.requestedStart != context.accountLifecycleOriginAt
    || !(observedKnownActivityHashes sweep).isPerm context.accountActivityHashes)
    (.runtime "ACTIVITY_LINEAGE_INCOMPLETE")
  raiseIf (!accountIsStable sweep.firstAccount sweep.finalAccount)
    (.runtime "LIFECYCLE_ACCOUNT_EVIDENCE_UNSTABLE")
  raiseIf (!sweep.finalOpenOrders.isEmpty) (.runtime "OPEN_ORDER_EXISTS")
  raiseIf (sweep.activities.any (isUnsafe context.accountActivityHashes))
    (.runtime "ACCOUNT_ACTIVITY_UNSAFE")
  let expected ← expectedInventory context
  raiseIf (sweep.finalPositions != expected) (.runtime "UNEXPECTED_ACCOUNT_INVENTORY")

/-! ## The market -/

/-- The implied volatility is that of the underlying, in bounds and from two sources. -/
def AtmIvObservation.isValid (atmIv : AtmIvObservation) (underlying : String) : Bool :=
  atmIv.underlying == underlying && !atmIv.underlying.isEmpty
    && decide (zero < atmIv.value) && decide (atmIv.value ≤ hundred) && atmIv.feed == "indicative"
    && decide (atmIv.observedAt ≤ atmIv.retrievedAt)
    && [atmIv.sourceHash, atmIv.requestHash, atmIv.callSourceHash, atmIv.putSourceHash].all isHash
    && atmIv.callSourceHash != atmIv.putSourceHash

/-- A bar that confirms the price is in bounds. -/
def PriceConfirmationPoint.isValid (point : PriceConfirmationPoint) : Bool :=
  [point.sourceHash, point.underlyingBarSourceHash, point.benchmarkBarSourceHash].all isHash
    && decide (point.vwapSide.abs ≤ maxNumericMagnitude)
    && decide (point.relativeReturnSide.abs ≤ maxNumericMagnitude)

/-- How far ahead of the trusted time a session may be retrieved. -/
def retrievalSkewTolerance : Int :=
  Calendar.seconds 30

/-- Check the boundaries of the session. -/
def validateBoundaries (boundaries : LifecycleBoundaryObservation) (trustedAt : Int) :
    Except Failure Unit := do
  let session := boundaries.marketSession
  raiseIf (!(decide (session.openAt ≤ trustedAt ∧ trustedAt ≤ session.closeAt)
    && decide (session.retrievedAt - trustedAt ≤ retrievalSkewTolerance)
    && isHash boundaries.sourceHash && boundaries.priceConfirmation.length == 2
    && boundaries.priceConfirmation.all PriceConfirmationPoint.isValid
    && decide ((boundaries.priceConfirmation.map fun point => point.completedBarAt).Pairwise
      (· < ·))
    && boundaries.weekendCloseAt.isSome && boundaries.contestEndAt.isSome))
    (.runtime "BOUNDARY_EVIDENCE_INVALID")
  requireFresh trustedAt (
    boundaries.observedAt :: (boundaries.priceConfirmation.map fun point => point.completedBarAt)
      |>.map fun observedAt => { kind := .completedBar, observedAt })

/-- The underlying is that of the thesis, and its bars are the last ones that confirm the price. -/
def UnderlyingMarketObservation.isValid (underlying : UnderlyingMarketObservation)
    (context : RetainedLifecycleContext) (boundaries : LifecycleBoundaryObservation) : Bool :=
  underlying.underlying == context.thesis.thesis.underlying
    && decide (zero < underlying.bidPrice) && decide (underlying.bidPrice ≤ underlying.askPrice)
    && decide (underlying.askPrice ≤ maxNumericMagnitude)
    && decide (underlying.quoteObservedAt ≤ underlying.quoteRetrievedAt)
    && [underlying.quoteSourceHash, underlying.completedBarSourceHash, underlying.requestHash,
      underlying.benchmarkCompletedBarSourceHash].all isHash
    && underlying.benchmarkSymbol == context.launchAuthority.benchmarkSymbol
    && boundaries.priceConfirmation.getLast?.all fun last =>
      decide (underlying.completedBarAt = last.completedBarAt)
      && underlying.completedBarSourceHash == last.underlyingBarSourceHash
      && decide (underlying.benchmarkCompletedBarAt = last.completedBarAt)
      && underlying.benchmarkCompletedBarSourceHash == last.benchmarkBarSourceHash

/-- The observations of a sweep, the underlying and the volatility whose ages are limited. -/
def marketFreshness (observation : LifecycleProviderObservation) : List FreshnessInput :=
  let sweep := observation.sweep
  let underlying := observation.underlying
  [{ kind := .account, observedAt := sweep.finalAccount.observedAt },
    { kind := .positions, observedAt := sweep.retrievalCompletedAt },
    { kind := .openOrders, observedAt := sweep.retrievalCompletedAt },
    { kind := .underlyingQuote, observedAt := underlying.quoteObservedAt },
    { kind := .underlyingQuote, observedAt := underlying.quoteRetrievedAt },
    { kind := .completedBar, observedAt := underlying.completedBarAt },
    { kind := .optionSnapshot, observedAt := observation.atmIv.observedAt },
    { kind := .optionSnapshot, observedAt := observation.atmIv.retrievedAt }]

/-- The times of the market that have to lie close together. -/
def synchronizedTimes (observation : LifecycleProviderObservation)
    (options replacementOptions : List LifecycleOptionObservation) : List Int :=
  [observation.underlying.quoteObservedAt, observation.atmIv.observedAt,
    observation.boundaries.observedAt] ++ options.map (fun item => item.quoteObservedAt)
    ++ options.filterMap (fun item => item.greekObservedAt)
    ++ replacementOptions.map (fun item => item.quoteObservedAt)
    ++ replacementOptions.filterMap (fun item => item.greekObservedAt)

/-- How far apart the times of the market may lie. -/
def marketSyncWindow : Int :=
  Calendar.seconds 5

/-- Check that no two times lie further apart than the window. -/
def validateSynchronized (times : List Int) : Except Failure Unit :=
  raiseIf (times.any fun later => times.any fun earlier => decide (marketSyncWindow <
    later - earlier))
    (.runtime "MARKET_EVIDENCE_NOT_SYNCHRONIZED")

/-! ## The observation -/

/-- What closing a spread brings, at the far side of its quotes. -/
def closeCashflow (options : List LifecycleOptionObservation) : Decimal :=
  options.foldl (fun total item =>
    total + item.closePrice * item.signedQuantity.abs * .ofInt item.multiplier) zero

/-- What the transitions of a position brought. -/
def cumulativeCashflow (context : RetainedLifecycleContext) : Decimal :=
  context.lifecycleTransitions.foldl (fun total item => total + item.cashflow) zero

structure ValidatedObservation where
  options : List LifecycleOptionObservation
  dte : Int
  liquidationPnl : Decimal

/-- Check the options of the roll, where the provider observed one. -/
def validateRoll (context : RetainedLifecycleContext) (observation : LifecycleProviderObservation)
    (trustedAt : Int) : Except Failure (List LifecycleOptionObservation) :=
  match observation.roll with
  | none => .ok []
  | some roll =>
      validateOptionEvidence roll.positions roll.options trustedAt context.greekAuthority

/-- Check the observation that a provider makes of a position. -/
def validateObservation (context : RetainedLifecycleContext)
    (observation : LifecycleProviderObservation) (authority : ObservedPaperAccountAuthority)
    (trustedAt : Int) : Except Failure ValidatedObservation := do
  validateSweep context observation.sweep authority
  let options ← validateOptionEvidence context.expectedPositions observation.options trustedAt
    context.greekAuthority
  let replacementOptions ← validateRoll context observation trustedAt
  raiseIf (!observation.atmIv.isValid context.thesis.thesis.underlying)
    (.runtime "ATM_IV_EVIDENCE_INVALID")
  validateBoundaries observation.boundaries trustedAt
  raiseIf (!observation.underlying.isValid context observation.boundaries)
    (.runtime "LIFECYCLE_MARKET_TIMESTAMP_INVALID")
  requireFresh trustedAt (marketFreshness observation)
  validateSynchronized (synchronizedTimes observation options replacementOptions)
  let parsed ← parseVertical context.expectedPositions
  return {
    options
    dte := daysUntil trustedAt parsed.lower.expiry
    liquidationPnl := cumulativeCashflow context + closeCashflow options }

end AlphaDecay.Lifecycle
