import AlphaDecay.Execution.Observations
import AlphaDecay.Lifecycle.Assessment

/-!
# What a lifecycle tick retains and observes

The context that an open position keeps from its entry, and the observation of the provider that a
tick makes of it: the sweep of the account, the underlying, the options of the position, the
volatility and the boundaries of the session. Values with a check of their own construction are
built by `make`, so a value of one of these types has passed that check.
-/

namespace AlphaDecay.Lifecycle

open Foundation

/-! ## The retained context -/

/-- The largest magnitude of a number that an acquisition accepts. -/
def maxNumericMagnitude : Decimal :=
  .ofInt 1000000000

structure ObservedPaperAccountFields where
  role : AccountRole
  accountFingerprint : String
  paper : Bool
  persistentAutonomyEnabled : Bool
deriving DecidableEq

/-- The check made when an observed account is built. -/
def ObservedPaperAccountFields.postInit (account : ObservedPaperAccountFields) :
    Except Failure Unit :=
  raiseIf (account.role == .replay || !account.paper || !isHash account.accountFingerprint)
    (.value "OBSERVED_PAPER_ACCOUNT_AUTHORITY_INVALID")

structure ObservedPaperAccountAuthority extends ObservedPaperAccountFields where
  valid : toObservedPaperAccountFields.postInit = .ok ()

structure RetainedOptionPosition where
  symbol : String
  signedQuantity : Decimal
  multiplier : Int
deriving DecidableEq

structure GreekAuthorityFields where
  authorityId : Uuid
  version : Int
  effectiveAt : Int
  timestampContractHash : String
  unitsSourceHash : String

/-- The check made when the authority behind Greeks is built. -/
def GreekAuthorityFields.postInit (authority : GreekAuthorityFields) : Except Failure Unit :=
  raiseIf (decide (authority.version < 1) || !isHash authority.timestampContractHash
    || !isHash authority.unitsSourceHash) (.value "GREEK_AUTHORITY_INVALID")

structure GreekAuthorityEvidence extends GreekAuthorityFields where
  valid : toGreekAuthorityFields.postInit = .ok ()

/-- The actions that lead from one spread to the next. -/
inductive TransitionAction where
  | entry
  | roll
deriving DecidableEq, Repr

structure RetainedTransitionFields where
  action : TransitionAction
  occurredAt : Int
  marketSessionId : Uuid
  cashflow : Decimal
  activityHashes : List String

/-- The check made when a transition is built. -/
def RetainedTransitionFields.postInit (transition : RetainedTransitionFields) :
    Except Failure Unit :=
  raiseIf (decide (maxNumericMagnitude < transition.cashflow.abs)
    || !decide (transition.activityHashes.Pairwise (· < ·))
    || decide (64 < transition.activityHashes.length)
    || !transition.activityHashes.all isHash) (.value "LIFECYCLE_TRANSITION_INVALID")

/-- An entry or a roll that a position went through. -/
structure RetainedLifecycleTransition extends RetainedTransitionFields where
  valid : toRetainedTransitionFields.postInit = .ok ()

structure LaunchAuthorityFields where
  beta60 : Decimal
  benchmarkSymbol : String
  entryBoundaryAt : Int
  entryPolicyHash : String
  underlyingSourceHash : String
  benchmarkSourceHash : String
  completedBarSourceHash : String

/-- The check made when a launch authority is built. -/
def LaunchAuthorityFields.postInit (authority : LaunchAuthorityFields) : Except Failure Unit :=
  raiseIf (!(decide (zero < authority.beta60 ∧ authority.beta60 ≤ .ofInt 3)
    && authority.benchmarkSymbol == "QQQ"
    && [authority.entryPolicyHash, authority.underlyingSourceHash, authority.benchmarkSourceHash,
      authority.completedBarSourceHash].all isHash)) (.value "LIFECYCLE_LAUNCH_AUTHORITY_INVALID")

structure LifecycleLaunchAuthority extends LaunchAuthorityFields where
  valid : toLaunchAuthorityFields.postInit = .ok ()

/-- What a thesis says of the position that it opens. -/
structure ThesisCreateRequest where
  underlying : String
  intendedExposure : GreekExposure
  sourcePolicyHash : String

structure ThesisResponse where
  frozen : Bool
  thesisHash : String
  thesis : ThesisCreateRequest

/-- The context that an open position keeps. -/
structure RetainedLifecycleContext where
  thesisVersionId : Uuid
  accountRole : AccountRole
  accountFingerprint : String
  policyHash : String
  thesis : ThesisResponse
  thesisFrozenAt : Int
  lifecycleOriginAt : Int
  lifecycleTransitions : List RetainedLifecycleTransition
  targetAt : Int
  positionFingerprint : String
  expectedPositions : List RetainedOptionPosition
  accountExpectedPositions : List RetainedOptionPosition
  accountActivityHashes : List String
  accountLifecycleOriginAt : Int
  deltaLow : Decimal
  deltaHigh : Decimal
  vegaLow : Decimal
  vegaHigh : Decimal
  maximumDailyTheta : Decimal
  minimumDte : Int
  maximumDte : Int
  maximumRelativeSpread : Decimal
  liquidityAuthorityHash : String
  volatilityView : VolatilityView
  entryAtmIv : Decimal
  approvedMaxLoss : Decimal
  portfolioRiskCap : Decimal
  greekAuthority : GreekAuthorityEvidence
  launchAuthority : LifecycleLaunchAuthority

/-! ## The observation of the provider -/

structure LifecycleOptionObservation where
  symbol : String
  signedQuantity : Decimal
  multiplier : Int
  active : Bool
  tradable : Bool
  feed : String
  bidPrice : Decimal
  askPrice : Decimal
  delta : Decimal
  gamma : Decimal
  thetaPerDay : Decimal
  vegaPerIvPoint : Decimal
  quoteObservedAt : Int
  greekObservedAt : Option Int
  retrievedAt : Int
  greekAuthorityId : Uuid
  greekTimestampSourceHash : String
  greekUnitsSourceHash : String
  sourceHash : String

/-- The implied volatility at the money. -/
structure AtmIvObservation where
  underlying : String
  value : Decimal
  feed : String
  observedAt : Int
  retrievedAt : Int
  sourceHash : String
  requestHash : String
  callSourceHash : String
  putSourceHash : String

/-- A completed bar, against its average price and against the benchmark. -/
structure PriceConfirmationPoint where
  completedBarAt : Int
  vwapSide : Decimal
  relativeReturnSide : Decimal
  sourceHash : String
  underlyingBarSourceHash : String
  benchmarkBarSourceHash : String

structure UnderlyingMarketObservation where
  underlying : String
  bidPrice : Decimal
  askPrice : Decimal
  quoteObservedAt : Int
  quoteRetrievedAt : Int
  quoteSourceHash : String
  completedBarAt : Int
  completedBarSourceHash : String
  requestHash : String
  benchmarkSymbol : String
  benchmarkCompletedBarAt : Int
  benchmarkCompletedBarSourceHash : String

structure MarketSessionFields where
  marketSessionId : Uuid
  sessionDate : Calendar.Date
  openAt : Int
  closeAt : Int
  sourceHash : String
  requestHash : String
  retrievedAt : Int

/-- The check made when a market session is built. -/
def MarketSessionFields.postInit (session : MarketSessionFields) : Except Failure Unit :=
  raiseIf (decide (session.closeAt ≤ session.openAt) || !isHash session.sourceHash
    || !isHash session.requestHash) (.value "ALPACA_MARKET_SESSION_INVALID")

structure AlpacaMarketSession extends MarketSessionFields where
  valid : toMarketSessionFields.postInit = .ok ()

structure LifecycleBoundaryObservation where
  marketSession : AlpacaMarketSession
  observedAt : Int
  sourceHash : String
  priceConfirmation : List PriceConfirmationPoint
  shortCallCloseAt : Option Int
  weekendCloseAt : Option Int
  contestEndAt : Option Int

/-- A spread that the position could be rolled to, with its quotes. -/
structure LifecycleRollObservation where
  positions : List RetainedOptionPosition
  options : List LifecycleOptionObservation

/-- Everything that a tick observes of a position. -/
structure LifecycleProviderObservation where
  sweep : SweepObservation
  underlying : UnderlyingMarketObservation
  options : List LifecycleOptionObservation
  atmIv : AtmIvObservation
  boundaries : LifecycleBoundaryObservation
  roll : Option LifecycleRollObservation := none
  rollCandidates : List LifecycleRollObservation := []

end AlphaDecay.Lifecycle
