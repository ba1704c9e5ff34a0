import AlphaDecay.Agent.Store
import AlphaDecay.Lifecycle.Validation

/-!
# Lifecycle proposals

The order that a tick proposes for an assessment that approves a close or a roll: its legs, the
limits between the middle and the far side of the quotes, the certificate of the assessment and the
intent. Nothing is proposed for any other assessment.
-/

namespace AlphaDecay.Lifecycle

open Foundation
open Agent (ExperimentExecutionLineage)

/-! ## What is proposed -/

structure LifecycleCertificate extends AssessmentCertificate where
  expectedAfterExposure : Option GreekExposure
  experimentLineage : Option ExperimentExecutionLineage := none

structure AuthorizationIntentProposal where
  authorization : LifecycleCertificate
  intent : ExecutionIntent

/-- The order that a decision calls for. -/
def ExecutionDecision.proposedAction : ExecutionDecision → Option ExecutionAction
  | closeApproved => some .close
  | closeRiskOnly => some .close
  | rollApproved => some .roll
  | noAction => none
  | holdCertified => none

/-- The written form of an action inside an event key. -/
def actionKey : ExecutionAction → String
  | .entry => "entry"
  | .close => "close"
  | .roll => "roll"

/-! ## Legs -/

def closingLeg (position : RetainedOptionPosition) : OrderLegIntent where
  symbol := position.symbol
  intent := if zero < position.signedQuantity then .sellToClose else .buyToClose
  ratio := 1

def openingLeg (position : RetainedOptionPosition) : OrderLegIntent where
  symbol := position.symbol
  intent := if zero < position.signedQuantity then .buyToOpen else .sellToOpen
  ratio := 1

/-- The contracts of a spread, from its first position. -/
def contracts : List RetainedOptionPosition → Int
  | [] => 0
  | first :: _ => first.signedQuantity.abs.floorInt

/-- The distance between the strikes of a spread. -/
def verticalWidth (positions : List RetainedOptionPosition) : Except Failure Decimal := do
  let parsed ← parseVertical positions
  return parsed.upper.strike - parsed.lower.strike

/-! ## Limits -/

/-- The prices of a package of legs: in the middle of its quotes, and at their far side. -/
structure PackagePrices where
  midpoint : Decimal
  natural : Decimal

def isBuy (intent : PositionIntent) : Bool :=
  intent == .buyToOpen || intent == .buyToClose

def PackagePrices.addLeg (prices : PackagePrices) (leg : OrderLegIntent)
    (quote : LifecycleOptionObservation) : Except Failure PackagePrices := do
  let middle ← quote.midpoint
  return if isBuy leg.intent then {
      midpoint := prices.midpoint + middle
      natural := prices.natural + quote.askPrice }
    else {
      midpoint := prices.midpoint - middle
      natural := prices.natural - quote.bidPrice }

def packagePrices (legs : List OrderLegIntent) (options : List LifecycleOptionObservation) :
    Except Failure PackagePrices :=
  legs.foldlM (fun prices leg => do
    let quote ← require (options.find? fun item => item.symbol == leg.symbol) .key
    prices.addLeg leg quote) { midpoint := zero, natural := zero }

/-- The options are quoted once each, and are those of the legs. -/
def quotesCover (legs : List OrderLegIntent) (options : List LifecycleOptionObservation) : Bool :=
  decide (options.map fun item => item.symbol).Nodup
    && options.all (fun item => legs.any fun leg => leg.symbol == item.symbol)
    && legs.all (fun leg => options.any fun item => item.symbol == leg.symbol)

/-- The lowest and the highest limit of an order. -/
structure LimitBounds where
  minimumLimit : Decimal
  maximumLimit : Decimal

/-- Limits that the provider takes: neither is free, and neither is worth the whole payoff. -/
def LimitBounds.isTradable (bounds : LimitBounds) (payoffWidth : Decimal) : Bool :=
  !(bounds.minimumLimit == zero || bounds.maximumLimit == zero
    || decide (bounds.maximumLimit < bounds.minimumLimit)
    || decide (payoffWidth ≤ bounds.minimumLimit.abs)
    || decide (payoffWidth ≤ bounds.maximumLimit.abs))

/-- The limits of a package in whole cents, from its middle down and from its far side up. -/
def PackagePrices.limits (prices : PackagePrices) : Except Failure LimitBounds := do
  let minimumLimit ← require (prices.midpoint.quantizeFloor (-2)) .arithmetic
  let maximumLimit ← require (prices.natural.quantizeCeiling (-2)) .arithmetic
  return { minimumLimit, maximumLimit }

/-- The limits of an order for a payoff of some width. -/
def providerLimitBounds (legs : List OrderLegIntent) (options : List LifecycleOptionObservation)
    (payoffWidth : Decimal) : Except Failure LimitBounds := do
  raiseIf (!quotesCover legs options) (.runtime "LIFECYCLE_ORDER_QUOTES_INVALID")
  let prices ← packagePrices legs options
  let bounds ← prices.limits
  raiseIf (!bounds.isTradable payoffWidth) (.runtime "LIFECYCLE_ORDER_PRICE_INVALID")
  return bounds

/-! ## The proposal -/

structure OrderPackage where
  legs : List OrderLegIntent
  options : List LifecycleOptionObservation
  payoffWidth : Decimal

def closePackage (context : RetainedLifecycleContext)
    (observation : LifecycleProviderObservation) : Except Failure OrderPackage := do
  let payoffWidth ← verticalWidth context.expectedPositions
  return {
    legs := context.expectedPositions.map closingLeg
    options := observation.options
    payoffWidth }

/-- The package that closes a position and opens another one. -/
def rollPackage (context : RetainedLifecycleContext) (observation : LifecycleProviderObservation)
    (values : AssessmentInput) (selectedRoll : Option LifecycleRollObservation)
    (expectedAfterExposure : Option GreekExposure) : Except Failure OrderPackage := do
  let roll ← require selectedRoll (.runtime "ROLL_EVIDENCE_REQUIRED")
  raiseIf values.rollCandidate.isNone (.runtime "ROLL_EVIDENCE_REQUIRED")
  raiseIf expectedAfterExposure.isNone (.runtime "ROLL_EXPOSURE_REQUIRED")
  let currentWidth ← verticalWidth context.expectedPositions
  let nextWidth ← verticalWidth roll.positions
  return {
    legs := context.expectedPositions.map closingLeg ++ roll.positions.map openingLeg
    options := observation.options ++ roll.options
    payoffWidth := currentWidth + nextWidth }

def packageOf (context : RetainedLifecycleContext) (observation : LifecycleProviderObservation)
    (values : AssessmentInput) (selectedRoll : Option LifecycleRollObservation)
    (expectedAfterExposure : Option GreekExposure) (action : ExecutionAction) :
    Except Failure OrderPackage :=
  if action = .roll then
    rollPackage context observation values selectedRoll expectedAfterExposure
  else closePackage context observation

/-- The exposure that the one eligible alternative of an assessment expects. -/
def eligibleExposure (result : PolicyResult) : Except Failure (Option GreekExposure) :=
  match result.response.alternatives.filter fun item => item.eligible with
  | [alternative] => .ok alternative.expectedExposure
  | _ => .error (.runtime "LIFECYCLE_ALTERNATIVE_INVALID")

/-- How long the quote of an option authorizes an order. -/
def optionAuthorizationTtl : Int :=
  Calendar.seconds 30

/-- When an authorization expires: with the session, or with the oldest of its quotes. -/
def authorizationExpiry (session : AlpacaMarketSession)
    (options : List LifecycleOptionObservation) : Int :=
  (options.map (fun item => item.quoteObservedAt + optionAuthorizationTtl)
    ++ options.map (fun item => item.retrievedAt + optionAuthorizationTtl)).foldl min
      session.closeAt

variable [Digest]

def lifecycleCertificateId (assessmentId : Uuid) (action : ExecutionAction) : Uuid :=
  Digest.uuid5 ("alphadecay:lifecycle-certificate:" ++ assessmentId.toText ++ ":" ++ action.text)

/-- The envelope of a proposal. Only a roll names its session and its candidate. -/
def proposedEnvelope (context : RetainedLifecycleContext) (session : AlpacaMarketSession)
    (values : AssessmentInput) (action : ExecutionAction) (legs : List OrderLegIntent)
    (bounds : LimitBounds) : OrderEnvelopeFields :=
  let candidate := if action = .roll then values.rollCandidate else none
  { action
    authorizationCertificateId := lifecycleCertificateId values.assessmentId action
    policyHash := context.policyHash
    accountFingerprint := context.accountFingerprint
    positionOrBookFingerprint := context.positionFingerprint
    legs
    quantity := contracts context.expectedPositions
    minimumLimit := bounds.minimumLimit
    maximumLimit := bounds.maximumLimit
    approvedMaxLoss := context.approvedMaxLoss
    eventKey := "lifecycle:" ++ values.assessmentId.toText ++ ":" ++ actionKey action
    tradingDay := session.sessionDate
    marketSessionId := if action = .roll then some session.marketSessionId else none
    quotedRelativeSpread := candidate.map fun roll => roll.relativeSpread
    maximumRelativeSpread := candidate.map fun roll => roll.maximumRelativeSpread
    incrementalDebit := candidate.map fun roll => roll.incrementalDebit
    maximumIncrementalDebit := candidate.map fun roll => roll.maximumIncrementalDebit }

/-- The certificate and the intent of an envelope. -/
def proposalOf (context : RetainedLifecycleContext) (values : AssessmentInput)
    (action : ExecutionAction) (expectedAfterExposure : Option GreekExposure)
    (envelope : OrderEnvelope) (trustedAt expiresAt : Int) : AuthorizationIntentProposal where
  authorization := {
    certificateId := lifecycleCertificateId values.assessmentId action
    assessmentId := values.assessmentId
    thesisVersionId := context.thesisVersionId
    accountRole := context.accountRole
    action
    positionFingerprint := context.positionFingerprint
    envelopeHash := orderEnvelopeHash envelope
    approvedMaxLoss := context.approvedMaxLoss
    quantity := contracts context.expectedPositions
    expectedAfterExposure
    policyHash := context.policyHash
    createdAt := trustedAt
    expiresAt }
  intent := {
    intentId := Digest.uuid5 ("alphadecay:lifecycle-intent:" ++ intentDigest envelope)
    accountRole := context.accountRole
    envelope
    digest := intentDigest envelope
    state := .approved }

def proposeAction (context : RetainedLifecycleContext)
    (observation : LifecycleProviderObservation) (values : AssessmentInput)
    (selectedRoll : Option LifecycleRollObservation) (trustedAt : Int) (result : PolicyResult)
    (action : ExecutionAction) : Except Failure AuthorizationIntentProposal := do
  let session := observation.boundaries.marketSession
  let expectedAfterExposure ← eligibleExposure result
  let package ← packageOf context observation values selectedRoll expectedAfterExposure action
  let bounds ← providerLimitBounds package.legs package.options package.payoffWidth
  let envelope ← OrderEnvelope.make
    (proposedEnvelope context session values action package.legs bounds)
  let expiresAt := authorizationExpiry session package.options
  raiseIf (decide (expiresAt ≤ trustedAt)) (.runtime "LIFECYCLE_AUTHORIZATION_EXPIRED")
  return proposalOf context values action expectedAfterExposure envelope trustedAt expiresAt

/-- The proposal of a tick, where its assessment approves an order. -/
def lifecycleProposal (context : RetainedLifecycleContext)
    (observation : LifecycleProviderObservation) (values : AssessmentInput)
    (selectedRoll : Option LifecycleRollObservation) (trustedAt : Int) :
    Except Failure (Option AuthorizationIntentProposal) := do
  let result ← evaluateAssessment values
  match result.executionDecision.proposedAction with
  | none => return none
  | some action =>
      some <$> proposeAction context observation values selectedRoll trustedAt result action

end AlphaDecay.Lifecycle
