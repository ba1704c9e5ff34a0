import AlphaDecay.Execution.OrderLimits
import AlphaDecay.Execution.OrderStatus

/-!
# Execution models

The order envelope that an approval authorizes, the execution intent that carries it through its
life, the attempts to place its order and the certificate of its outcome. Equality of these values
is the equality of their fields, where decimals are equal when their values are.
-/

namespace AlphaDecay

open Foundation

/-- What an order does to the position. -/
inductive ExecutionAction where
  | entry
  | close
  | roll
deriving DecidableEq, Repr

/-- The life of an execution intent. -/
inductive IntentState where
  | approved
  | claimed
  | terminal
deriving DecidableEq, Repr

/-- The written form of an action. -/
def ExecutionAction.text : ExecutionAction → String
  | entry => "ENTRY"
  | close => "CLOSE"
  | roll => "ROLL"

structure OrderLegIntent where
  symbol : String
  intent : PositionIntent
  ratio : Int
deriving DecidableEq, Repr

/-- Equality of optional decimals by value. -/
def sameDecimal : Option Decimal → Option Decimal → Bool
  | none, none => true
  | some a, some b => a == b
  | _, _ => false

@[simp] theorem sameDecimal_none {value : Option Decimal} :
    sameDecimal value none = true ↔ value = none := by
  cases value <;> simp [sameDecimal]

structure OrderEnvelopeFields where
  action : ExecutionAction
  authorizationCertificateId : Uuid
  policyHash : String
  accountFingerprint : String
  positionOrBookFingerprint : String
  legs : List OrderLegIntent
  quantity : Int
  minimumLimit : Decimal
  maximumLimit : Decimal
  approvedMaxLoss : Decimal
  eventKey : String
  tradingDay : Calendar.Date
  marketSessionId : Option Uuid := none
  quotedRelativeSpread : Option Decimal := none
  maximumRelativeSpread : Option Decimal := none
  incrementalDebit : Option Decimal := none
  maximumIncrementalDebit : Option Decimal := none
deriving DecidableEq, Repr

/-- A decimal has no digits beyond ten places, or the check of that is itself impossible. -/
def fitsTenPlaces (value : Decimal) : Except Failure Bool := do
  let rounded ← require (value.quantize (-10)) .arithmetic
  return value == rounded

/-- The check of the authority that only a roll carries. -/
def OrderEnvelopeFields.rollAuthority (envelope : OrderEnvelopeFields) : Except Failure Unit :=
  match envelope.marketSessionId, envelope.quotedRelativeSpread, envelope.maximumRelativeSpread,
    envelope.incrementalDebit, envelope.maximumIncrementalDebit with
  | some _, some quoted, some maximum, some debit, some maximumDebit => do
      raiseIf (!decide (Decimal.ofInt 0 ≤ quoted ∧ quoted ≤ maximum ∧ maximum < Decimal.ofInt 1))
        (.value "ROLL_AUTHORITY_OUT_OF_BOUNDS")
      let quotedFits ← fitsTenPlaces quoted
      raiseIf (!quotedFits) (.value "ROLL_AUTHORITY_OUT_OF_BOUNDS")
      let maximumFits ← fitsTenPlaces maximum
      raiseIf (!maximumFits) (.value "ROLL_AUTHORITY_OUT_OF_BOUNDS")
      raiseIf (!decide (Decimal.ofInt 0 ≤ debit ∧ debit ≤ maximumDebit ∧
        maximumDebit ≤ envelope.approvedMaxLoss)) (.value "ROLL_AUTHORITY_OUT_OF_BOUNDS")
  | _, _, _, _, _ => .error (.value "ROLL_AUTHORITY_OUT_OF_BOUNDS")

/-- The check made when an envelope is built. -/
def OrderEnvelopeFields.postInit (envelope : OrderEnvelopeFields) : Except Failure Unit := do
  let expectedLegs := if envelope.action = .roll then 4 else 2
  raiseIf (envelope.legs.length != expectedLegs ||
    !decide (1 ≤ envelope.quantity ∧ envelope.quantity ≤ maxStructuralOptionQuantity))
    (.value "ORDER_STRUCTURE_OUT_OF_BOUNDS")
  raiseIf (decide (envelope.minimumLimit > envelope.maximumLimit))
    (.value "PRICE_ENVELOPE_INVALID")
  raiseIf (!decide (Decimal.ofInt 0 < envelope.approvedMaxLoss ∧
    envelope.approvedMaxLoss ≤ maxStructuralApprovedRisk)) (.value "APPROVED_RISK_OUT_OF_BOUNDS")
  if envelope.action = .roll then envelope.rollAuthority
  else
    raiseIf (envelope.marketSessionId.isSome || envelope.quotedRelativeSpread.isSome ||
      envelope.maximumRelativeSpread.isSome || envelope.incrementalDebit.isSome ||
      envelope.maximumIncrementalDebit.isSome) (.value "ROLL_AUTHORITY_UNEXPECTED")

structure OrderEnvelope extends OrderEnvelopeFields where
  valid : toOrderEnvelopeFields.postInit = .ok ()

/-- Build an envelope, or say why it is invalid. -/
def OrderEnvelope.make (fields : OrderEnvelopeFields) : Except Failure OrderEnvelope :=
  build OrderEnvelopeFields.postInit (fun fields valid => { fields with valid }) fields

/-- Equality of envelopes, decimals by value. -/
instance : BEq OrderEnvelope where
  beq a b :=
    decide (a.action = b.action ∧
      a.authorizationCertificateId = b.authorizationCertificateId ∧
      a.policyHash = b.policyHash ∧ a.accountFingerprint = b.accountFingerprint ∧
      a.positionOrBookFingerprint = b.positionOrBookFingerprint ∧ a.legs = b.legs ∧
      a.quantity = b.quantity ∧ a.eventKey = b.eventKey ∧ a.tradingDay = b.tradingDay ∧
      a.marketSessionId = b.marketSessionId) &&
    a.minimumLimit == b.minimumLimit && a.maximumLimit == b.maximumLimit &&
    a.approvedMaxLoss == b.approvedMaxLoss &&
    sameDecimal a.quotedRelativeSpread b.quotedRelativeSpread &&
    sameDecimal a.maximumRelativeSpread b.maximumRelativeSpread &&
    sameDecimal a.incrementalDebit b.incrementalDebit &&
    sameDecimal a.maximumIncrementalDebit b.maximumIncrementalDebit

structure ExecutionIntent where
  intentId : Uuid
  accountRole : AccountRole
  envelope : OrderEnvelope
  digest : String
  state : IntentState
  claimedBy : Option Actor := none
  claimedAt : Option Int := none
  firstFillConsumed : Bool := false
  claimToken : Option Uuid := none
  claimGeneration : Int := 0
  executionEpoch : Int := 0
  heartbeatAt : Option Int := none
  leaseExpiresAt : Option Int := none

/-- One attempt to place the order of an intent. Timestamps are in microseconds. -/
structure OrderAttempt where
  intentId : Uuid
  ordinal : Int
  clientOrderId : String
  requestHash : String
  state : AttemptState
  replacesClientOrderId : Option String := none
  providerOrderId : Option String := none
  filledQuantity : Int := 0
  quantity : Int := 0
  fillCashFlow : Option Decimal := none
  limitPrice : Option Decimal := none
  quoteHash : Option String := none
  quoteSourceTimestamps : List Int := []
  quoteRetrievedAt : Option Int := none
  timingAuthorityAt : Option Int := none
  priorRequestHash : Option String := none
deriving DecidableEq, Repr

/-- Equality of attempts, decimals by value. -/
instance : BEq OrderAttempt where
  beq a b :=
    decide (a.intentId = b.intentId ∧ a.ordinal = b.ordinal ∧ a.clientOrderId = b.clientOrderId ∧
      a.requestHash = b.requestHash ∧ a.state = b.state ∧
      a.replacesClientOrderId = b.replacesClientOrderId ∧
      a.providerOrderId = b.providerOrderId ∧ a.filledQuantity = b.filledQuantity ∧
      a.quantity = b.quantity ∧ a.quoteHash = b.quoteHash ∧
      a.quoteSourceTimestamps = b.quoteSourceTimestamps ∧
      a.quoteRetrievedAt = b.quoteRetrievedAt ∧ a.timingAuthorityAt = b.timingAuthorityAt ∧
      a.priorRequestHash = b.priorRequestHash) &&
    sameDecimal a.fillCashFlow b.fillCashFlow && sameDecimal a.limitPrice b.limitPrice

variable {a b : OrderAttempt}

theorem OrderAttempt.filledQuantity_of_beq (h : (a == b) = true) :
    a.filledQuantity = b.filledQuantity := by
  obtain ⟨hfields, -⟩ := Bool.and_eq_true_iff.mp h
  obtain ⟨hfields, -⟩ := Bool.and_eq_true_iff.mp hfields
  exact (of_decide_eq_true hfields).2.2.2.2.2.2.2.1

theorem OrderAttempt.state_of_beq (h : (a == b) = true) : a.state = b.state := by
  obtain ⟨hfields, -⟩ := Bool.and_eq_true_iff.mp h
  obtain ⟨hfields, -⟩ := Bool.and_eq_true_iff.mp hfields
  exact (of_decide_eq_true hfields).2.2.2.2.1

theorem OrderAttempt.limitPrice_of_beq (h : (a == b) = true) :
    sameDecimal a.limitPrice b.limitPrice = true :=
  (Bool.and_eq_true_iff.mp h).2

structure GreekExposure where
  delta : Decimal
  gamma : Decimal
  thetaPerDay : Decimal
  vegaPerIvPoint : Decimal
deriving DecidableEq, Repr

/-- Equality of exposures by value. -/
instance : BEq GreekExposure where
  beq a b := a.delta == b.delta && a.gamma == b.gamma && a.thetaPerDay == b.thetaPerDay &&
    a.vegaPerIvPoint == b.vegaPerIvPoint

/-- What a reconciliation found, as finalization reads it. -/
structure Reconciliation where
  terminal : Bool
  remainderAbsent : Bool
  matchesExpected : Bool
  assignmentSuspected : Bool
  actualExposure : Option GreekExposure

structure EntryApprovalAuthorization where
  approvalId : Uuid
  thesisVersionId : Uuid
  accountRole : AccountRole
  policyHash : String
  bookFingerprint : String
  envelopeHash : String
  approvedMaxLoss : Decimal
  quantity : Int
  validFrom : Int
  expiresAt : Int
  valid : Bool := true

structure AssessmentCertificate where
  certificateId : Uuid
  assessmentId : Uuid
  thesisVersionId : Uuid
  accountRole : AccountRole
  action : ExecutionAction
  positionFingerprint : String
  envelopeHash : String
  approvedMaxLoss : Decimal
  quantity : Int
  policyHash : String
  createdAt : Int
  expiresAt : Int
  valid : Bool := true

/-- The account at the start of the competition. -/
structure SubmissionBaseline where
  equity : Decimal
  capturedAt : Int
  accountFingerprint : String
  positionsHash : String
  ordersHash : String
  activitiesHash : String
  clean : Bool

structure ExecutionCertificateFields where
  certificateId : Uuid
  intentId : Uuid
  entryApprovalId : Option Uuid
  assessmentCertificateId : Option Uuid
  executionStatus : String
  attemptIds : List String
  actualExposure : Option GreekExposure
  reconciliationChecks : List String
  createdAt : Int
  reconciliationId : Option Uuid := none
  reconciliationHash : Option String := none
  lastObservationHash : Option String := none
deriving DecidableEq, Repr

/-- The check made when a certificate is built. -/
def ExecutionCertificateFields.postInit (certificate : ExecutionCertificateFields) :
    Except Failure Unit := do
  raiseIf (certificate.entryApprovalId.isNone == certificate.assessmentCertificateId.isNone)
    (.value "EXACTLY_ONE_AUTHORIZATION_ORIGIN_REQUIRED")
  raiseIf ((certificate.reconciliationId.isSome || certificate.reconciliationHash.isSome ||
      certificate.lastObservationHash.isSome) &&
    !(certificate.reconciliationId.isSome && certificate.reconciliationHash.isSome &&
      certificate.lastObservationHash.isSome)) (.value "FINALIZATION_PROVENANCE_INCOMPLETE")

structure ExecutionCertificate extends ExecutionCertificateFields where
  valid : toExecutionCertificateFields.postInit = .ok ()
deriving DecidableEq

/-- Build a certificate, or say why it is invalid. -/
def ExecutionCertificate.make (fields : ExecutionCertificateFields) :
    Except Failure ExecutionCertificate :=
  build ExecutionCertificateFields.postInit (fun fields valid => { fields with valid }) fields

end AlphaDecay
