import AlphaDecay.Execution.Identity

/-!
# Checks that the repositories share

The rule by which a new observation of an attempt may follow the attempt on record, the check of
an intent against its authorization, the check of an entry against the limits, and the check of a
finalization.
-/

namespace AlphaDecay

open Foundation

/-! ## Observations -/

/-- A cash flow that is missing or zero. -/
def isZeroCashFlow : Option Decimal → Bool
  | none => true
  | some value => value == Decimal.ofInt 0

/-- The observed cash flow keeps the sign of the one on record and does not shrink. -/
def cashFlowContinues (existing observed : Option Decimal) : Bool :=
  match existing, observed with
  | some old, some new => old.negative == new.negative && old.abs ≤ new.abs
  | _, _ => false

/-- Require that an observed attempt has a cash flow exactly when it has a fill. -/
def requireCashFlow (observed : OrderAttempt) : Except Failure Unit :=
  if observed.filledQuantity = 0 then
    raiseIf (!isZeroCashFlow observed.fillCashFlow) (.blocked "ATTEMPT_CASH_FLOW_INVALID")
  else raiseIf (isZeroCashFlow observed.fillCashFlow) (.blocked "ATTEMPT_CASH_FLOW_REQUIRED")

/-- Require that an observed attempt may follow the attempt on record. -/
def validateAttemptObservation (existing observed : OrderAttempt) : Except Failure Unit := do
  let state ← require observed.state.brokerState (.blocked "ATTEMPT_STATE_INVALID")
  let providerOrderId ← require observed.providerOrderId (.blocked "ATTEMPT_PROVIDER_ID_REQUIRED")
  raiseIf (providerOrderId.isEmpty || !isStripped providerOrderId ||
    providerOrderId.toList.length > 128) (.blocked "ATTEMPT_PROVIDER_ID_INVALID")
  raiseIf (existing.providerOrderId.any fun id => providerOrderId != id)
    (.blocked "ATTEMPT_PROVIDER_ID_MISMATCH")
  raiseIf (existing.quantity < 0 || observed.quantity ≤ 0 ||
    (0 < existing.quantity && observed.quantity != existing.quantity))
    (.blocked "ATTEMPT_QUANTITY_MISMATCH")
  raiseIf (observed.filledQuantity < existing.filledQuantity) (.blocked "ATTEMPT_FILL_REGRESSION")
  raiseIf (!(0 ≤ observed.filledQuantity ∧ observed.filledQuantity ≤ observed.quantity))
    (.blocked "ATTEMPT_FILL_INVALID")
  requireCashFlow observed
  raiseIf (!isZeroCashFlow existing.fillCashFlow &&
    !cashFlowContinues existing.fillCashFlow observed.fillCashFlow)
    (.blocked "ATTEMPT_CASH_FLOW_REGRESSION")
  raiseIf (existing.state.satisfies BrokerOrderState.isTerminal &&
    observed.state != existing.state) (.blocked "ATTEMPT_TERMINAL_STATE_REGRESSION")
  raiseIf (!brokerStateMatchesFill state observed.filledQuantity observed.quantity)
    (.blocked "ATTEMPT_STATE_FILL_INVALID")

/-- An observation that may follow is in a broker state that its fill fits. -/
theorem validateAttemptObservation_state {existing observed : OrderAttempt}
    (h : validateAttemptObservation existing observed = .ok ()) :
    ∃ state, observed.state = .broker state ∧
      brokerStateMatchesFill state observed.filledQuantity observed.quantity = true := by
  simp only [validateAttemptObservation, require_bind_ok, check_bind_ok,
    AttemptState.brokerState_eq_some, raiseIf_ok, Bool.not_eq_false'] at h
  obtain ⟨state, hstate, _, _, h⟩ := h
  exact ⟨state, hstate, h.2.2.2.2.2.2.2.2⟩

/-! ## Authorizations -/

structure AuthorizationValues where
  accountRole : AccountRole
  policyHash : String
  fingerprint : String
  envelopeHash : String
  approvedMaxLoss : Decimal
  quantity : Int
  valid : Bool
  validFrom : Int
  expiresAt : Int

/-- Require that an authorization covers an intent at a time. -/
def validateAuthorization [Digest] (intent : ExecutionIntent) (authorization : AuthorizationValues)
    (now : Int) : Except Failure Unit := do
  let envelope := intent.envelope
  raiseIf (authorization.accountRole != intent.accountRole)
    (.blocked "AUTHORIZATION_ACCOUNT_ROLE_MISMATCH")
  raiseIf (authorization.policyHash != envelope.policyHash)
    (.blocked "AUTHORIZATION_POLICY_MISMATCH")
  raiseIf (authorization.fingerprint != envelope.positionOrBookFingerprint)
    (.blocked "AUTHORIZATION_FINGERPRINT_MISMATCH")
  raiseIf (authorization.envelopeHash != orderEnvelopeHash envelope)
    (.blocked "AUTHORIZATION_ENVELOPE_MISMATCH")
  raiseIf (authorization.approvedMaxLoss != envelope.approvedMaxLoss)
    (.blocked "AUTHORIZATION_RISK_MISMATCH")
  raiseIf (authorization.quantity != envelope.quantity) (.blocked "AUTHORIZATION_QUANTITY_MISMATCH")
  raiseIf (!authorization.valid) (.blocked "AUTHORIZATION_INVALID")
  raiseIf (now < authorization.validFrom) (.blocked "AUTHORIZATION_NOT_YET_VALID")
  raiseIf (authorization.expiresAt ≤ now) (.blocked "AUTHORIZATION_EXPIRED")

/-! ## Entry limits -/

/-- A `ValueError` raised again as an `ExecutionBlocked` with its code. -/
def asBlocked {α : Type} : Except Failure α → Except Failure α
  | .error (.value code) => .error (.blocked code)
  | result => result

/-- Require that an entry stays within the limits. -/
def validateEntryLimits (limits : Option EntryBudgetLimits) (entry : ProposedEntry) :
    Except Failure Unit :=
  match limits with
  | none => .error (.blocked "ENTRY_LIMITS_REQUIRED")
  | some limits => asBlocked (limits.validateEntry entry)

/-- An entry stays within the limits when there are limits and it passes their check. -/
theorem validateEntryLimits_ok {limits : Option EntryBudgetLimits} {entry : ProposedEntry} :
    validateEntryLimits limits entry = .ok () ↔
      ∃ required, limits = some required ∧ required.validateEntry entry = .ok () := by
  cases limits with
  | none => simp [validateEntryLimits]
  | some required =>
      simp only [validateEntryLimits, Option.some.injEq, exists_eq_left']
      cases hcheck : required.validateEntry entry with
      | ok => simp [asBlocked]
      | error failure => cases failure <;> simp [asBlocked]

/-- Refuse the role that never executes. -/
def ensureExecutableRole (role : AccountRole) : Except Failure Unit :=
  raiseIf (role == .replay) (.blocked "REPLAY_EXECUTION_FORBIDDEN")

/-! ## Finalizations -/

/-- The checks that every execution certificate lists. -/
def reconciliationChecks : List String :=
  ["TERMINAL", "REMAINDER_ABSENT", "WHOLE_ACCOUNT_RECONCILED"]

/-- The states in which the last attempt of an execution can be finalized. -/
def isTerminalAttempt (state : AttemptState) : Bool :=
  state.satisfies BrokerOrderState.isFinalizable || state == .assignmentLocked

/-- Why an account is locked after a reconciliation. -/
def executionLockReason (reconciliation : Reconciliation) : Option String :=
  if reconciliation.assignmentSuspected then some "ASSIGNMENT_SUSPECTED"
  else if !reconciliation.matchesExpected then some "RECONCILIATION_MISMATCH"
  else none

/-- The requested status fits the last attempt and its fill. -/
def requestedStatusMatches (requestedStatus : String) (terminalAttempt : OrderAttempt)
    (filledQuantity quantity : Int) : Bool :=
  let state := terminalAttempt.state
  if requestedStatus = "FILLED" then
    (state == .broker .filled || state == .broker .calculated) && filledQuantity == quantity
  else if requestedStatus = "PARTIAL_CANCELED_RECONCILED" then
    state == .broker .canceled && (0 < filledQuantity ∧ filledQuantity < quantity)
  else if requestedStatus = "PARTIAL_EXPIRED_RECONCILED" then
    state == .broker .expired && (0 < filledQuantity ∧ filledQuantity < quantity)
  else if requestedStatus = "PARTIAL_REPLACED_RECONCILED" then
    state == .broker .replaced && (0 < filledQuantity ∧ filledQuantity < quantity)
  else if requestedStatus = "ASSIGNMENT_LOCKED" then state == .assignmentLocked
  else if ["REJECTED", "CANCELED", "EXPIRED", "REPLACED", "UNFILLED"].contains requestedStatus then
    (state == .broker .rejected || state == .broker .canceled || state == .broker .expired ||
      state == .broker .replaced) && filledQuantity == 0
  else false

/-- The attempts in order, each with the client order id of the attempt before it. -/
def withPredecessor : Option String → List OrderAttempt → List (Option String × OrderAttempt)
  | _, [] => []
  | previous, attempt :: rest =>
      (previous, attempt) :: withPredecessor (some attempt.clientOrderId) rest

/-- Require that the fill of an attempt fits its broker state. -/
def requireFillFits (attempt : OrderAttempt) : Except Failure Unit :=
  if attempt.state = .assignmentLocked then .ok ()
  else do
    let state ← require attempt.state.brokerState (.value "BROKER_ORDER_STATE_UNKNOWN")
    raiseIf (!brokerStateMatchesFill state attempt.filledQuantity attempt.quantity)
      (.blocked "ATTEMPT_STATE_FILL_INVALID")

def validateFinalAttempt (intent : ExecutionIntent) (last : OrderAttempt)
    (entry : Option String × OrderAttempt) : Except Failure Unit := do
  let attempt := entry.2
  raiseIf (attempt.intentId != intent.intentId || attempt.quantity != intent.envelope.quantity)
    (.blocked "ATTEMPT_QUANTITY_MISMATCH")
  raiseIf (!(0 ≤ attempt.filledQuantity ∧ attempt.filledQuantity ≤ attempt.quantity))
    (.blocked "ATTEMPT_FILL_INVALID")
  requireFillFits attempt
  raiseIf (attempt.ordinal < last.ordinal && attempt.filledQuantity != 0)
    (.blocked "ATTEMPT_FILL_LINEAGE_INVALID")
  raiseIf (attempt.replacesClientOrderId != entry.1) (.blocked "ATTEMPT_LINEAGE_INVALID")

/-- Require that an execution can be finalized with a certificate, and return the certificate as
it is stored with whether the execution had a fill. -/
def validateFinalization [Digest] (intent : ExecutionIntent) (attempts : List OrderAttempt)
    (certificate : ExecutionCertificate) (reconciliation : Reconciliation)
    (requestedStatus : String) (trustedNow : Int) :
    Except Failure (ExecutionCertificate × Bool) := do
  raiseIf (intent.state != .claimed) (.blocked "INTENT_NOT_CLAIMED")
  raiseIf (attempts.isEmpty || attempts.map (fun attempt => attempt.ordinal) !=
    (List.range attempts.length).map fun index => (index : Int))
    (.blocked "ATTEMPT_LINEAGE_INVALID")
  let last ← require attempts.getLast? (.blocked "ATTEMPT_LINEAGE_INVALID")
  raiseIf (attempts.length > 4 || !isTerminalAttempt last.state) (.blocked "ATTEMPT_NOT_TERMINAL")
  raiseIf intent.firstFillConsumed (.blocked "EXECUTION_ALREADY_CONSUMED")
  checkEach (validateFinalAttempt intent last) (withPredecessor none attempts)
  raiseIf (!reconciliation.terminal || !reconciliation.remainderAbsent)
    (.blocked "RECONCILIATION_INCOMPLETE")
  raiseIf (!requestedStatusMatches requestedStatus last last.filledQuantity
    intent.envelope.quantity) (.blocked "EXECUTION_STATUS_ATTEMPT_MISMATCH")
  let executionStatus :=
    if reconciliation.assignmentSuspected then "ASSIGNMENT_LOCKED"
    else if !reconciliation.matchesExpected && requestedStatus != "ASSIGNMENT_LOCKED" then
      "RECONCILIATION_MISMATCH"
    else requestedStatus
  raiseIf (certificate.certificateId != Digest.uuid5 ("alphadecay:execution:" ++ intent.digest))
    (.blocked "CERTIFICATE_ID_MISMATCH")
  let isEntry := intent.envelope.action == .entry
  let authorizationId := some intent.envelope.authorizationCertificateId
  raiseIf (certificate.intentId != intent.intentId ||
    certificate.entryApprovalId != (if isEntry then authorizationId else none) ||
    certificate.assessmentCertificateId != (if isEntry then none else authorizationId) ||
    certificate.attemptIds != attempts.map fun attempt => attempt.clientOrderId)
    (.blocked "CERTIFICATE_LINEAGE_MISMATCH")
  raiseIf (certificate.executionStatus != executionStatus)
    (.blocked "CERTIFICATE_STATUS_MISMATCH")
  raiseIf (certificate.actualExposure != reconciliation.actualExposure)
    (.blocked "CERTIFICATE_EXPOSURE_MISMATCH")
  raiseIf (certificate.reconciliationChecks != reconciliationChecks)
    (.blocked "CERTIFICATE_CHECKS_MISMATCH")
  return ({ certificate with createdAt := trustedNow, valid := certificate.valid },
    0 < last.filledQuantity)

/-- Only a claimed intent that has not been filled is finalized. -/
theorem validateFinalization_open [Digest] {intent : ExecutionIntent}
    {attempts : List OrderAttempt} {certificate : ExecutionCertificate}
    {reconciliation : Reconciliation} {requestedStatus : String} {trustedNow : Int}
    {result : ExecutionCertificate × Bool}
    (h : validateFinalization intent attempts certificate reconciliation requestedStatus
      trustedNow = .ok result) :
    intent.state = .claimed ∧ intent.firstFillConsumed = false := by
  simp only [validateFinalization, check_bind_ok, require_bind_ok, raiseIf_ok,
    bne_eq_false_iff_eq] at h
  obtain ⟨hstate, -, last, -, -, hconsumed, -⟩ := h
  exact ⟨hstate, hconsumed⟩

end AlphaDecay
